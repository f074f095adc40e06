import NativeBuild.Userland.Tool.Awk.Execute
import NativeBuild.Userland.Tool.Awk.Parse

/-!
The tool that goes through records of text and does with them what a program says.
-/

namespace NativeBuild.Tool

namespace Awk

open Shell (Raw rawString)

/-- How deep the parts of a program may lie and how often its loops may run. -/
def fuel : Nat := 1000000

/-- Do what a rule says for the record, if its pattern fits it. -/
def applyRule (c : Call) (number : Nat) (rule : Rule) : Step Unit := do
  let act : Step Unit := do
    let _ ← execute c fuel (rule.action.getD (.print [] none))
  match rule.pattern with
  | .every => act
  | .whenever e => if (← evaluate c fuel e).isTrue then act
  | .between a b =>
    let isActive := (← getThe Run).active.contains number
    let starts ← if isActive then pure true else do pure (← evaluate c fuel a).isTrue
    if starts then
      let ends := (← evaluate c fuel b).isTrue
      update fun r =>
        { r with active :=
            if ends then r.active.filter (· ≠ number)
            else if isActive then r.active else number :: r.active }
      act
  | _ => return ()

/-- Go through the records of the input. -/
def eachRecord (c : Call) (rules : List (Rule × Nat)) : Nat → Step Unit
  | 0 => return ()
  | more + 1 => do
    match ← nextRecord c 100000 with
    | none => return ()
    | some text =>
      update fun r => r.putRecord text
      tryCatch (rules.forM fun (rule, number) => applyRule c number rule) fun
        | .next => return ()
        | .nextFile => update fun r => { r with input := none }
        | .exit => throw .exit
      eachRecord c rules more

/-- Do what the rules of one kind say. -/
def runRules (c : Call) (rules : List Rule) (isOne : Pattern → Bool) : Step Unit :=
  (rules.filter fun rule => isOne rule.pattern).forM fun rule => do
    let _ ← execute c fuel (rule.action.getD (.block []))

/-- Run a part of a program to its end, however it is left. -/
def attempt (part : Step Unit) : StateT Run Act Bool := do
  match ← part.run with
  | .ok () => return true
  | .error .exit => return false
  | .error _ => return true

/-- Run a program: what is done at the start, for the records, and at the end. -/
def Program.run (c : Call) (p : Program) : StateT Run Act Unit := do
  let isStart : Pattern → Bool
    | .start => true
    | _ => false
  let isFinish : Pattern → Bool
    | .finish => true
    | _ => false
  let isBetween (rule : Rule) : Bool := !isStart rule.pattern && !isFinish rule.pattern
  let main := (p.rules.filter isBetween).zipIdx
  let goesOn ← attempt (runRules c p.rules isStart)
  if goesOn && (p.rules.any fun rule => !isStart rule.pattern) then
    let _ ← attempt (eachRecord c main 100000000)
  if (← getThe Run).status ≠ 2 || goesOn then
    let _ ← attempt (runRules c p.rules isFinish)
  let keys := ((← getThe Run).streams.map Prod.fst).reverse
  let _ ← attempt (keys.forM fun key => do
    let _ ← closeStream c key)

/-- What is known at the start. -/
def startOf (c : Call) (p : Program) (separator : Option Raw) (operands : List Raw) : Run :=
  let settings : List (String × Value) :=
    [("FS", .text ((separator.map resolved).getD [' '])), ("OFS", .text [' ']),
      ("RS", .text ['\n']), ("ORS", .text ['\n']), ("SUBSEP", .text [Char.ofNat 28]),
      ("CONVFMT", .text "%.6g".toList), ("OFMT", .text "%.6g".toList), ("NF", .number 0),
      ("NR", .number 0), ("FNR", .number 0), ("RSTART", .number 0), ("RLENGTH", .number (-1)),
      ("FILENAME", .unset), ("ARGC", .number (Float.ofNat (operands.length + 1)))]
  let r := settings.foldl (fun r s => r.putSetting s.1 s.2) ({ functions := p.functions } : Run)
  let (r, argv) := r.arrayOf "ARGV".toList
  let r :=
    r.putItems argv ((c.name :: operands).zipIdx.map fun (a, k) => (Text.decimal k, .input a))
  let (r, environ) := r.arrayOf "ENVIRON".toList
  r.putItems environ (c.env.map fun (name, value) => (name, .input value))

/-- The text of a program given as files. -/
def programText (c : Call) (files : List Raw) : Act (Option Raw) := do
  let mut text : Raw := []
  for file in files do
    match ← content file with
    | .ok more => text := text ++ more ++ ['\n']
    | .error e =>
      c.complain (fileFault file e)
      return none
  return some text

end Awk

open Shell

/-- Run a program on the records of files. -/
def awk (c : Call) : Act Exit := do
  let known : OptionSet := { letters := "F:v:f:W:", permutes := false }
  let refused (message : String) : Act Exit := do
    c.complain (rawString message)
    return .status 2
  match known.read? c.args with
  | none => refused "invalid option"
  | some g =>
    let files := g.values 'f'
    let (text, operands) : Option Raw × List Raw ←
      if !files.isEmpty then do pure (← Awk.programText c files, g.operands)
      else
        match g.operands with
        | text :: rest => pure (some text, rest)
        | [] => pure (none, [])
    match text with
    | none => refused "no program"
    | some text =>
      match Awk.Program.read? text with
      | none => refused "syntax error"
      | some p =>
        let start := Awk.startOf c p (g.value? 'F') operands
        let start := (g.values 'v').foldl
          (fun r setting =>
            let (name, value) := Text.cut '=' setting
            r.putVar name (.input (Awk.resolved (value.getD [])))) start
        let (_, r) ← (p.run c).run start
        return .status r.status

end NativeBuild.Tool
