import NativeBuild.Userland.Tool.Awk.State
import NativeBuild.Userland.Tool.Awk.Token
import NativeBuild.Userland.Tool.Start

/-!
What a program that goes through records reads from and writes to: files, its input and output, and
commands.
-/

namespace NativeBuild.Tool.Awk

open Shell (Raw rawString rawPath isName)

/-- Change what the program knows. -/
def update (f : Run → Run) : Step Unit :=
  modifyThe Run f

/-- End the program because of a fault. -/
def fault {α : Type} (c : Call) (message : Raw) : Step α := do
  c.complain message
  update fun r => { r with status := 2 }
  throw .exit

/-- Run a command of the shell. -/
def runCommand (c : Call) (text : Raw) (change : Process → Process) : Step Exit := do
  let (p, number) := (← getThe Process).fork
  set p
  let child := change { p with number }
  match c.start child c.env "sh".toList ["-c".toList, text] with
  | .ok (after, exit) =>
    set (p.after after)
    return exit
  | .error _ => return .status 127

/-- The output of a command of the shell. -/
def outputOf (c : Call) (text : Raw) : Step Raw := do
  let p ← getThe Process
  let (world, id) := p.world.buffer
  set { p with world }
  let _ ← runCommand c text fun p => p.setHandle 1 (some (.buffer id))
  let p ← getThe Process
  let (world, output) := p.world.takeBuffer id
  set { p with world }
  return output

/-- Close what a program writes to or reads from; a command is run on what was written for it. -/
def closeStream (c : Call) (key : Bool × Raw) : Step (Option Exit) := do
  match (← getThe Run).streams.lookup key with
  | none => return none
  | some stream =>
    update fun r => { r with streams := r.streams.filter (·.1 ≠ key) }
    match stream with
    | .command text =>
      let p ← getThe Process
      let (world, source) := p.world.source ⟨text.reverse.flatten, false⟩
      set { p with world }
      return some (← runCommand c key.2 fun p => p.setHandle 0 (some source))
    | _ => return some (.status 0)

/-- Put a stream in the place of what it was. -/
def putStream (key : Bool × Raw) (s : Stream) : Step Unit :=
  update fun r => { r with streams := (key, s) :: r.streams.filter (·.1 ≠ key) }

/-- Write to where output goes. -/
def writeTo (c : Call) (outlet : Option (Outlet × Raw)) (text : Raw) : Step Unit := do
  match outlet with
  | none => out text
  | some (.command, name) =>
    let key := (true, name)
    match (← getThe Run).streams.lookup key with
    | some (.command old) => putStream key (.command (text :: old))
    | _ => putStream key (.command [text])
  | some (kind, name) =>
    let key := (false, name)
    if name = "/dev/stdout".toList ∨ name = ['-'] then out text
    else if name = "/dev/stderr".toList then modifyThe Process fun p => p.write 2 text
    else
      match (← getThe Run).streams.lookup key with
      | some (.output channel) =>
        modifyThe Process fun p => { p with world := p.world.write channel text }
      | _ =>
        let mode : Process.WriteMode := if kind = .append then .append else .anew
        match (← getThe Process).openToWrite mode (rawPath name) with
        | .ok (p, channel) =>
          set { p with world := p.world.write channel text }
          putStream key (.output channel)
        | .error e => fault c (rawString "cannot open " ++ fileFault name e)

/-- Take a record from a stream that is opened by `first`, if it is not open yet; nothing inside if
it cannot be opened. -/
def takeFrom (key : Bool × Raw) (first : Step (Option Raw)) : Step (Option (Option Raw)) := do
  let r ← getThe Run
  let waiting : Option Raw ← match r.streams.lookup key with
    | some (.input rest) => pure (some rest)
    | _ => first
  match waiting with
  | none => return none
  | some text =>
    match takeRecord (r.setting "RS") text with
    | some (record, rest) =>
      putStream key (.input rest)
      return some (some record)
    | none =>
      putStream key (.input [])
      return some none

/-- The text of a string with its escapes resolved, as in the value of an assignment among the
arguments. -/
def resolved (text : Raw) : Raw :=
  let quoted := (text.flatMap fun c => if c = '"' then ['\\', '"'] else [c]) ++ ['"']
  ((takeText (quoted.length + 1) quoted).map Prod.fst).getD text

/-- Open the next of the files that are named as arguments, or the input if there are none; the
answer says whether there is one.  Assignments among the arguments are made. -/
def nextInput (c : Call) : Nat → Step Bool
  | 0 => return false
  | more + 1 => do
    let r ← getThe Run
    let count := (wholePart ((match r.globals.lookup "ARGC".toList with
      | some (.value v) => v.toNumber
      | _ => 0))).toNat
    let start (text : Raw) : Step Bool := do
      update fun r => { r with input := some text, hasRead := true }.putSetting "FNR" (.number 0)
      return true
    if count ≤ r.argument then
      if r.hasRead then return false else start (← takeInput)
    else
      let (r, id) := r.arrayOf "ARGV".toList
      set { r with argument := r.argument + 1 }
      match ((r.items id).lookup (Text.decimal r.argument)).map (Value.toText r.conversion) with
      | none => nextInput c more
      | some [] => nextInput c more
      | some name =>
        let target := name.takeWhile (· ≠ '=')
        if name.contains '=' && isName target then
          update fun r => r.putVar target (.input (resolved (name.drop (target.length + 1))))
          nextInput c more
        else
          match ← content name with
          | .ok text =>
            update fun r => r.putSetting "FILENAME" (.text name)
            start text
          | .error e => fault c (rawString "cannot open " ++ fileFault name e)

/-- Take the next record of the input. -/
def nextRecord (c : Call) : Nat → Step (Option Raw)
  | 0 => return none
  | more + 1 => do
    let r ← getThe Run
    match r.input with
    | none => if ← nextInput c 100000 then nextRecord c more else return none
    | some text =>
      match takeRecord (r.setting "RS") text with
      | some (record, rest) =>
        update fun r => { r with input := some rest }.counted true
        return some record
      | none =>
        update fun r => { r with input := none }
        nextRecord c more

end NativeBuild.Tool.Awk
