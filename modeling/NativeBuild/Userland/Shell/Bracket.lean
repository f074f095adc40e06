import NativeBuild.Userland.Condition
import NativeBuild.Userland.Shell.Fill
import NativeBuild.Userland.Regex.Match
import NativeBuild.Userland.Regex.Parse

/-!
Conditions in double brackets: their words are not split, the right side of an equality is a
pattern, and numbers are sums.
-/

namespace NativeBuild.Shell

open Text (Regex Subject)

/-- How a shell reads conditions that are given by arguments. -/
def State.conditionStyle (s : State) : ConditionStyle :=
  { doubleEquals := s.isRich
    compares := true
    anySize := false
    missingIsOld := s.isRich
    mayLack := !s.isRich
    isSet := fun name => if !s.isRich then none else some <|
      let base := name.takeWhile (· ≠ '[')
      match name.drop base.length with
      | '[' :: key =>
        let key := key.takeWhile (· ≠ ']')
        (((s.var? (s.resolve base)).bind (·.value)).map fun v =>
          key = ['@'] || (State.itemOf v key (number key)).isSome).getD false
      | _ => (s.value? name).isSome
    isWished := fun name => if !s.isRich then none else some <|
      match String.ofList name with
      | "errexit" => s.options.errexit
      | "nounset" => s.options.nounset
      | "noglob" => s.options.noglob
      | "allexport" => s.options.allexport
      | "noclobber" => s.options.noclobber
      | "pipefail" => s.options.pipefail
      | "xtrace" => s.options.xtrace
      | "monitor" => s.options.monitor
      | _ => false }

/-- A filled word as a regular expression: what was quoted stands for itself. -/
def regexText (text : List Marked) : Raw :=
  text.flatMap fun (c, isQuoted) =>
    if isQuoted && "\\^$.[]|()*+?\x7b\x7d".toList.contains c then ['\\', c] else [c]

/-- Match a text against a regular expression and keep the parts that it matched; nothing if it is
badly formed. -/
def State.matchRegex (s : State) (text pattern : Raw) : State × Option Bool :=
  match Regex.parse? .extended pattern with
  | none => (s, none)
  | some r =>
    let subject : Subject := ⟨text.toArray, s.wishes.contains "nocasematch"⟩
    let groups := 1 + pattern.count '('
    let (holds, parts) : Bool × List (Nat × Raw) :=
      match r.search subject 0 with
      | some m => (true, (List.range groups).map fun n => (n, (m.group? subject n).getD []))
      | none => (false, [])
    (s.putVariable "BASH_REMATCH".toList { value := some (.list parts) }, some holds)

/-- Whether a condition holds; nothing if it cannot be told. -/
def Condition.judge (go : Go) : Condition → State → State × Option Bool
  | .holds w, s =>
    let (s, text) := oneText go w s
    (s, some !text.isEmpty)
  | .unary op w, s =>
    let (s, text) := oneText go w s
    (s, NativeBuild.Condition.unary s.conditionStyle s.toProcess op text)
  | .binary op a b, s =>
    let (s, left) := oneText go a s
    let (s, chunks) := fillWord go (s.tildes false true b) s
    let right := unsplit chunks
    let style := s.language.globStyle true (s.wishes.contains "nocasematch")
    let fits : Bool := (Pattern.of style right).accepts left
    let numbers (test : Int → Int → Bool) : State × Option Bool :=
      match s.reckon? left with
      | none => (s, none)
      | some (m, s) =>
        match s.reckon? (unmark right) with
        | none => (s, none)
        | some (n, s) => (s, some (test m n))
    match String.ofList op with
    | "=" => (s, some fits)
    | "==" => (s, some fits)
    | "!=" => (s, some !fits)
    | "=~" => s.matchRegex left (regexText right)
    | "-eq" => numbers (· = ·)
    | "-ne" => numbers (· ≠ ·)
    | "-lt" => numbers (· < ·)
    | "-le" => numbers (· ≤ ·)
    | "-gt" => numbers (· > ·)
    | "-ge" => numbers (· ≥ ·)
    | _ => (s, (NativeBuild.Condition.binary s.conditionStyle s.toProcess left op
        (unmark right)).bind id)
  | .not c, s =>
    let (s, result) := judge go c s
    (s, result.map fun b => !b)
  | .both a b, s =>
    match judge go a s with
    | (s, some true) => judge go b s
    | result => result
  | .either a b, s =>
    match judge go a s with
    | (s, some false) => judge go b s
    | result => result

end NativeBuild.Shell
