import NativeBuild.Userland.Condition

/-!
Permissions: written as octal digits, or as changes for some of those concerned.
-/

namespace NativeBuild.Tool

open Shell

/-- Those whom a permission concerns, as bits of a mode. -/
def whoBits (c : Char) : Option Nat :=
  match c with
  | 'u' => some 0o4700
  | 'g' => some 0o2070
  | 'o' => some 0o1007
  | 'a' => some 0o7777
  | _ => none

/-- The bits of a permission for everybody; one to run counts for directories and for what somebody
may run already, if it is the careful one. -/
def rightBits (isRunnable : Bool) (c : Char) : Option Nat :=
  match c with
  | 'r' => some 0o444
  | 'w' => some 0o222
  | 'x' => some 0o111
  | 'X' => some (if isRunnable then 0o111 else 0)
  | 's' => some 0o6000
  | 't' => some 0o1000
  | _ => none

/-- The permissions that one of those concerned has, given to everybody. -/
def copiedBits (mode : Nat) (c : Char) : Option Nat :=
  let spread (bits : Nat) : Nat := bits * 0o111
  match c with
  | 'u' => some (spread (mode / 64 % 8))
  | 'g' => some (spread (mode / 8 % 8))
  | 'o' => some (spread (mode % 8))
  | _ => none

/-- The bits of a mode without some others. -/
def without (mode bits : Nat) : Nat :=
  mode - (mode &&& bits)

/-- Apply the actions of a clause for some of those concerned, in at most `fuel` steps. -/
def applyActions (umask who : Nat) (implied isRunnable : Bool) : Nat → Raw → Nat → Option Nat
  | 0, _, _ => none
  | _, [], mode => some mode
  | fuel + 1, op :: rest, mode =>
    let isAction (c : Char) : Bool := c = '+' || c = '-' || c = '='
    if !isAction op then none
    else
      let rights := rest.takeWhile fun c => !isAction c
      let after := rest.drop rights.length
      let bits : Option Nat := match rights with
        | [c] => (copiedBits mode c).orElse fun _ => rightBits isRunnable c
        | _ => rights.foldlM (fun bits c => (rightBits isRunnable c).map (bits ||| ·)) 0
      match bits with
      | none => none
      | some bits =>
        let allowed := if implied then without bits umask else bits
        let meant := allowed &&& who
        let next :=
          if op = '+' then mode ||| meant
          else if op = '-' then without mode meant
          else without mode (who &&& 0o777 ||| (if implied then 0o777 else 0)) ||| meant
        applyActions umask who implied isRunnable fuel after next

/-- The mode that a text makes of another one; `none` if it is none. -/
def newMode? (umask : Nat) (isRunnable : Bool) (text : Raw) (mode : Nat) : Option Nat :=
  if text.isEmpty then none
  else if text.all Text.isDigit then
    if text.all fun c => '0' ≤ c && c ≤ '7' then
      let n := text.foldl (fun n c => n * 8 + Text.digitValue c) 0
      if n ≤ 0o7777 then some n else none
    else none
  else
    (Text.pieces ',' text).foldlM
      (fun mode clause =>
        let who := clause.takeWhile fun c => (whoBits c).isSome
        let actions := clause.drop who.length
        let bits := who.foldl (fun bits c => bits ||| (whoBits c).getD 0) 0
        if actions.isEmpty then none
        else if who.isEmpty then
          applyActions umask 0o7777 true isRunnable (actions.length + 1) actions mode
        else applyActions umask bits false isRunnable (actions.length + 1) actions mode) mode

/-- A mode as letters behind the letter of a kind of file. -/
def modeText (e : Entry) (mode : Nat) : Raw :=
  let kind : Char := match e with
    | .directory => 'd'
    | .link _ => 'l'
    | .here => 'l'
    | .pipe => 'p'
    | .nothing => 'c'
    | .zeros => 'c'
    | .descriptor _ => 'l'
    | _ => '-'
  let bit (n : Nat) : Bool := mode &&& n ≠ 0
  let right (n : Nat) (c : Char) : Char := if bit n then c else '-'
  let run (n special : Nat) (low high : Char) : Char :=
    if bit special then (if bit n then low else high) else right n 'x'
  [kind, right 0o400 'r', right 0o200 'w', run 0o100 0o4000 's' 'S', right 0o40 'r', right 0o20 'w',
    run 0o10 0o2000 's' 'S', right 0o4 'r', right 0o2 'w', run 0o1 0o1000 't' 'T']

end NativeBuild.Tool
