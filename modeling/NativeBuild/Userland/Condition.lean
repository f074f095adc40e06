import NativeBuild.Userland.Process

/-!
Conditions on files, texts and numbers, as they are given by arguments.
-/

namespace NativeBuild

open Shell

namespace Files

/-- The permissions of what stands at a place. -/
def mode (files : Files) (loc : Location) (e : Entry) : Nat :=
  match (files.mark loc).mode with
  | some mode => mode
  | none =>
    match e with
    | .directory => 0o755
    | .file _ executable => if executable then 0o755 else 0o644
    | .program _ => 0o755
    | .link _ => 0o777
    | .here => 0o777
    | .pipe => 0o644
    | _ => 0o666

/-- The time of the last change at a place, in nanoseconds since the start of the machine. -/
def changed (files : Files) (loc : Location) : Int :=
  (files.mark loc).changed.getD 0

/-- Give a place other permissions; a file can be run if anybody may. -/
def setMode (files : Files) (loc : Location) (e : Entry) (mode : Nat) : Files :=
  let files := files.setMark loc { files.mark loc with mode := some mode }
  match e with
  | .file bytes _ =>
    let changed := files.mark loc
    (files.put loc (.file bytes (mode &&& 0o111 ≠ 0))).setMark loc changed
  | _ => files

end Files

/-- How conditions are read: which way to compare texts is known, whether numbers may be of any
size, whether a file that is missing is older than one that is there, whether a condition may be
lacking, and which variables and wishes are set, where this can be asked. -/
structure ConditionStyle where
  doubleEquals : Bool
  compares : Bool
  anySize : Bool
  missingIsOld : Bool := true
  mayLack : Bool := false
  isSet : Raw → Option Bool := fun _ => none
  isWished : Raw → Option Bool := fun _ => none

namespace Process

/-- What a path leads to. -/
def entryAt (p : Process) (follow : Bool) (path : Raw) : Option (Location × Entry) :=
  match p.files.find p.here follow (rawPath path) with
  | .ok (loc, .descriptor n) =>
    match p.handles.lookup n with
    | some .nothing => some (loc, .nothing)
    | some (.file id) =>
      match p.world.openings.lookup id with
      | some o => (p.files.at? o.loc).map (o.loc, ·)
      | none => none
    | some _ => some (loc, .pipe)
    | none => none
  | .ok found => some found
  | .error _ => none

/-- Whether a path leads to a file that may be run, or a directory that may be entered. -/
def isExecutable (p : Process) (path : Raw) : Bool :=
  match p.entryAt true path with
  | some (_, .file _ executable) => executable
  | some (_, .directory) => true
  | some (_, .program _) => true
  | _ => false

end Process

namespace Condition

/-- The whole number that an argument is. -/
def integer? (anySize : Bool) (arg : Raw) : Option Int :=
  let body := (arg.dropWhile isSpace).reverse.dropWhile isSpace
  let body := body.reverse
  let n : Option Int := match body with
    | '-' :: rest => (Text.decimal? rest).map fun n => -(n : Int)
    | '+' :: rest => (Text.decimal? rest).map Int.ofNat
    | _ => (Text.decimal? body).map Int.ofNat
  n.filter fun n => anySize || (-0x8000000000000000 ≤ n && n < 0x8000000000000000)

/-- A condition on one argument; `none` if there is no such operator. -/
def unary (style : ConditionStyle) (p : Process) (op arg : Raw) : Option Bool :=
  let entry := p.entryAt true arg
  let found (test : Location → Entry → Bool) : Option Bool :=
    some ((entry.map fun (loc, e) => test loc e).getD false)
  let hasMode (bits : Nat) : Option Bool :=
    found fun loc e => p.files.mode loc e &&& bits ≠ 0
  match op with
  | ['-', 'n'] => some (!arg.isEmpty)
  | ['-', 'z'] => some arg.isEmpty
  | ['-', 'e'] => some entry.isSome
  | ['-', 'a'] => some entry.isSome
  | ['-', 'f'] => found fun _ e => e.isRegular
  | ['-', 'd'] => found fun _ e => e = .directory
  | ['-', 'r'] => some entry.isSome
  | ['-', 'w'] => some entry.isSome
  | ['-', 'x'] => some (p.isExecutable arg)
  | ['-', 's'] => found fun _ e => match e with
    | .file bytes _ => !bytes.isEmpty
    | .directory => true
    | .program _ => true
    | _ => false
  | ['-', 'c'] => found fun _ e => e = .nothing || e = .zeros
  | ['-', 'b'] => some false
  | ['-', 'p'] => found fun _ e => e = .pipe
  | ['-', 'S'] => some false
  | ['-', 'u'] => hasMode 0o4000
  | ['-', 'g'] => hasMode 0o2000
  | ['-', 'k'] => hasMode 0o1000
  | ['-', 'O'] => some entry.isSome
  | ['-', 'G'] => some entry.isSome
  | ['-', 'N'] => some false
  | ['-', 't'] => some false
  | ['-', 'v'] => style.isSet arg
  | ['-', 'o'] => style.isWished arg
  | _ =>
    if op = ['-', 'L'] ∨ op = ['-', 'h'] then
      some (match p.files.find p.here false (rawPath arg) with
        | .ok (_, .link _) => true
        | .ok (_, .here) => true
        | _ => false)
    else none

/-- A condition on two arguments: `none` if there is no such operator, and nothing inside if the
arguments do not fit it. -/
def binary (style : ConditionStyle) (p : Process) (a op b : Raw) : Option (Option Bool) :=
  let compare (r : Int → Int → Bool) : Option (Option Bool) :=
    some do
      let m ← integer? style.anySize a
      let n ← integer? style.anySize b
      some (r m n)
  let times (test : Option Int → Option Int → Bool) : Option (Option Bool) :=
    let time (path : Raw) : Option Int :=
      (p.entryAt true path).map fun (loc, _) => p.files.changed loc
    some (some (test (time a) (time b)))
  match String.ofList op with
  | "=" => some (some (a = b))
  | "!=" => some (some (a ≠ b))
  | "==" => if style.doubleEquals then some (some (a = b)) else none
  | "<" => if style.compares then some (some !(inOrder b a)) else none
  | ">" => if style.compares then some (some !(inOrder a b)) else none
  | "-eq" => compare (· = ·)
  | "-ne" => compare (· ≠ ·)
  | "-lt" => compare (· < ·)
  | "-le" => compare (· ≤ ·)
  | "-gt" => compare (· > ·)
  | "-ge" => compare (· ≥ ·)
  | "-nt" => times fun x y => match x, y with
    | some x, some y => x > y
    | some _, none => style.missingIsOld
    | none, _ => false
  | "-ot" => times fun x y => match x, y with
    | some x, some y => x < y
    | none, some _ => style.missingIsOld
    | _, none => false
  | "-ef" =>
    some (some (match p.entryAt true a, p.entryAt true b with
      | some (x, _), some (y, _) => (p.files.namesOf x).contains y
      | _, _ => false))
  | _ => none

/-- The result of reading a condition from arguments: whether it holds, and the arguments left. -/
abbrev Read := Option (Bool × List Raw)

mutual

/-- Read conditions of which one must hold. -/
def readEither (style : ConditionStyle) (p : Process) : Nat → List Raw → Read
  | 0, _ => none
  | fuel + 1, args => do
    let (a, rest) ← readBoth style p fuel args
    match rest with
    | ['-', 'o'] :: rest =>
      let (b, rest) ← readEither style p fuel rest
      some (a || b, rest)
    | _ => some (a, rest)

/-- Read conditions which must hold together. -/
def readBoth (style : ConditionStyle) (p : Process) : Nat → List Raw → Read
  | 0, _ => none
  | fuel + 1, args => do
    let (a, rest) ← readOne style p fuel args
    match rest with
    | ['-', 'a'] :: rest =>
      let (b, rest) ← readBoth style p fuel rest
      some (a && b, rest)
    | _ => some (a, rest)

/-- Read one condition, which may be denied or stand in brackets. -/
def readOne (style : ConditionStyle) (p : Process) : Nat → List Raw → Read
  | 0, _ => none
  | fuel + 1, args =>
    let plain : Read :=
      match args with
      | op :: a :: rest =>
        match unary style p op a with
        | some holds => some (holds, rest)
        | none => some (!op.isEmpty, a :: rest)
      | [a] => some (!a.isEmpty, [])
      | [] => if style.mayLack then some (false, []) else none
    match args with
    | a :: op :: b :: rest =>
      match binary style p a op b with
      | some holds => holds.map (·, rest)
      | none =>
        if a = ['!'] then (readOne style p fuel (op :: b :: rest)).map fun (h, rest) => (!h, rest)
        else if a = ['('] then do
          let (holds, rest) ← readEither style p fuel (op :: b :: rest)
          match rest with
          | [')'] :: rest => some (holds, rest)
          | _ => none
        else plain
    | [['!'], a] => some (a.isEmpty, [])
    | ['('] :: [')'] :: rest => if style.mayLack then some (false, rest) else plain
    | _ => plain

end

/-- Whether arguments that are a condition hold; `none` if they are not one.  With few arguments,
their number decides how they are read. -/
def holds? (style : ConditionStyle) (p : Process) (args : List Raw) : Option Bool :=
  let whole (args : List Raw) : Option Bool :=
    match readEither style p (3 * args.length + 4) args with
    | some (holds, []) => some holds
    | _ => none
  let two (args : List Raw) : Option Bool :=
    match args with
    | [['!'], a] => some a.isEmpty
    | [op, a] => unary style p op a
    | _ => none
  let three (args : List Raw) : Option Bool :=
    match args with
    | [a, op, b] =>
      match binary style p a op b with
      | some holds => holds
      | none =>
        if op = ['-', 'a'] then some (!a.isEmpty && !b.isEmpty)
        else if op = ['-', 'o'] then some (!a.isEmpty || !b.isEmpty)
        else if a = ['!'] then (two [op, b]).map not
        else if a = ['('] ∧ b = [')'] then some !op.isEmpty
        else none
    | _ => none
  match args with
  | [] => some false
  | [a] => some (!a.isEmpty)
  | [_, _] => if style.mayLack then (two args).orElse fun _ => whole args else two args
  | [_, _, _] => three args
  | [['!'], a, b, c] => (three [a, b, c]).map not
  | [['('], a, b, [')']] => two [a, b]
  | _ => whole args

end Condition

end NativeBuild
