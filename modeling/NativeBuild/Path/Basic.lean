import NativeBuild.Text.Blank

/-!
Paths.  A path is kept as the text it was written as; two paths are the same when they have the same
components, and paths are ordered by their components.  The separator is a slash.
-/

namespace NativeBuild

/-- A path, as written. -/
structure Path where
  chars : List Char
  deriving DecidableEq

/-- One step of a path.  `current` only ever stands first, in a path that starts with a dot. -/
inductive Component where
  | root
  | current
  | parent
  | normal (name : List Char)
  deriving DecidableEq

namespace Component

/-- What stands between two separators: nothing and a single dot are no step. -/
def ofPiece? : List Char → Option Component
  | [] => none
  | ['.'] => none
  | ['.', '.'] => some .parent
  | name => some (.normal name)

/-- The place of a component in the order: the root first, then `.`, then `..`, then names by their
characters. -/
def key : Component → List Nat
  | .root => [0]
  | .current => [1]
  | .parent => [2]
  | .normal name => 3 :: name.map Char.toNat

end Component

namespace Path

/-- The path written as `text`. -/
def ofString (text : String) : Path :=
  ⟨text.toList⟩

/-- The text of a path. -/
def text (p : Path) : String :=
  String.ofList p.chars

/-- Whether a path starts at the root. -/
def isAbsolute (p : Path) : Bool :=
  p.chars.head? == some '/'

/-- Whether a path ends with a separator. -/
def endsInSlash (p : Path) : Bool :=
  p.chars.getLast? == some '/'

/-- The steps of a path; repeated and final separators and inner dots leave none. -/
def components (p : Path) : List Component :=
  let pieces := Text.pieces '/' p.chars
  if p.isAbsolute then .root :: pieces.filterMap Component.ofPiece?
  else
    match pieces with
    | ['.'] :: rest => .current :: rest.filterMap Component.ofPiece?
    | _ => pieces.filterMap Component.ofPiece?

/-- Two paths are the same when they have the same components. -/
def Same (p q : Path) : Prop :=
  p.components = q.components

instance (p q : Path) : Decidable (p.Same q) :=
  inferInstanceAs (Decidable (p.components = q.components))

/-- The place of a path in the order of paths, which compares components from the left. -/
def key (p : Path) : List (List Nat) :=
  p.components.map Component.key

/-- Whether `p` comes strictly before `q`. -/
def before (p q : Path) : Bool :=
  decide (p.key < q.key)

/-- `p` followed by a relative piece of path, with a separator between them unless `p` is empty or
ends in one. -/
def append (p : Path) (piece : List Char) : Path :=
  if p.chars.isEmpty || p.endsInSlash then ⟨p.chars ++ piece⟩
  else ⟨p.chars ++ '/' :: piece⟩

/-- `q` as seen from `p`: `q` itself when it starts at the root. -/
def join (p q : Path) : Path :=
  if q.isAbsolute then q else p.append q.chars

/-- `p` followed by the relative path `name`. -/
def child (p : Path) (name : String) : Path :=
  p.join (ofString name)

/-- The path with a separator at its end. -/
def withSlash (p : Path) : Path :=
  p.append []

/-- Whether a piece of a path is no step of it. -/
def isIdle (piece : List Char) : Bool :=
  piece.isEmpty || piece == ['.']

/-- The path above, if there is one: what is left without the last step.  The root and the empty
path have none. -/
def above? (p : Path) : Option Path :=
  match (Text.pieces '/' p.chars).reverse.dropWhile isIdle with
  | [] => if p.isAbsolute || p.chars.isEmpty then none else some ⟨[]⟩
  | _ :: rest =>
    match rest.dropWhile isIdle with
    | [] =>
      if p.isAbsolute then some ⟨['/']⟩
      else some ⟨if p.components.head? = some .current then ['.'] else []⟩
    | kept => some ⟨['/'].intercalate kept.reverse⟩

/-- The name that a path ends with, unless its last step is the root, `.` or `..`. -/
def fileName? (p : Path) : Option (List Char) :=
  match p.components.getLast? with
  | some (.normal name) => some name
  | _ => none

end Path

/-- What follows the last dot of a file name, if something stands before that dot. -/
def nameExtension? (name : List Char) : Option (List Char) :=
  match Text.cut '.' name.reverse with
  | (_, none) => none
  | (_, some []) => none
  | (back, some _) => some back.reverse

/-- The extension of the file that a path names. -/
def Path.extension? (p : Path) : Option (List Char) :=
  p.fileName?.bind nameExtension?

end NativeBuild
