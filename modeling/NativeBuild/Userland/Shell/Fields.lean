import NativeBuild.Userland.Shell.Pattern
import NativeBuild.Userland.Shell.State

/-!
How a word that has been filled in is split into fields, and how a field that is a pattern stands
for the paths that match it.
-/

namespace NativeBuild.Shell

/-- How a character came into a word, which decides whether it may split the word and be a pattern.
-/
inductive Origin where
  | literal
  | filled
  | quoted
  deriving DecidableEq

/-- A part of a word that has been filled in: text, or a place where one field ends and another
starts; where nothing is split, the place is filled with a text. -/
inductive Chunk where
  | text (chars : Raw) (origin : Origin)
  | boundary (joined : Raw)

/-- A word that is being split: the field that is growing, its characters backwards, if it has
started; whether a blank closed the field before; and the fields before it, last first. -/
structure Splitting where
  field : Option (List Marked) := none
  afterBlank : Bool := false
  done : List (List Marked) := []

namespace Splitting

/-- Close the field that is growing. -/
def close (s : Splitting) (afterBlank : Bool) : Splitting :=
  match s.field with
  | some field => ⟨none, afterBlank, field.reverse :: s.done⟩
  | none => s

/-- Add characters to the field. -/
def grow (s : Splitting) (chars : List Marked) : Splitting :=
  { s with field := some (chars.reverse ++ s.field.getD []) }

/-- Meet a character that separates fields. -/
def separate (s : Splitting) (isBlank : Bool) : Splitting :=
  if isBlank then s.close true
  else
    match s.field with
    | some _ => s.close false
    | none =>
      if s.afterBlank then { s with afterBlank := false } else { s with done := [] :: s.done }

/-- Take in a part of the word. -/
def take (separators : Raw) (s : Splitting) (chunk : Chunk) : Splitting :=
  match chunk with
  | .boundary _ => { s.close false with afterBlank := false }
  | .text chars .quoted => s.grow (chars.map (·, true))
  | .text chars .literal => if chars.isEmpty then s else s.grow (chars.map (·, false))
  | .text chars .filled =>
    chars.foldl
      (fun s c =>
        if separators.contains c then s.separate (c = ' ' || c = '\t' || c = '\n')
        else s.grow [(c, false)]) s

end Splitting

/-- The fields of filled parts. -/
def gather (separators : Raw) (chunks : List Chunk) : List (List Marked) :=
  ((chunks.foldl (Splitting.take separators) {}).close false).done.reverse

/-- The text of filled parts that are not split. -/
def unsplit (chunks : List Chunk) : List Marked :=
  chunks.flatMap fun
    | .text chars origin => chars.map (·, decide (origin = .quoted))
    | .boundary joined => joined.map (·, true)

/-- The plain text of a filled word. -/
def unmark (text : List Marked) : Raw :=
  text.map Prod.fst

/-- Split a filled word at its slashes. -/
def markedPieces : List Marked → List (List Marked)
  | [] => [[]]
  | c :: rest =>
    match markedPieces rest with
    | piece :: more => if c.1 = '/' then [] :: piece :: more else (c :: piece) :: more
    | [] => [[c]]

/-- What decides which paths a pattern stands for: the files, the directory, how patterns are read,
and whether names that start with a dot need one in the pattern, and the directory itself and the
one above it may match. -/
structure PathSearch where
  files : Files
  here : Location
  style : GlobStyle
  dotted : Bool := false
  selves : Bool := true
  crosses : Bool := false

namespace PathSearch

/-- The names in a directory. -/
def names (q : PathSearch) (base : Raw) : List Raw :=
  match q.files.listing q.here (if base.isEmpty then ⟨['.']⟩ else rawPath base) with
  | .ok inside => inside.map fun entry => rawText entry.1
  | .error _ => []

/-- Whether a path leads to a directory, and not by a link. -/
def isPlainDirectory (q : PathSearch) (path : Raw) : Bool :=
  match q.files.find q.here false (rawPath path) with
  | .ok (_, .directory) => true
  | _ => false

/-- The paths that match patterns below a path, piece by piece, in at most `fuel` steps. -/
def below (q : PathSearch) : Nat → Raw → List (List Marked) → List Raw
  | 0, _, _ => []
  | _, base, [] => [base]
  | fuel + 1, base, piece :: rest =>
    let last := rest.isEmpty
    let found : List Raw :=
      if q.crosses && unmark piece = ['*', '*'] && piece.all (!·.2) then
        let visible := (q.names base).filter fun n => n.head? ≠ some '.'
        if last then
          (if base.isEmpty then [] else [base]) ++ visible.flatMap fun n =>
            let path := base ++ n
            if q.isPlainDirectory path then path :: (q.below fuel (path ++ ['/']) [piece]).drop 1
            else [path]
        else
          q.below fuel base rest ++ visible.flatMap fun n =>
            let path := base ++ n
            if q.isPlainDirectory path then q.below fuel (path ++ ['/']) (piece :: rest) else []
      else if hasGlob q.style.hasChoices piece then
        let pattern := Pattern.of q.style piece
        let startsDotted := (unmark piece).head? = some '.'
        let names := q.names base ++
          if startsDotted && q.selves then [['.'], ['.', '.']] else []
        let names := names.filter fun n =>
          (startsDotted || q.dotted || n.head? ≠ some '.') && pattern.accepts n
        names.flatMap fun n =>
          if last then [base ++ n] else q.below fuel (base ++ n ++ ['/']) rest
      else
        let path := base ++ unmark piece
        if last then
          let isThere := (q.files.find q.here (path.getLast? = some '/') (rawPath path)).isOk
          if isThere then [path] else []
        else q.below fuel (path ++ ['/']) rest
    found

/-- The paths that a pattern stands for, in order. -/
def paths (q : PathSearch) (field : List Marked) : List Raw :=
  let pieces := markedPieces field
  ((q.below (pieces.length + 50) [] pieces).filter fun p => !p.isEmpty).mergeSort inOrder

end PathSearch

/-- The way in which a shell searches for paths. -/
def State.pathSearch (s : State) : PathSearch :=
  { files := s.files
    here := s.here
    style := s.language.globStyle (s.isRich && s.wishes.contains "extglob")
      (s.wishes.contains "nocaseglob")
    dotted := s.wishes.contains "dotglob"
    selves := !s.isRich
    crosses := s.wishes.contains "globstar" }

/-- The words that a field stands for: the paths it matches, if it is a pattern and there are any.
-/
def State.fieldWords (s : State) (field : List Marked) : List Raw :=
  let q := s.pathSearch
  if !s.options.noglob && hasGlob q.style.hasChoices field then
    match q.paths field with
    | [] => if s.wishes.contains "nullglob" then [] else [unmark field]
    | paths => paths
  else [unmark field]

end NativeBuild.Shell
