import NativeBuild.Machine.Files

/-!
Changes to a tree of files.
-/

namespace NativeBuild.Files

/-- The places that are names of the file at a place, that place among them. -/
def namesOf (files : Files) (loc : Location) : List Location :=
  (files.shared.find? (·.contains loc)).getD [loc]

/-- What is known of a place beside its entry. -/
def mark (files : Files) (loc : Location) : Mark :=
  (files.marks.lookup ((files.namesOf loc).headD loc)).getD {}

/-- Note something about a place. -/
def setMark (files : Files) (loc : Location) (m : Mark) : Files :=
  let key := (files.namesOf loc).headD loc
  { files with marks := (key, m) :: files.marks.filter (·.1 ≠ key) }

/-- Note that a place has changed just now. -/
def touched (files : Files) (loc : Location) : Files :=
  let m := files.mark loc
  let changed := if files.clock = 0 then none else some (files.clock : Int)
  if m.changed = changed then files else files.setMark loc { m with changed }

/-- Put an entry at a place, in the stead of what stands there; a file with several names has it
under each. -/
def put (files : Files) (loc : Location) (e : Entry) : Files :=
  let places := files.namesOf loc
  let entries :=
    if files.entries.any (·.1 = loc) then
      files.entries.map fun entry =>
        if places.contains entry.1 then (entry.1, e) else entry
    else files.entries ++ [(loc, e)]
  { files with entries }.touched loc

/-- Take away what stands at a place and below it. -/
def drop (files : Files) (loc : Location) : Files :=
  let goes (place : Location) : Bool := place = loc || isBelow loc place
  let heir (place : Location) : Location :=
    if goes place then ((files.namesOf place).filter fun p => !goes p).headD place else place
  { files with
    entries := files.entries.filter fun entry => !goes entry.1
    marks := (files.marks.map fun m => (heir m.1, m.2)).filter fun m => !goes m.1
    shared := (files.shared.map fun group => group.filter fun p => !goes p).filter fun group =>
      1 < group.length }

/-- Move what stands at a place and below it to a free place. -/
def move (files : Files) (source target : Location) : Files :=
  let there (place : Location) : Location :=
    if place = source || isBelow source place then target ++ place.drop source.length else place
  { files with
    entries := files.entries.map fun entry => (there entry.1, entry.2)
    marks := files.marks.map fun m => (there m.1, m.2)
    shared := files.shared.map fun group => group.map there }

/-- Give the file at a place a second name. -/
def share (files : Files) (source target : Location) (e : Entry) : Files :=
  let group := files.namesOf source
  { files with
    entries := files.entries ++ [(target, e)]
    shared := (group ++ [target]) :: files.shared.filter (· ≠ group) }

/-- A path without the separators at its end. -/
def withoutSlashes (p : Path) : Path :=
  let body := (p.chars.reverse.dropWhile (· = '/')).reverse
  if body.isEmpty && !p.chars.isEmpty then ⟨['/']⟩ else ⟨body⟩

/-- A free place, unless it lies in the part of the tree that the system itself fills. -/
def freePlace (dir : Location) (name : Name) : Except IoError Location :=
  if dir.head? = some "proc".toList then .error .notFound else .ok (dir ++ [name])

/-- Make one directory, in a directory that is there. -/
def makeDirectory (files : Files) (here : Location) (p : Path) : Except IoError Files := do
  match ← files.locate here false (withoutSlashes p) with
  | .entry _ _ => .error .alreadyThere
  | .free dir name => return files.put (← freePlace dir name) .directory

/-- Make a directory and those above it that are missing, looking at most `fuel` levels up.  A try
that fails may leave directories behind. -/
def makeDirectoriesWithin : Nat → Files → Location → Path → Files × Except IoError Unit
  | 0, files, _, _ => (files, .error .notFound)
  | fuel + 1, files, here, p =>
    let settled (files : Files) (e : IoError) : Files × Except IoError Unit :=
      (files, if files.isDirectory here p then .ok () else .error e)
    if p.chars.isEmpty then (files, .ok ())
    else
      match files.makeDirectory here p with
      | .ok made => (made, .ok ())
      | .error .notFound =>
        match p.above? with
        | none => (files, .error .notFound)
        | some above =>
          match makeDirectoriesWithin fuel files here above with
          | (files, .error e) => (files, .error e)
          | (files, .ok ()) =>
            match files.makeDirectory here p with
            | .ok made => (made, .ok ())
            | .error e => settled files e
      | .error e => settled files e

/-- Make a directory and those above it that are missing. -/
def makeDirectories (files : Files) (here : Location) (p : Path) : Files × Except IoError Unit :=
  makeDirectoriesWithin (p.components.length + 2) files here p

/-- Write a file anew; a file that is there keeps its mode. -/
def write (files : Files) (here : Location) (p : Path) (bytes : List UInt8) :
    Except IoError (Location × Files) := do
  match ← files.locate here true p with
  | .free dir name =>
    let loc ← freePlace dir name
    return (loc, files.put loc (.file bytes false))
  | .entry loc (.file _ executable) => .ok (loc, files.put loc (.file bytes executable))
  | .entry _ .directory => .error .isDirectory
  | .entry loc _ => .ok (loc, files)

/-- Add bytes to the end of the file at a place. -/
def extend (files : Files) (loc : Location) (bytes : List UInt8) : Files :=
  match files.at? loc with
  | some (.file old executable) => files.put loc (.file (old ++ bytes) executable)
  | _ => files

end NativeBuild.Files
