import NativeBuild.Machine.IoError
import NativeBuild.Path.Basic
import NativeBuild.Text.Utf8

/-!
A tree of files, and the search for the file that a path names.  Links are followed on the way, and
at the end if the caller asks for it.
-/

namespace NativeBuild

/-- The name of a file in its directory. -/
abbrev Name := List Char

/-- The place of a file: the names from the root down to it. -/
abbrev Location := List Name

/-- What may stand at a place.  `here` is a link to the current directory of whoever follows it,
`program` is a program that the system brings along, by its name, a `pipe` is one that has a name,
and a `descriptor` stands for what is open under its number where it is opened. -/
inductive Entry where
  | directory
  | file (bytes : List UInt8) (executable : Bool)
  | link (target : Path)
  | here
  | program (name : String)
  | nothing
  | zeros
  | pipe
  | descriptor (number : Nat)
  deriving DecidableEq

/-- Whether an entry is a regular file. -/
def Entry.isRegular : Entry → Bool
  | .file _ _ => true
  | .program _ => true
  | _ => false

/-- What is known of a place beside its entry: the permission bits, if they are not the usual ones,
and the time of the last change in nanoseconds, if it is not that of the start. -/
structure Mark where
  mode : Option Nat := none
  changed : Option Int := none
  deriving DecidableEq

/-- A tree of files: the entry at each place but the root, which is always a directory.  `shared`
lists the places that are names of one file, and `clock` is the time since the start, in
nanoseconds. -/
structure Files where
  entries : List (Location × Entry)
  marks : List (Location × Mark) := []
  shared : List (List Location) := []
  clock : Nat := 0

/-- Where a search ended: at an entry, or at a free name in a directory. -/
inductive Spot where
  | entry (loc : Location) (e : Entry)
  | free (dir : Location) (name : Name)
  deriving DecidableEq

/-- The greatest number of bytes in a name. -/
def maxNameBytes : Nat := 255

/-- The number of bytes that a path must stay below. -/
def maxPathBytes : Nat := 4096

/-- The greatest number of links followed in one search. -/
def maxLinks : Nat := 40

/-- The number of bytes of a text. -/
def byteLength (text : List Char) : Nat :=
  text.foldl (fun n c => n + c.utf8Size) 0

/-- The names to look for in turn; a separator at the end asks for a directory, as a dot does. -/
def Path.names (p : Path) : List Name :=
  (Text.pieces '/' p.chars).filter (fun piece => !piece.isEmpty) ++
    if p.endsInSlash then [['.']] else []

namespace Files

/-- The entry at a place. -/
def at? (files : Files) (loc : Location) : Option Entry :=
  if loc.isEmpty then some .directory else files.entries.lookup loc

/-- Search for names below a directory; `jump` goes on where a link leads. -/
def walk (files : Files) (here : Location) (follow : Bool)
    (jump : Location → List Name → Except IoError Spot) :
    Location → List Name → Except IoError Spot
  | dir, [] =>
    match files.at? dir with
    | some e => .ok (.entry dir e)
    | none => .error .notFound
  | dir, name :: rest =>
    if name = ['.'] then walk files here follow jump dir rest
    else if name = ['.', '.'] then walk files here follow jump dir.dropLast rest
    else if maxNameBytes < byteLength name then .error .nameTooLong
    else
      let loc := dir ++ [name]
      match files.at? loc with
      | none => if rest.isEmpty then .ok (.free dir name) else .error .notFound
      | some .directory => walk files here follow jump loc rest
      | some (.link target) =>
        if rest.isEmpty && !follow then .ok (.entry loc (.link target))
        else if target.chars.isEmpty then .error .notFound
        else jump (if target.isAbsolute then [] else dir) (target.names ++ rest)
      | some .here =>
        if rest.isEmpty && !follow then .ok (.entry loc .here)
        else jump here rest
      | some e => if rest.isEmpty then .ok (.entry loc e) else .error .notDirectory

/-- Search for names below a directory, following at most the given number of links. -/
def search (files : Files) (here : Location) (follow : Bool) :
    Nat → Location → List Name → Except IoError Spot
  | 0 => walk files here follow fun _ _ => .error .linkLoop
  | links + 1 => walk files here follow (search files here follow links)

/-- The spot that a path names, seen from the directory `here`. -/
def locate (files : Files) (here : Location) (follow : Bool) (p : Path) : Except IoError Spot :=
  if p.chars.isEmpty then .error .notFound
  else if p.chars.any (·.toNat = 0) then .error .nulInPath
  else if maxPathBytes ≤ byteLength p.chars then .error .nameTooLong
  else files.search here follow maxLinks (if p.isAbsolute then [] else here) p.names

/-- The place and entry that a path names. -/
def find (files : Files) (here : Location) (follow : Bool) (p : Path) :
    Except IoError (Location × Entry) := do
  match ← files.locate here follow p with
  | .entry loc e => .ok (loc, e)
  | .free _ _ => .error .notFound

/-- Whether a path leads to something. -/
def has (files : Files) (here : Location) (p : Path) : Bool :=
  (files.find here true p).isOk

/-- Whether a path leads to a directory. -/
def isDirectory (files : Files) (here : Location) (p : Path) : Bool :=
  match files.find here true p with
  | .ok (_, .directory) => true
  | _ => false

/-- Whether a path leads to a regular file. -/
def isFile (files : Files) (here : Location) (p : Path) : Bool :=
  match files.find here true p with
  | .ok (_, e) => e.isRegular
  | _ => false

/-- The names and entries directly inside a place, in the order of the tree. -/
def inside (files : Files) (loc : Location) : List (Name × Entry) :=
  files.entries.filterMap fun (place, e) =>
    if place.dropLast = loc then place.getLast?.map (·, e) else none

/-- The names and entries directly inside the directory that a path leads to. -/
def listing (files : Files) (here : Location) (p : Path) :
    Except IoError (List (Name × Entry)) := do
  match ← files.find here true p with
  | (loc, .directory) => .ok (files.inside loc)
  | _ => .error .notDirectory

/-- The first bytes of every program that the system brings along. -/
def programBytes : List UInt8 := [0x7f, 0x45, 0x4c, 0x46, 0x02, 0x01, 0x01, 0x00, 0xff]

/-- The bytes of the file that a path leads to. -/
def read (files : Files) (here : Location) (p : Path) : Except IoError (List UInt8) := do
  match ← files.find here true p with
  | (_, .file bytes _) => .ok bytes
  | (_, .directory) => .error .isDirectory
  | (_, .program _) => .ok programBytes
  | _ => .ok []

/-- The text of the file that a path leads to. -/
def readText (files : Files) (here : Location) (p : Path) : Except IoError (List Char) := do
  let bytes ← files.read here p
  match Text.decode? bytes with
  | some text => .ok text
  | none => .error .notText

/-- Whether `loc` lies strictly below `dir`. -/
def isBelow (dir loc : Location) : Bool :=
  dir.length < loc.length && loc.take dir.length == dir

/-- Every place strictly below a directory, as a path relative to it, in byte order; a directory has
a separator at its end. -/
def tree (files : Files) (here : Location) (p : Path) : Option (List (List Char)) :=
  match files.find here true p with
  | .ok (dir, .directory) =>
    let below := files.entries.filterMap fun (loc, e) =>
      if isBelow dir loc then
        let relative := ['/'].intercalate (loc.drop dir.length)
        some (if e = .directory then relative ++ ['/'] else relative)
      else none
    some (below.mergeSort fun a b => !(b.map Char.toNat < a.map Char.toNat : Bool))
  | _ => none

end Files

end NativeBuild
