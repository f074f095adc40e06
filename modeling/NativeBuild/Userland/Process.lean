import NativeBuild.Machine.Runner
import NativeBuild.Userland.Shell.Raw

/-!
Running programs and what they share: the files, the text that waits to be read, what has been
written, and the signals that are on their way.
-/

namespace NativeBuild

open Shell (Raw)

/-- What a descriptor stands for: text to be read, a place where written text is gathered, a file
that is written, or nothing, which is empty and takes everything. -/
inductive Channel where
  | source (id : Nat)
  | buffer (id : Nat)
  | file (id : Nat)
  | nothing
  deriving DecidableEq

/-- Text that waits to be read.  A reader that has read too far can go back if it `isFile`. -/
structure Source where
  text : Raw
  isFile : Bool

/-- A file that is written, and how far it has been; without a place, what is written goes to its
end. -/
structure Opening where
  loc : Location
  place : Option Nat

/-- The status that a shell sees of a program. -/
def Exit.seen : Exit → Nat
  | .status code => code
  | .signal number => 128 + number

/-- What all running programs share.  `next` is the next number for a source, a buffer or an
opening, and `newest` is the number of the program that was started last; what is in a buffer goes
with the time at which it was written; `sent` are the signals that have not been noticed, by the
program that each is for.  At the time of the `limit`, if there is one, what waits gets a signal,
and `isCut` says that this has happened. -/
structure World where
  files : Files
  sources : List (Nat × Source) := []
  buffers : List (Nat × List (Nat × Raw)) := []
  openings : List (Nat × Opening) := []
  next : Nat := 1
  newest : Nat := 4000
  sent : List (Nat × Nat) := []
  limit : Option (Nat × Nat) := none
  isCut : Bool := false

namespace World

/-- The time since the start of the machine, in nanoseconds. -/
def clock (w : World) : Nat :=
  w.files.clock

/-- The world at a time. -/
def atTime (w : World) (clock : Nat) : World :=
  { w with files := { w.files with clock } }

/-- Let time pass, up to the limit. -/
def wait (w : World) (nanos : Nat) : World :=
  match w.limit with
  | some (stop, _) =>
    if stop < w.clock + nanos then { w.atTime (max stop w.clock) with isCut := true }
    else w.atTime (w.clock + nanos)
  | none => w.atTime (w.clock + nanos)

/-- A new source. -/
def source (w : World) (s : Source) : World × Channel :=
  ({ w with sources := (w.next, s) :: w.sources, next := w.next + 1 }, .source w.next)

/-- A new buffer. -/
def buffer (w : World) : World × Nat :=
  ({ w with buffers := (w.next, []) :: w.buffers, next := w.next + 1 }, w.next)

/-- A new opening of a file. -/
def opening (w : World) (o : Opening) : World × Channel :=
  ({ w with openings := (w.next, o) :: w.openings, next := w.next + 1 }, .file w.next)

/-- The text of a buffer, which is taken away: what was written to it, in the order of the times at
which it was. -/
def takeBuffer (w : World) (id : Nat) : World × Raw :=
  let written := ((w.buffers.lookup id).getD []).reverse
  let sorted := written.mergeSort fun a b => a.1 ≤ b.1
  ({ w with buffers := w.buffers.filter (·.1 ≠ id) }, (sorted.map Prod.snd).flatten)

/-- Replace what belongs to a number. -/
def replaced {α : Type} (id : Nat) (value : α) (items : List (Nat × α)) : List (Nat × α) :=
  items.map fun item => if item.1 = id then (id, value) else item

/-- Write to an opening. -/
def writeFile (w : World) (id : Nat) (text : Raw) : World :=
  match w.openings.lookup id with
  | none => w
  | some o =>
    match o.place, w.files.at? o.loc with
    | some place, some (.file old executable) =>
      let bytes := Shell.bytesOf text
      let before := old.take place ++ List.replicate (place - old.length) 0
      let new := before ++ bytes ++ old.drop (place + bytes.length)
      { w with
        files := w.files.put o.loc (.file new executable)
        openings := replaced id { o with place := some (place + bytes.length) } w.openings }
    | _, _ => { w with files := w.files.extend o.loc (Shell.bytesOf text) }

/-- Write to a channel. -/
def write (w : World) (c : Channel) (text : Raw) : World :=
  match c with
  | .buffer id =>
    let written := (w.clock, text) :: (w.buffers.lookup id).getD []
    { w with buffers := replaced id written w.buffers }
  | .file id => w.writeFile id text
  | _ => w

/-- What can be read from a channel. -/
def pending (w : World) (c : Channel) : Source :=
  match c with
  | .source id => (w.sources.lookup id).getD ⟨[], true⟩
  | _ => ⟨[], true⟩

/-- Leave some text to be read from a channel. -/
def leave (w : World) (c : Channel) (rest : Raw) : World :=
  match c with
  | .source id =>
    { w with sources := replaced id { w.pending c with text := rest } w.sources }
  | _ => w

end World

/-- A running program: its number, the directory it is in, what is open under which descriptor, the
permissions that its new files do not get, and the signals that it ignores. -/
structure Process where
  world : World
  number : Nat
  here : Location
  handles : List (Nat × Channel)
  umask : Nat := 0o22
  ignored : List Nat := []

namespace Process

/-- The files that a program sees. -/
def files (p : Process) : Files :=
  p.world.files

/-- The program with other files. -/
def withFiles (p : Process) (files : Files) : Process :=
  { p with world := { p.world with files } }

/-- Write to a descriptor. -/
def write (p : Process) (descriptor : Nat) (text : Raw) : Process :=
  match p.handles.lookup descriptor with
  | some c => { p with world := p.world.write c text }
  | none => p

/-- Whether a descriptor can be written to. -/
def canWrite (p : Process) (descriptor : Nat) : Bool :=
  match p.handles.lookup descriptor with
  | some (.source _) => false
  | some _ => true
  | none => false

/-- What can be read from a descriptor. -/
def pending (p : Process) (descriptor : Nat) : Source :=
  match p.handles.lookup descriptor with
  | some c => p.world.pending c
  | none => ⟨[], true⟩

/-- Leave some text to be read from a descriptor. -/
def leave (p : Process) (descriptor : Nat) (rest : Raw) : Process :=
  match p.handles.lookup descriptor with
  | some c => { p with world := p.world.leave c rest }
  | none => p

/-- Make a descriptor stand for something, or for nothing at all. -/
def setHandle (p : Process) (descriptor : Nat) (c : Option Channel) : Process :=
  let others := p.handles.filter (·.1 ≠ descriptor)
  { p with handles := match c with
      | some c => (descriptor, c) :: others
      | none => others }

/-- Note the permissions of a new file, if they are not the usual ones. -/
def madeAt (p : Process) (loc : Location) (usual : Nat) : Process :=
  let mode := usual - (usual &&& p.umask)
  if p.umask = 0o22 then p
  else p.withFiles (p.files.setMark loc { p.files.mark loc with mode := some mode })

/-- The number of zeros that are read at most from the device that gives zeros. -/
def manyZeros : Nat := 0x10000

/-- Open the file at a path to read it. -/
def openToRead (p : Process) (path : Path) : Except IoError (Process × Channel) := do
  let text (raw : Raw) : Process × Channel :=
    let (world, c) := p.world.source ⟨raw, true⟩
    ({ p with world }, c)
  match ← p.files.find p.here true path with
  | (_, .file bytes _) => return text (Shell.rawBytes bytes)
  | (_, .program _) => return text (Shell.rawBytes Files.programBytes)
  | (_, .zeros) => return text (List.replicate manyZeros (Char.ofNat 0))
  | (_, .descriptor n) =>
    match p.handles.lookup n with
    | some c => return (p, c)
    | none => .error .notFound
  | _ => return (p, .nothing)

/-- How a file is opened to be written: from the start, anew or as it is, or at its end. -/
inductive WriteMode where
  | anew
  | append
  | within
  deriving DecidableEq

/-- Open the file at a path to write to it; one that is missing is made. -/
def openToWrite (p : Process) (mode : WriteMode) (path : Path) :
    Except IoError (Process × Channel) := do
  let opened (p : Process) (loc : Location) : Process × Channel :=
    let (world, c) := p.world.opening ⟨loc, if mode = .append then none else some 0⟩
    ({ p with world }, c)
  match ← p.files.locate p.here true path with
  | .free dir name =>
    let loc ← Files.freePlace dir name
    return opened ((p.withFiles (p.files.put loc (.file [] false))).madeAt loc 0o666) loc
  | .entry loc (.file bytes executable) =>
    let p := if mode = .anew ∧ !bytes.isEmpty then
        p.withFiles (p.files.put loc (.file [] executable))
      else p.withFiles (p.files.touched loc)
    return opened p loc
  | .entry _ .directory => .error .isDirectory
  | .entry _ (.descriptor n) =>
    match p.handles.lookup n with
    | some c => return (p, c)
    | none => .error .notFound
  | .entry _ (.program _) => .error .textBusy
  | .entry _ _ => return (p, .nothing)

/-- The bytes of the file at a path, as a program that opens it reads them; those of a directory
cannot be read. -/
def readFile (p : Process) (path : Path) : Except IoError (Process × Raw) := do
  match ← p.files.find p.here true path with
  | (_, .directory) => .error .isDirectory
  | _ =>
    let (p, c) ← p.openToRead path
    return ({ p with world := p.world.leave c [] }, (p.world.pending c).text)

/-- Write a file anew. -/
def writeFile (p : Process) (mode : WriteMode) (path : Path) (text : Raw) :
    Except IoError Process := do
  let (p, c) ← p.openToWrite mode path
  return { p with world := p.world.write c text }

/-- Take over what another program has done to what all share. -/
def after (p other : Process) : Process :=
  { p with world := other.world }

/-- The number of a new program. -/
def fork (p : Process) : Process × Nat :=
  let number := p.world.newest + 1
  ({ p with world := { p.world with newest := number } }, number)

end Process

end NativeBuild
