import NativeBuild.Json.Record
import NativeBuild.Manifest.Basic

/-!
Reading manifests.  Fields that may be left out have a default; unknown fields are refused
everywhere but in a library that is left to the linker.
-/

namespace NativeBuild

open Json (Reader RecordField RecordForm Case)

namespace Manifest

/-- Read a text. -/
def readString : Reader String :=
  Reader.text "a string"

/-- Read a path. -/
def readPath : Reader Path :=
  (Reader.text "path string").map Path.ofString

/-- A field of a draft: how it is looked at, and how it is set. -/
def field {δ α : Type} (name : String) (get : δ → Option α) (set : δ → α → δ) (read : Reader α) :
    RecordField δ :=
  ⟨name, fun d => (get d).isSome, fun d => read.map (set d)⟩

/-- A value that must be given. -/
def demand {α : Type} (name : String) : Option α → Except String α
  | some a => .ok a
  | none => .error name

namespace Tools

/-- The parts of an addition to the toolchain that have been read. -/
structure Draft where
  cxx : Option (Option Path) := .none
  cc : Option (Option Path) := .none
  flags : Option (List String) := .none
  defines : Option Defines := .none

/-- The addition with the parts that have been read, and defaults for the others. -/
def Draft.finish (d : Draft) : Tools :=
  ⟨d.cxx.getD .none, d.cc.getD .none, d.flags.getD [], d.defines.getD .empty⟩

/-- The form of an addition to the toolchain. -/
def form : RecordForm Draft Tools where
  title := "struct ToolchainSpec"
  fields :=
    [field "cxx" Draft.cxx (fun d a => { d with cxx := some a }) (Reader.optional readPath),
      field "cc" Draft.cc (fun d a => { d with cc := some a }) (Reader.optional readPath),
      field "flags" Draft.flags (fun d a => { d with flags := some a }) (Reader.list readString),
      field "defines" Draft.defines (fun d a => { d with defines := some a })
        ((Reader.entries (Reader.optional readString)).map Defines.ofList)]
  empty := {}
  finish := fun d => .ok d.finish
  closed := true

end Tools

namespace Sources

/-- The parts of the sources of a target that have been read. -/
structure Draft where
  dirs : Option (List Path) := .none
  files : Option (List Path) := .none
  extension : Option String := .none
  flags : Option (List String) := .none

/-- The sources with the parts that have been read, and defaults for the others. -/
def Draft.finish (d : Draft) : Sources :=
  ⟨d.dirs.getD [], d.files.getD [], d.extension.getD defaultExtension, d.flags.getD []⟩

/-- The form of the sources of a target. -/
def form : RecordForm Draft Sources where
  title := "struct SourceSpec"
  fields :=
    [field "dirs" Draft.dirs (fun d a => { d with dirs := some a }) (Reader.list readPath),
      field "files" Draft.files (fun d a => { d with files := some a }) (Reader.list readPath),
      field "extension" Draft.extension (fun d a => { d with extension := some a }) readString,
      field "flags" Draft.flags (fun d a => { d with flags := some a }) (Reader.list readString)]
  empty := {}
  finish := fun d => .ok d.finish
  closed := true

end Sources

namespace LibraryEntry

/-- The parts of a library for the linker that have been read. -/
structure Draft where
  name : Option String := none
  os : Option (Option String) := none

/-- The library with the parts that have been read; its name must be one of them. -/
def Draft.finish (d : Draft) : Except String LibraryEntry := do
  let name ← demand "name" d.name
  .ok (.linker name (d.os.getD none))

/-- The form of a library for the linker. -/
def linkerForm : RecordForm Draft LibraryEntry where
  title := "struct variant LibrarySpec::Linker"
  fields :=
    [field "name" Draft.name (fun d a => { d with name := some a }) readString,
      field "os" Draft.os (fun d a => { d with os := some a }) (Reader.optional readString)]
  empty := {}
  finish := Draft.finish
  closed := false

/-- The kinds of libraries. -/
def cases : List (Case LibraryEntry) :=
  [⟨"prebuilt", .error "newtype variant", readString.map .prebuilt⟩,
    ⟨"linker", .error "struct variant", linkerForm.read⟩,
    ⟨"config", .error "newtype variant", (Reader.list readString).map .config⟩]

/-- Read a library. -/
def read : Reader LibraryEntry :=
  Reader.oneOf cases

end LibraryEntry

/-- The kinds of targets. -/
def kindCases : List (Case ArtifactKind) :=
  [⟨"executable", .ok .executable, Reader.unit.map fun _ => .executable⟩,
    ⟨"shared_library", .ok .sharedLibrary, Reader.unit.map fun _ => .sharedLibrary⟩]

/-- Read the kind of a target. -/
def readKind : Reader ArtifactKind :=
  Reader.oneOf kindCases

namespace Target

/-- The parts of a target that have been read. -/
structure Draft where
  name : Option String := none
  kind : Option ArtifactKind := none
  output : Option Path := none
  sources : Option Sources := none
  objects : Option (List String) := none
  link : Option (List String) := none
  libraries : Option (List LibraryEntry) := none
  run : Option (List (List String)) := none

/-- The target with the parts that have been read; name, kind and output must be among them. -/
def Draft.finish (d : Draft) : Except String Target := do
  let name ← demand "name" d.name
  let kind ← demand "kind" d.kind
  let output ← demand "output" d.output
  .ok
    { name, kind, output
      sources := d.sources.getD .none
      objects := d.objects.getD []
      link := d.link.getD []
      libraries := d.libraries.getD []
      run := d.run.getD [] }

/-- The form of a target. -/
def form : RecordForm Draft Target where
  title := "struct TargetSpec"
  fields :=
    [field "name" Draft.name (fun d a => { d with name := some a }) readString,
      field "kind" Draft.kind (fun d a => { d with kind := some a }) readKind,
      field "output" Draft.output (fun d a => { d with output := some a }) readPath,
      field "sources" Draft.sources (fun d a => { d with sources := some a }) Sources.form.read,
      field "objects" Draft.objects (fun d a => { d with objects := some a })
        (Reader.list readString),
      field "link" Draft.link (fun d a => { d with link := some a }) (Reader.list readString),
      field "libraries" Draft.libraries (fun d a => { d with libraries := some a })
        (Reader.list LibraryEntry.read),
      field "run" Draft.run (fun d a => { d with run := some a })
        (Reader.list (Reader.list readString))]
  empty := {}
  finish := Draft.finish
  closed := true

end Target

/-- The parts of a manifest that have been read. -/
structure Draft where
  toolchain : Option Tools := none
  targets : Option (List Target) := none

/-- The manifest with the parts that have been read, and defaults for the others. -/
def Draft.finish (d : Draft) : Manifest :=
  ⟨d.toolchain.getD .none, d.targets.getD []⟩

/-- The form of a manifest. -/
def form : RecordForm Draft Manifest where
  title := "struct Manifest"
  fields :=
    [field "toolchain" Draft.toolchain (fun d a => { d with toolchain := some a })
        Tools.form.read,
      field "targets" Draft.targets (fun d a => { d with targets := some a })
        (Reader.list Target.form.read)]
  empty := {}
  finish := fun d => .ok d.finish
  closed := true

/-- The manifest that a text holds. -/
def parse (text : List Char) : Except Json.Fault Manifest :=
  form.read.whole text

end Manifest

end NativeBuild
