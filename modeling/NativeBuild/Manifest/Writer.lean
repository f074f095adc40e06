import NativeBuild.Json.Value
import NativeBuild.Manifest.Basic

/-!
Writing manifests, with every field.
-/

namespace NativeBuild.Manifest

/-- A list of paths. -/
def jsonPaths (paths : List Path) : Json :=
  .texts (paths.map Path.text)

/-- An addition to the toolchain. -/
def Tools.toJson (t : Tools) : Json :=
  .record
    [("cxx", .optional (t.cxx.map Path.text)), ("cc", .optional (t.cc.map Path.text)),
      ("flags", .texts t.flags),
      ("defines", .record (t.defines.entries.map fun e => (e.1, .optional e.2)))]

/-- The sources of a target. -/
def Sources.toJson (s : Sources) : Json :=
  .record
    [("dirs", jsonPaths s.dirs), ("files", jsonPaths s.files), ("extension", .text s.extension),
      ("flags", .texts s.flags)]

/-- A library. -/
def LibraryEntry.toJson : LibraryEntry → Json
  | .prebuilt name => .record [("prebuilt", .text name)]
  | .linker name os => .record [("linker", .record [("name", .text name), ("os", .optional os)])]
  | .config command => .record [("config", .texts command)]

/-- The name of a kind of target. -/
def kindName : ArtifactKind → String
  | .executable => "executable"
  | .sharedLibrary => "shared_library"

/-- A target. -/
def Target.toJson (t : Target) : Json :=
  .record
    [("name", .text t.name), ("kind", .text (kindName t.kind)), ("output", .text t.output.text),
      ("sources", t.sources.toJson), ("objects", .texts t.objects), ("link", .texts t.link),
      ("libraries", .list (t.libraries.map LibraryEntry.toJson)),
      ("run", .list (t.run.map .texts))]

/-- A manifest. -/
def toJson (m : Manifest) : Json :=
  .record
    [("toolchain", m.toolchain.toJson), ("targets", .list (m.targets.map Target.toJson))]

/-- The text of a manifest. -/
def write (m : Manifest) : List Char :=
  m.toJson.compact

end NativeBuild.Manifest
