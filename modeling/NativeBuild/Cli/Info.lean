import NativeBuild.Cli.Console
import NativeBuild.Cli.Options
import NativeBuild.Json.Value
import NativeBuild.Toolchain

/-!
The command that informs about a project: what a build there would use.
-/

namespace NativeBuild.Cli

/-- The version of the program. -/
def version : String := "0.1.0"

/-- The name of a project's manifest. -/
def manifestName : String := "cforge.json"

/-- The root of a project: the one that is given, or the current directory. -/
def projectRoot (m : Machine) (root : Option Path) : Path :=
  root.getD m.here

/-- What there is to know about a project. -/
structure Info where
  platform : Platform
  layout : Layout
  manifest : Path
  toolchain : Toolchain
  parallelism : Nat

namespace Info

/-- What there is to know about the project at `root`. -/
def of (m : Machine) (settings : Settings) (root : Path) : Info :=
  let layout := Layout.ofRoot m.here settings root
  { platform := Platform.host
    layout
    manifest := layout.root.child manifestName
    toolchain := Toolchain.default m settings layout Platform.host
    parallelism := settings.parallelism }

/-- The information as JSON. -/
def toJson (i : Info) : Json :=
  .record
    [("version", .text version), ("os", .text i.platform.tag),
      ("shared_lib_ext", .text i.platform.sharedExtension), ("root", .text i.layout.root.text),
      ("manifest", .text i.manifest.text), ("build_dir", .text i.layout.buildDir.text),
      ("object_dir", .text i.layout.objectDir.text),
      ("library_paths", .texts (i.layout.librarySearchPaths.map Path.text)),
      ("cxx", .text i.toolchain.cxx.text), ("cc", .text i.toolchain.cc.text),
      ("parallelism", .number i.parallelism)]

/-- Write the information for a reader. -/
def report (i : Info) (c : Console) : Console :=
  let c := (c.success ("cforge v" ++ version)).line ""
  let c := c.item "OS" i.platform.tag
  let c := c.item "Shared libraries" ("." ++ i.platform.sharedExtension)
  let c := c.item "Root" i.layout.root.text
  let c := c.item "Manifest" i.manifest.text
  let c := c.item "Build dir" i.layout.buildDir.text
  let c := c.item "Object dir" i.layout.objectDir.text
  let c := i.layout.librarySearchPaths.foldl (fun c dir => c.item "Library path" dir.text) c
  let c := c.item "C++ compiler" i.toolchain.cxx.text
  let c := c.item "C compiler" i.toolchain.cc.text
  c.item "Parallelism" (String.ofList (Text.decimal i.parallelism))

end Info

/-- Inform about a project. -/
def info (m : Machine) (options : InfoOptions) : Console :=
  let i := Info.of m (Settings.ofEnv m.env) (projectRoot m options.root)
  match options.format with
  | .text => i.report .empty
  | .json => Console.empty.line (String.ofList (i.toJson.indented 0))

end NativeBuild.Cli
