import NativeBuild.Cli.Info
import NativeBuild.Proofs.Cli.Outcome
import NativeBuild.Proofs.Json.Compact
import NativeBuild.Proofs.Manifest.Tools

/-!
What the program says about a project beside what a build of it uses.  Where the parts of the project
lie and how many tasks run beside each other is told as it is.  The compilers are told as they would be
without the manifest, so they are right exactly if the manifest names no others.
-/

namespace NativeBuild

theorem Path.text_injective : Function.Injective text := by
  rintro ⟨chars⟩ ⟨chars'⟩ h
  exact congrArg Path.mk (String.ofList_injective h)

namespace Manifest.Tools

variable {tools : Tools} {here base : Path} {t : Toolchain}

end Manifest.Tools

namespace Cli

namespace Info

/-- Information as the command writes it. -/
def written (i : Info) : InfoFormat → Console
  | .text => i.report .empty
  | .json => Console.empty.line (String.ofList (i.toJson.indented 0))

end Info

section

variable {run : Runner} {m : Machine} {root : Option Path} {manifest : Manifest}

/-- The build that the command sets up when it is given a root and no other option. -/
def setUp (run : Runner) (m : Machine) (root : Option Path) (manifest : Manifest) : Build :=
  .forProject run m (Settings.ofEnv m.env) (projectRoot m root) manifest
    (BuildOptions.poolConfig { root } (Settings.ofEnv m.env))

/-- What the command tells about a project. -/
def told (m : Machine) (root : Option Path) : Info :=
  .of m (Settings.ofEnv m.env) (projectRoot m root)

end

/-! ### A manifest that names a compiler -/

namespace Renamed

open TwoTargets (top bytes)

/-- A manifest that names a compiler for C++, and no targets. -/
def text : String :=
  "\x7b\"toolchain\": \x7b\"cxx\": \"my-cxx\"\x7d\x7d"

/-- A machine that has nothing but the manifest. -/
def machine : Machine where
  files := { entries := [([manifestName.toList], .file (bytes text) false)] }
  here := top ""
  env := []

def manifest : Manifest :=
  ⟨{ Manifest.Tools.none with cxx := some (Path.ofString "my-cxx") }, []⟩

/-- Commands that print nothing and change nothing. -/
def idle : Runner := fun _ m =>
  (m, .ok "")

end Renamed

end Cli

end NativeBuild
