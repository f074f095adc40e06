import NativeBuild.Pool.Basic
import NativeBuild.Text.Blank
import NativeBuild.Text.Decimal

/-!
What the environment says about a build.
-/

namespace NativeBuild

/-- The settings that are read from the environment. -/
structure Settings where
  jobs : Option String
  buildDir : Option String
  objectDir : Option String
  cxx : Option String
  cc : Option String

namespace Settings

/-- The variables of the environment that hold settings. -/
def variableNames : List String :=
  ["CFORGE_JOBS", "CFORGE_BUILD_DIR", "CFORGE_OBJECT_DIR", "CFORGE_CXX", "CFORGE_CC"]

/-- The settings in an environment. -/
def ofEnv (env : List (String × String)) : Settings :=
  { jobs := env.lookup "CFORGE_JOBS"
    buildDir := env.lookup "CFORGE_BUILD_DIR"
    objectDir := env.lookup "CFORGE_OBJECT_DIR"
    cxx := env.lookup "CFORGE_CXX"
    cc := env.lookup "CFORGE_CC" }

/-- A setting that holds text; an empty one counts as not given. -/
def given? (setting : Option String) : Option String :=
  setting.filter fun s => !s.isEmpty

/-- The number of tasks that run beside each other if nothing else is said. -/
def defaultParallelism : Nat := 32

/-- The number of tasks that run beside each other: a positive number, blanks around it aside, or
else the default. -/
def parallelism (s : Settings) : Nat :=
  match s.jobs.bind fun text => Text.unsigned64? (Text.trim text.toList) with
  | some n => if 0 < n then n else defaultParallelism
  | none => defaultParallelism

/-- How a pool is to run if nothing but the environment says so. -/
def poolConfig (s : Settings) : PoolConfig :=
  { parallelism := s.parallelism, mode := .pooled, policy := .bestEffort }

end Settings

end NativeBuild
