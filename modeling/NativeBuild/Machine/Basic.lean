import NativeBuild.Machine.Edit

/-!
The machine that a build runs on: its files, the current directory and the environment.
-/

namespace NativeBuild

/-- The machine as a program sees it. -/
structure Machine where
  files : Files
  here : Path
  env : List (String × String)

namespace Machine

/-- The place of the current directory. -/
def place (m : Machine) : Location :=
  m.here.names.filter (· ≠ ['.'])

/-- Whether a path leads to something. -/
def has (m : Machine) (p : Path) : Bool :=
  m.files.has m.place p

/-- Whether a path leads to a directory. -/
def isDirectory (m : Machine) (p : Path) : Bool :=
  m.files.isDirectory m.place p

/-- Whether a path leads to a regular file. -/
def isFile (m : Machine) (p : Path) : Bool :=
  m.files.isFile m.place p

/-- Make a directory and those above it that are missing. -/
def makeDirectories (m : Machine) (p : Path) : Machine × Except IoError Unit :=
  let (files, result) := m.files.makeDirectories m.place p
  ({ m with files }, result)

/-- The programs that the system brings along. -/
def programNames : List String :=
  ["dash", "bash", "echo", "printf", "true", "false", "test", "[", "cat", "head", "tail", "tr",
    "wc", "mkdir", "rmdir", "rm", "touch", "cp", "mv", "ln", "ls", "chmod", "seq", "sort", "uniq",
    "basename", "dirname", "env", "printenv", "pwd", "sleep", "tee", "readlink", "realpath", "cut",
    "rev", "grep", "egrep", "fgrep", "expr", "id", "whoami", "tac", "nl", "fold", "paste", "comm",
    "join", "expand", "unexpand", "od", "mawk", "sed", "xargs", "find", "install", "mktemp",
    "mkfifo", "link", "unlink", "truncate", "stat", "date", "uname", "nproc", "cksum", "md5sum",
    "sha1sum", "sha256sum", "base64", "cmp", "diff", "yes", "timeout", "nice", "nohup", "chown",
    "chgrp", "sync", "factor", "split", "tsort", "hostname", "groups", "arch", "dd", "kill",
    "stdbuf", "setsid", "which", "column", "tty", "sum"]

/-- Other names of programs: links in the directory of programs. -/
def programLinks : List (String × String) :=
  [("sh", "dash"), ("awk", "mawk")]

/-- The directories that every machine has. -/
def systemDirectories : List String :=
  ["usr", "usr/bin", "usr/sbin", "usr/lib", "usr/lib64", "usr/include", "usr/share", "usr/local",
    "usr/local/bin", "usr/local/sbin", "usr/local/lib", "etc", "home", "root", "opt", "srv", "mnt",
    "media", "run", "sys", "boot", "var", "var/tmp", "tmp", "dev", "dev/shm", "proc", "proc/4000",
    "proc/4000/fd"]

/-- The place of a path from the root. -/
def placeOf (text : String) : Location :=
  (Text.pieces '/' text.toList).filter fun piece => !piece.isEmpty

/-- The numbers of descriptors that have a path of their own. -/
def pathDescriptors : List Nat :=
  List.range 10 ++ [60, 61, 62, 63]

/-- The users of the machine. -/
def users : String :=
  "root:x:0:0:root:/root:/bin/bash\n"

/-- The files that every machine has. -/
def systemFiles : Files :=
  let link (place target : String) : Location × Entry :=
    (placeOf place, .link (Path.ofString target))
  { entries :=
      systemDirectories.map (fun d => (placeOf d, .directory)) ++
        [link "bin" "usr/bin", link "sbin" "usr/sbin", link "lib" "usr/lib",
          link "lib64" "usr/lib64", link "proc/self" "4000", (placeOf "proc/4000/cwd", .here),
          link "dev/fd" "/proc/self/fd", link "dev/stdin" "/proc/self/fd/0",
          link "dev/stdout" "/proc/self/fd/1", link "dev/stderr" "/proc/self/fd/2",
          (placeOf "dev/null", .nothing), (placeOf "dev/zero", .zeros),
          (placeOf "dev/urandom", .zeros), (placeOf "dev/random", .zeros),
          (placeOf "etc/passwd", .file (Text.encode users.toList) false)] ++
        pathDescriptors.map (fun n =>
          (placeOf "proc/4000/fd" ++ [Text.decimal n], .descriptor n)) ++
        programNames.map (fun name => (placeOf ("usr/bin/" ++ name), .program name)) ++
        programLinks.map (fun l => link ("usr/bin/" ++ l.1) l.2) }

/-- The directories that are searched for programs, if the environment does not say. -/
def searchPath : String :=
  "/usr/local/sbin:/usr/local/bin:/usr/sbin:/usr/bin:/sbin:/bin"

/-- The variables that the environment has if it does not say otherwise. -/
def usualEnvironment : List (String × String) :=
  [("PATH", searchPath), ("HOME", "/root")]

/-- A machine with the system's files, started in the directory `here`, which is made. -/
def start (here : Path) (env : List (String × String)) : Machine :=
  let env := (usualEnvironment.filter fun v => (env.lookup v.1).isNone) ++ env
  { files := (systemFiles.makeDirectories [] here).1, here, env }

end Machine

end NativeBuild
