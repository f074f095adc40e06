import NativeBuild.Cli.Run

/-!
The program.  The files below the current directory, and those of a project that lies elsewhere, are
taken into a machine; the command line is run there; and what has changed is written back.
-/

namespace NativeBuild.Program

/-- The first bytes of a script, which is taken to be executable. -/
def scriptMark : List UInt8 :=
  Text.encode ['#', '!']

/-- Take in what stands directly inside a place and below it.  Links and devices are passed over. -/
partial def load (files : Files) (loc : Location) (inside : Array IO.FS.DirEntry) : IO Files :=
  inside.foldlM
    (fun files entry => do
      let loc := loc ++ [entry.fileName.toList]
      match (← entry.path.symlinkMetadata).type with
      | .dir => load (files.put loc .directory) loc (← entry.path.readDir)
      | .file =>
        let bytes := (← IO.FS.readBinFile entry.path).toList
        return files.put loc (.file bytes (scriptMark.isPrefixOf bytes))
      | _ => return files)
    files

/-- Take in the directory at a path, if there is one. -/
def loadAt (m : Machine) (path : String) : IO Machine := do
  let dir ← IO.FS.realPath path
  if ← dir.isDir then
    let p := Path.ofString dir.toString
    let m := (m.makeDirectories p).1
    return { m with files := ← load m.files (Machine.placeOf p.text) (← dir.readDir) }
  else return m

/-- The text of a place. -/
def textOf (loc : Location) : String :=
  String.ofList ('/' :: ['/'].intercalate loc)

/-- Write a changed entry back. -/
def store (loc : Location) : Entry → IO Unit
  | .directory => IO.FS.createDirAll (textOf loc)
  | .file bytes executable => do
    IO.FS.writeBinFile (textOf loc) ⟨bytes.toArray⟩
    if executable then
      let all : IO.AccessRight := { read := true, write := true, execution := true }
      let most : IO.AccessRight := { read := true, execution := true }
      IO.setAccessRights (textOf loc) { user := all, group := most, other := most }
  | _ => pure ()

/-- Take away an entry that is gone. -/
def discard (loc : Location) : Entry → IO Unit
  | .directory => IO.FS.removeDir (textOf loc)
  | _ => IO.FS.removeFile (textOf loc)

/-- Write back what is different. -/
def update (before after : Files) : IO Unit := do
  for (loc, entry) in before.entries.reverse do
    if (after.at? loc).isNone then discard loc entry
  for (loc, entry) in after.entries do
    if before.at? loc ≠ some entry then store loc entry

/-- The variables of the environment that matter. -/
def environment : IO (List (String × String)) :=
  (Settings.variableNames ++ ["PATH", "HOME"]).filterMapM fun name => do
    return (← IO.getEnv name).map (name, ·)

/-- A length of time in nanoseconds. -/
def elapsed (nanos : Nat) : Duration :=
  ⟨nanos / 1000000000, nanos % 1000000000, Nat.mod_lt _ (by decide)⟩

end NativeBuild.Program

open NativeBuild NativeBuild.Program in
/-- Run the command line that the program is called with. -/
def main (args : List String) : IO UInt32 := do
  let started ← IO.monoNanosNow
  let here := (← IO.currentDir).toString
  let mut machine ← loadAt (Machine.start (Path.ofString here) (← environment)) here
  if let some root := (Cli.Invocation.ofArgs? args).bind Cli.Invocation.root? then
    machine ← loadAt machine root.text
  let ended := Cli.start machine args
  update machine.files ended.machine.files
  let console := ended.console (elapsed ((← IO.monoNanosNow) - started))
  IO.print console.out
  IO.eprint console.err
  return ended.code.toUInt32
