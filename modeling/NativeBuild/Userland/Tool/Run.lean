import NativeBuild.Userland.Digest
import NativeBuild.Digest.Sha256
import NativeBuild.Userland.Tool.Awk.Run
import NativeBuild.Userland.Tool.Columns
import NativeBuild.Userland.Tool.Compare
import NativeBuild.Userland.Tool.Copy
import NativeBuild.Userland.Tool.Dump
import NativeBuild.Userland.Tool.Find
import NativeBuild.Userland.Tool.SedRun
import NativeBuild.Userland.Tool.Show
import NativeBuild.Userland.Tool.Sort
import NativeBuild.Userland.Tool.Split
import NativeBuild.Userland.Tool.Translate

/-!
The tools by their names.
-/

namespace NativeBuild.Tool

open Shell

/-- Whether arguments that are a condition hold; a bracket has to be closed. -/
def test (isBracket : Bool) (c : Call) : Act Nat := do
  let p ← get
  let style : ConditionStyle := { doubleEquals := true, compares := false, anySize := true }
  let args? : Option (List Raw) :=
    if !isBracket then some c.args
    else if c.args.getLast? = some [']'] then some c.args.dropLast
    else none
  match args?.bind (Condition.holds? style p) with
  | some holds => return if holds then 0 else 1
  | none => c.refuse "not a condition" 2

/-- Give files an owner, which is the same for all. -/
def own (c : Call) : Act Nat :=
  let known : OptionSet :=
    { letters := "RvcfhHLP"
      long := [("recursive", 'R'), ("verbose", 'v'), ("changes", 'c'), ("silent", 'f'),
        ("no-dereference", 'h'), ("reference", 'r')] }
  c.withOptions known 1 fun g => do
    match g.operands with
    | _ :: first :: rest =>
      forEach (first :: rest) fun path => do
        match standing (← get) path with
        | .ok _ => return true
        | .error e =>
          c.complain (fileFault path e)
          return false
    | _ => c.refuse "missing operand" 1

/-- Leave a status, whatever the arguments are. -/
def leave (status : Nat) (_ : Call) : Act Nat :=
  return status

/-- Say that the input is no terminal. -/
def tty (c : Call) : Act Nat := do
  if !c.args.contains ['-', 's'] then outLine (rawString "not a tty")
  return 1

/-- The tools that leave a status. -/
def plainTools : List (String × (Call → Act Nat)) :=
  [("true", leave 0), ("false", leave 1), ("sync", leave 0), ("echo", echo), ("printf", printfTool),
    ("test", test false), ("[", test true), ("cat", cat), ("tac", tac), ("nl", nl), ("fold", fold),
    ("expand", expand), ("unexpand", unexpand), ("head", ends true), ("tail", ends false),
    ("wc", wc),
    ("tee", tee), ("rev", rev), ("cut", cut), ("paste", paste), ("comm", comm), ("join", join),
    ("column", column), ("sort", sort), ("uniq", uniq), ("tr", tr), ("yes", yes),
    ("printenv", printenv), ("pwd", pwd), ("id", identity), ("uname", uname), ("seq", seq),
    ("sleep", sleep), ("basename", basename), ("dirname", dirname), ("factor", factor),
    ("whoami", fixedLine "root"), ("hostname", fixedLine "localhost"), ("nproc", fixedLine "1"),
    ("arch", fixedLine "x86_64"), ("groups", fixedLine "root"), ("mkdir", mkdir), ("rmdir", rmdir),
    ("rm", rm), ("touch", touch), ("cp", cp), ("mv", mv), ("ln", ln), ("link", ln),
    ("chmod", chmod),
    ("chown", own), ("chgrp", own), ("install", install), ("mkfifo", mkfifo),
    ("truncate", truncate), ("unlink", unlink), ("mktemp", mktemp), ("ls", ls),
    ("readlink", readlink), ("realpath", realpath), ("stat", stat), ("date", date),
    ("grep", grep (.regex .basic)), ("egrep", grep (.regex .extended)), ("fgrep", grep .fixed),
    ("expr", expr), ("od", od), ("base64", base64), ("cksum", cksum), ("sum", sum),
    ("md5sum", digestTool fun bytes => hexText (Digest.Md5.digest bytes)),
    ("sha1sum", digestTool fun bytes => hexText (Digest.Sha1.digest bytes)),
    ("sha256sum", digestTool Sha256.hex), ("sed", sed), ("cmp", cmp),
    ("diff", diff), ("which", which), ("kill", kill), ("split", split), ("dd", dd),
    ("tsort", tsort), ("tty", tty)]

/-- The tools that may start programs. -/
def startingTools : List (String × (Call → Act Exit)) :=
  let shown (text : String) : Act Exit := do
    outLine (rawString text)
    return .status 0
  let refused : Act Exit := return .status 125
  [("env", env), ("xargs", xargs), ("timeout", timeout), ("find", find), ("mawk", awk),
    ("nice", otherwise "n:" (shown "0")), ("nohup", otherwise "" refused),
    ("setsid", otherwise "cfw" (return .status 1)), ("stdbuf", otherwise "i:o:e:" refused)]

/-- Run a tool by its name, if there is one. -/
def run? (tool : String) (c : Call) : Option (Act Exit) :=
  match plainTools.lookup tool with
  | some act => some do return .status (← act c)
  | none => (startingTools.lookup tool).map fun act => act c

end NativeBuild.Tool
