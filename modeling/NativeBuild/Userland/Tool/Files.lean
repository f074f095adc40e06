import NativeBuild.Userland.Tool.Mode
import NativeBuild.Userland.Tool.Print
import NativeBuild.Userland.Tool.TimeWords

/-!
Tools that make files and directories, change what is known of them, and take them away.
-/

namespace NativeBuild.Tool

open Shell

/-- What a path names, the last link not followed. -/
def standing (p : Process) (path : Raw) : Except IoError (Location × Entry) :=
  p.files.find p.here false (Files.withoutSlashes (rawPath path))

/-- Give a place permissions. -/
def withMode (p : Process) (loc : Location) (mode : Nat) : Process :=
  match p.files.at? loc with
  | some e => p.withFiles (p.files.setMode loc e mode)
  | none => p

/-- Do something for each of some operands; the status tells whether all went well. -/
def forEach (names : List Raw) (act : Raw → Act Bool) : Act Nat := do
  let mut status := 0
  for name in names do
    if !(← act name) then status := 1
  return status

/-- Make directories. -/
def mkdir (c : Call) : Act Nat :=
  let known : OptionSet :=
    { letters := "pm:vZ", long := [("parents", 'p'), ("mode", 'm'), ("verbose", 'v')] }
  c.withOptions known 1 fun g => do
    if g.operands.isEmpty then c.refuse "missing operand" 1
    else
      let umask := (← get).umask
      let usual := without 0o777 umask
      let mode := (g.value? 'm').map fun text => newMode? umask true text 0o777
      match mode with
      | some none => c.refuse "invalid mode" 1
      | _ =>
        let making (name : Raw) : Raw := rawString "cannot create directory " ++ name
        forEach g.operands fun name => change c (making name) fun p =>
          let path := rawPath name
          let isNew (part : Raw) : Bool := !part.isEmpty && !p.files.has p.here (rawPath part)
          let parts := if g.has 'p' then
              ((List.range (name.length + 1)).map name.take).filter fun part =>
                part.length = name.length || name[part.length]? = some '/'
            else [name]
          let said := (parts.filter isNew).flatMap fun part =>
            rawString "mkdir: created directory '" ++ part ++ rawString "'\n"
          let made (files : Files) (fresh : Bool) : Process :=
            let p := p.withFiles files
            let p := if g.has 'v' then p.write 1 said else p
            match p.files.find p.here true path with
            | .ok (loc, _) =>
              match mode with
              | some (some mode) => if fresh then withMode p loc mode else p
              | _ => if fresh && usual ≠ 0o755 then withMode p loc usual else p
            | .error _ => p
          if g.has 'p' then
            let fresh := !p.files.has p.here path
            match p.files.makeDirectories p.here path with
            | (files, .ok ()) => .ok (made files fresh)
            | (_, .error e) => .error e
          else (p.files.makeDirectory p.here path).map (made · true)

/-- Take away an empty directory. -/
def removeDirectory (p : Process) (path : Raw) : Except IoError Process := do
  if lastPart path [] = ['.'] then .error .invalidArgument
  else
    match ← standing p path with
    | (loc, .directory) =>
      if !(p.files.inside loc).isEmpty then .error .notEmpty
      else .ok (p.withFiles (p.files.drop loc))
    | _ => .error .notDirectory

/-- A path and those above it. -/
def upwards : Nat → Raw → List Raw
  | 0, path => [path]
  | fuel + 1, path =>
    let above := abovePart path
    if above = ['.'] || above = ['/'] || above = path then [path] else path :: upwards fuel above

/-- Take away empty directories. -/
def rmdir (c : Call) : Act Nat :=
  let known : OptionSet :=
    { letters := "pvI", long := [("parents", 'p'), ("verbose", 'v'),
        ("ignore-fail-on-non-empty", 'I')] }
  c.withOptions known 1 fun g => do
    if g.operands.isEmpty then c.refuse "missing operand" 1
    else
      forEach g.operands fun name => do
        let mut good := true
        for path in (if g.has 'p' then upwards name.length name else [name]) do
          if good then
            if g.has 'v' then
              outLine (rawString "rmdir: removing directory, '" ++ path ++ rawString "'")
            match removeDirectory (← get) path with
            | .ok p => set p
            | .error e =>
              c.complain (rawString "failed to remove '" ++ path ++ rawString ("': " ++ e.reason))
              good := false
              if e = .notEmpty && g.has 'I' then return true
        return good

/-- Take away files and, if asked to, directories with all that is in them. -/
def rm (c : Call) : Act Nat :=
  let known : OptionSet :=
    { letters := "dfirRvIP"
      long := [("force", 'f'), ("recursive", 'r'), ("dir", 'd'), ("verbose", 'v'),
        ("preserve-root", 'P'), ("one-file-system", 'P')] }
  c.withOptions known 1 fun g => do
    let deep := g.has 'r' || g.has 'R'
    if g.operands.isEmpty then
      if g.has 'f' then return 0 else c.refuse "missing operand" 1
    else
      forEach g.operands fun name => do
        let last := lastPart name []
        if last = ['.'] || last = ['.', '.'] || last = ['/'] then
          c.complain (rawString "refusing to remove " ++ name)
          return false
        else
          let base := if name.getLast? = some '/' then name.dropLast else name
          let below (p : Process) (loc : Location) : Raw :=
            let below := p.files.entries.filter fun item => Files.isBelow loc item.1
            below.reverse.flatMap fun (place, e) =>
              rawString (if e = .directory then "removed directory '" else "removed '") ++ base ++
                placeText (place.drop loc.length) ++ rawString "'\n"
          let said (p : Process) (text : String) : Process :=
            if g.has 'v' then p.write 1 (rawString text ++ name ++ rawString "'\n") else p
          let saidBelow (p : Process) (loc : Location) : Process :=
            if g.has 'v' then p.write 1 (below p loc) else p
          change c (rawString "cannot remove " ++ name) fun p =>
            match standing p name with
            | .ok (loc, .directory) =>
              if deep || (g.has 'd' && (p.files.inside loc).isEmpty) then
                let told := saidBelow p loc
                .ok (said (told.withFiles (p.files.drop loc)) "removed directory '")
              else .error .isDirectory
            | .ok (loc, _) =>
              if name.getLast? = some '/' then .error .notDirectory
              else .ok (said (p.withFiles (p.files.drop loc)) "removed '")
            | .error e =>
              if g.has 'f' && (e = .notFound || e = .notDirectory) then .ok p else .error e

/-- Note the time of the last change of a place. -/
def changedAt (p : Process) (loc : Location) (time : Int) : Process :=
  p.withFiles (p.files.setMark loc { p.files.mark loc with changed := some time })

/-- Make files that are missing, and set the times of others. -/
def touch (c : Call) : Act Nat :=
  let known : OptionSet :=
    { letters := "acd:fhmr:t:T:"
      long := [("no-create", 'c'), ("date", 'd'), ("reference", 'r'), ("no-dereference", 'h'),
        ("time", 'T')] }
  c.withOptions known 1 fun g => do
    if g.operands.isEmpty then c.refuse "missing file operand" 1
    else
      let p ← get
      let now : Int := p.world.clock
      let time : Option Int :=
        match g.last? ['d', 't', 'r'] with
        | some 'd' => timeOf? now ((g.value? 'd').getD [])
        | some 't' => stampOf? ((g.value? 't').getD [])
        | some _ =>
          (p.entryAt true ((g.value? 'r').getD [])).map fun (loc, _) => p.files.changed loc
        | none => some now
      match time with
      | none => c.refuse "invalid date" 1
      | some time =>
        forEach g.operands fun name => change c (rawString "cannot touch " ++ name) fun p =>
          match p.files.locate p.here true (rawPath name) with
          | .ok (.entry loc _) => .ok (changedAt p loc time)
          | .ok (.free _ _) =>
            if g.has 'c' then .ok p
            else do
              if name.getLast? = some '/' then .error .notFound
              else
                let p ← p.writeFile .append (rawPath name) []
                match p.files.find p.here true (rawPath name) with
                | .ok (loc, _) => .ok (changedAt p loc time)
                | .error e => .error e
          | .error .notFound => if g.has 'c' then .ok p else .error .notFound
          | .error e => .error e

/-- Change modes. -/
def chmod (c : Call) : Act Nat :=
  let known : OptionSet :=
    { letters := "RvfcF:", long := [("recursive", 'R'), ("verbose", 'v'), ("silent", 'f'),
        ("quiet", 'f'), ("changes", 'c'), ("reference", 'F')] }
  let isMode (a : Raw) : Bool :=
    a.head? = some '-' && a.length > 1 && (a.drop 1).all fun x => "rwxXstugoa,+=-".toList.contains x
  let args := match c.args.find? isMode with
    | some mode => if mode = ['-', '-'] then c.args else
        let others := c.args.erase mode
        let isOption (a : Raw) : Bool := a.head? = some '-'
        others.takeWhile isOption ++ ['-', '-'] :: mode :: others.dropWhile isOption
    | none => c.args
  { c with args }.withOptions known 1 fun g => do
    let p ← get
    let (given?, names) : Option Raw × List Raw :=
      match g.value? 'F', g.operands with
      | some path, names =>
        ((p.entryAt true path).map fun (loc, e) => Text.digits 8 (p.files.mode loc e), names)
      | none, mode :: names => (some mode, names)
      | none, [] => (none, [])
    match given? with
    | none => c.refuse "missing operand" 1
    | some mode =>
      if names.isEmpty then c.refuse "missing operand" 1
      else if (newMode? p.umask true mode 0).isNone then c.refuse "invalid mode" 1
      else
        forEach names fun name => change c (rawString "cannot access " ++ name) fun p => do
          let (loc, e) ← p.files.find p.here true (rawPath name)
          let below : List (Location × Entry) := if g.has 'R' then
              p.files.entries.filter fun item => Files.isBelow loc item.1
            else []
          let step (p : Process) (item : Location × Entry) : Process :=
            let old := p.files.mode item.1 item.2
            let isRunnable := item.2 = Entry.directory || old &&& 0o111 ≠ 0
            let shown (mode : Nat) : Raw :=
              let digits := Text.digits 8 mode
              List.replicate (4 - digits.length) '0' ++ digits ++ rawString " (" ++
                (modeText item.2 mode).drop 1 ++ [')']
            let path := name ++ (if item.1 = loc then [] else placeText (item.1.drop loc.length))
            let said (new : Nat) : Raw :=
              if old = new then
                if g.has 'v' then
                  rawString "mode of '" ++ path ++ rawString "' retained as " ++ shown old ++ ['\n']
                else []
              else if g.has 'v' || g.has 'c' then
                rawString "mode of '" ++ path ++ rawString "' changed from " ++ shown old ++
                  rawString " to " ++ shown new ++ ['\n']
              else []
            match item.2, newMode? p.umask isRunnable mode old with
            | .link _, _ => p
            | _, some new => (withMode p item.1 new).write 1 (said new)
            | _, none => p
          return ((loc, e) :: below).foldl step p

/-- Make pipes that have a name. -/
def mkfifo (c : Call) : Act Nat :=
  c.withOptions { letters := "m:", long := [("mode", 'm')] } 1 fun g => do
    if g.operands.isEmpty then c.refuse "missing operand" 1
    else
      forEach g.operands fun name => change c (rawString "cannot create fifo " ++ name) fun p => do
        match ← p.files.locate p.here false (rawPath name) with
        | .entry _ _ => .error .alreadyThere
        | .free dir n => .ok (p.withFiles (p.files.put (dir ++ [n]) .pipe))

/-- Give files a size: a number of bytes, or a change of it. -/
def truncate (c : Call) : Act Nat :=
  c.withOptions { letters := "cor:s:",
                  long := [("size", 's'), ("no-create", 'c'), ("reference", 'r')] }
    1 fun g => do
    let p ← get
    let (relation, text) : Char × Raw := match g.value? 's' with
      | some (r :: rest) => if Text.isDigit r then ('=', r :: rest) else (r, rest)
      | _ => ('=', [])
    let amount : Option Nat := match g.value? 'r' with
      | some path => (p.entryAt true path).bind fun (_, e) => match e with
        | .file bytes _ => some bytes.length
        | _ => none
      | none => sized? text
    match amount with
    | none => c.refuse "invalid number" 1
    | some n =>
      if g.operands.isEmpty then c.refuse "missing file operand" 1
      else
        forEach g.operands fun name => change c (rawString "cannot open " ++ name) fun p => do
          let path := rawPath name
          if g.has 'c' && !p.files.has p.here path then return p
          else
            let p ← p.writeFile .append path []
            match ← p.files.find p.here true path with
            | (loc, .file bytes executable) =>
              let size := match relation with
                | '+' => bytes.length + n
                | '-' => bytes.length - n
                | '<' => min bytes.length n
                | '>' => max bytes.length n
                | '/' => if n = 0 then bytes.length else bytes.length / n * n
                | '%' => if n = 0 then bytes.length else (bytes.length + n - 1) / n * n
                | _ => n
              let new := bytes.take size ++ List.replicate (size - bytes.length) 0
              return p.withFiles (p.files.put loc (.file new executable))
            | _ => return p

/-- Take away one file. -/
def unlink (c : Call) : Act Nat :=
  match c.args with
  | [name] => do
    let done ← change c (rawString "cannot unlink " ++ name) fun p =>
      match standing p name with
      | .ok (_, .directory) => .error .isDirectory
      | .ok (loc, _) => .ok (p.withFiles (p.files.drop loc))
      | .error e => .error e
    return if done then 0 else 1
  | _ => c.refuse "wrong number of operands" 1

/-- A name with letters in the stead of the marks at the end of a template. -/
def fillTemplate (seed : Nat) (template : Raw) : Option Raw :=
  let back := template.reverse
  let tail := back.takeWhile (· ≠ 'X')
  let marks := (back.drop tail.length).takeWhile (· = 'X')
  if marks.length < 3 then none
  else
    let letter (k : Nat) : Char := Char.ofNat ('a'.toNat + (seed * 31 + k * 7 + k * k * 3) % 26)
    some ((back.drop (tail.length + marks.length)).reverse ++
      (List.range marks.length).map letter ++ tail.reverse)

/-- Make a file or a directory with a name that nothing else has. -/
def mktemp (c : Call) : Act Nat :=
  let known : OptionSet :=
    { letters := "dup::qtT:"
      long := [("directory", 'd'), ("dry-run", 'u'), ("tmpdir", 'p'), ("quiet", 'q'),
        ("suffix", 'T')] }
  let args := c.args.flatMap fun a => if a = ['-', 'p'] then [rawString "--tmpdir="] else [a]
  let attach (a : Raw) (rest : List Raw) : List Raw :=
    match rest with
    | next :: more =>
      if a = rawString "--tmpdir=" && next.head? ≠ some '-' then (a ++ next) :: more else a :: rest
    | [] => [a]
  let joined := args.foldr attach []
  { c with args := joined }.withOptions known 1 fun g => do
    let p ← get
    let template := g.operands.headD "tmp.XXXXXXXXXX".toList
    let base := (c.env.lookup "TMPDIR".toList).getD "/tmp".toList
    let dir : Option Raw := match g.value? 'p' with
      | some dir => some (if dir.isEmpty then base else dir)
      | none => if g.operands.isEmpty || g.has 't' then some base else none
    match fillTemplate (p.world.next + p.world.newest) template with
    | none => c.refuse "too few X's in template" 1
    | some name =>
      let name := name ++ (g.value? 'T').getD []
      let path := match dir with
        | some dir => dir ++ '/' :: name
        | none => name
      let made (p : Process) : Except IoError Process :=
        if g.has 'u' then .ok p
        else if g.has 'd' then (p.files.makeDirectory p.here (rawPath path)).map p.withFiles
        else p.writeFile .append (rawPath path) []
      let done ← change c path made
      modify fun (p : Process) => { p with world := { p.world with next := p.world.next + 1 } }
      if done then
        outLine path
        return 0
      else return 1

end NativeBuild.Tool
