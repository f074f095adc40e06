import NativeBuild.Userland.Tool.Files

/-!
Tools that put files where they belong: copies, moves, links, and copies that get permissions.
-/

namespace NativeBuild.Tool

open Shell

/-- Where a copy of `source` goes: into `target` if that is a directory. -/
def landing (p : Process) (intoDirectory : Bool) (source target : Raw) : Raw :=
  if intoDirectory && p.files.isDirectory p.here (rawPath target) then
    (if target.getLast? = some '/' then target else target ++ ['/']) ++ lastPart source []
  else target

/-- What is asked of a copy: that directories are copied too, that links are copied as links, that
modes and times are kept, and that what is there is left alone or taken away first. -/
structure CopyRule where
  deep : Bool := false
  keepsLinks : Bool := false
  keepsMarks : Bool := false
  spares : Bool := false
  removesFirst : Bool := false
  newer : Bool := false
  linksOnly : Option Bool := none

/-- Put a copy of one entry at a place. -/
def putCopy (rule : CopyRule) (p : Process) (source : Location) (e : Entry) (target : Location) :
    Except IoError Process := do
  let old := p.files.at? target
  let sourceMode := p.files.mode source e
  let fresh (p : Process) : Process :=
    if rule.keepsMarks then
      let p := withMode p target sourceMode
      changedAt p target (p.files.changed source)
    else
      match e with
      | .link _ => p
      | _ => if old.isSome then p else
          let mode := without sourceMode p.umask
          let usual := match e with
            | .directory => 0o755
            | .file _ true => 0o755
            | _ => 0o644
          if mode = usual then p else withMode p target mode
  let plain (bytes : List UInt8) (executable : Bool) : Except IoError Process :=
    match old with
    | some (.file _ kept) =>
      .ok (fresh (p.withFiles (p.files.put target (.file bytes kept))))
    | some .directory => .error .isDirectory
    | some (.nothing) => .ok p
    | some _ =>
      .ok (fresh (p.withFiles ((p.files.drop target).put target (.file bytes executable))))
    | none => .ok (fresh (p.withFiles (p.files.put target (.file bytes executable))))
  match e with
  | .directory =>
    match old with
    | some .directory => .ok p
    | some _ => .error .notDirectory
    | none => .ok (fresh (p.withFiles (p.files.put target .directory)))
  | .file bytes executable => plain bytes executable
  | .program _ => plain Files.programBytes true
  | .link path =>
    if old = some .directory then .error .isDirectory
    else
      let files := if old.isSome then p.files.drop target else p.files
      .ok (fresh (p.withFiles (files.put target (.link path))))
  | .pipe => .ok (p.withFiles (p.files.put target .pipe))
  | _ => plain [] false

/-- Copy what stands at a place, and what is below it, to another place. -/
def copyTree (rule : CopyRule) (p : Process) (source : Location) (e : Entry) (target : Location) :
    Except IoError Process := do
  let below := p.files.entries.filter fun item => Files.isBelow source item.1
  let p ← putCopy rule p source e target
  below.foldlM
    (fun p item => putCopy rule p item.1 item.2 (target ++ item.1.drop source.length)) p

/-- Copy one file or directory to a path. -/
def copyTo (rule : CopyRule) (source target : Raw) (p : Process) : Except IoError Process := do
  let (loc, e) ← p.files.find p.here (!rule.keepsLinks) (rawPath source)
  let (loc, e) : Location × Entry := match e with
    | .descriptor n => (loc, .file (bytesOf (p.pending n).text) false)
    | _ => (loc, e)
  if e = .directory && !rule.deep then .error .isDirectory
  else
    let isLink := match e with
      | .link _ => true
      | _ => false
    match ← p.files.locate p.here (!isLink) (Files.withoutSlashes (rawPath target)) with
    | .free dir name =>
      if target.getLast? = some '/' && e ≠ .directory then .error .notDirectory
      else
        let place := dir ++ [name]
        if loc = place || Files.isBelow loc place then .error .invalidArgument
        else
          match rule.linksOnly with
          | some true => .ok (p.withFiles (p.files.put place (.link (rawPath source))))
          | some false => .ok (p.withFiles (p.files.share loc place e))
          | none => copyTree rule p loc e place
    | .entry place old =>
      let isSame := (p.files.namesOf loc).contains place
      let isOld := rule.newer && p.files.changed loc ≤ p.files.changed place
      if rule.spares || isOld then .ok p
      else if isSame then .error .alreadyThere
      else if Files.isBelow loc place then .error .invalidArgument
      else if old = .directory && e ≠ .directory then .error .isDirectory
      else if rule.removesFirst && old ≠ .directory then
        copyTree rule (p.withFiles (p.files.drop place)) loc e place
      else copyTree rule p loc e place

/-- The operands of a tool that puts things somewhere: what, where to, and whether into a directory.
-/
def sourcesAndTarget (g : Given) : Option (List Raw × Raw) :=
  match g.value? 't' with
  | some target => if g.operands.isEmpty then none else some (g.operands, target)
  | none =>
    match g.operands.reverse with
    | target :: s :: sources => some ((s :: sources).reverse, target)
    | _ => none

/-- What is said when one thing is put in a place. -/
def saidOf (before : String) (first : Raw) (between : String) (second : Raw) : Raw :=
  rawString (before ++ "'") ++ first ++ rawString ("'" ++ between ++ "'") ++ second ++
    rawString "'\n"

/-- Keep what stands in the place of something new under another name, if that is asked for. -/
def keepOld (g : Given) (place : Raw) (p : Process) : Process :=
  if !g.has 'b' then p
  else
    match standing p place with
    | .ok (loc, e) =>
      let how := String.ofList ((g.value? 'b').getD [])
      let named (n : Nat) : Name := (loc.getLastD []) ++ rawString ".~" ++ Text.decimal n ++ ['~']
      let isFree (name : Name) : Bool := (p.files.at? (loc.dropLast ++ [name])).isNone
      let numbered := (((List.range' 1 1000).map named).find? isFree).getD []
      let name := if how = "numbered" || how = "t" then numbered else loc.getLastD [] ++ ['~']
      if e = .directory then p
      else
        let kept := loc.dropLast ++ [name]
        p.withFiles ((p.files.drop kept).move loc kept)
    | .error _ => p

/-- Go through what is to be put somewhere; `said` is what is said about one of them. -/
def placeEach (c : Call) (g : Given) (said : Process → Raw → Raw → Raw)
    (act : Raw → Raw → Process → Except IoError Process) : Act Nat := do
  match sourcesAndTarget g with
  | none => c.refuse "missing file operand" 1
  | some (sources, target) =>
    let p ← get
    let isDirectory := p.files.isDirectory p.here (rawPath target)
    if (sources.length > 1 || (g.value? 't').isSome) && !isDirectory then
      c.refuse "target is not a directory" 1
    else
      forEach sources fun source => change c source fun p =>
        let place := landing p (!g.has 'T') source target
        let text := if g.has 'v' then said p source place else []
        (act source place (keepOld g place p)).map fun p => p.write 1 text

/-- Copy files. -/
def cp (c : Call) : Act Nat :=
  let known : OptionSet :=
    { letters := "ab::dfiHlLnprRst:TuvxPS:Z"
      long := [("archive", 'a'), ("recursive", 'r'), ("force", 'f'), ("no-clobber", 'n'),
        ("preserve", 'p'), ("verbose", 'v'), ("update", 'u'), ("target-directory", 't'),
        ("no-target-directory", 'T'), ("symbolic-link", 's'), ("link", 'l'), ("dereference", 'L'),
        ("no-dereference", 'P'), ("interactive", 'i'), ("remove-destination", 'Z'),
        ("backup", 'b')] }
  c.withOptions known 1 fun g =>
    let deep := g.has 'r' || g.has 'R' || g.has 'a'
    let keepsLinks := match g.last? ['L', 'P', 'H', 'd', 'a'] with
      | some 'L' => false
      | some 'H' => false
      | some _ => true
      | none => deep
    let said (p : Process) (source target : Raw) : Raw :=
      let below : List Raw := match p.files.find p.here (!keepsLinks) (rawPath source) with
        | .ok (loc, .directory) =>
          (p.files.entries.filter fun item => Files.isBelow loc item.1).map fun item =>
            placeText (item.1.drop loc.length)
        | _ => []
      saidOf "" source " -> " target ++
        below.flatMap fun tail => saidOf "" (source ++ tail) " -> " (target ++ tail)
    placeEach c g said <| copyTo
      { deep
        keepsLinks
        keepsMarks := g.has 'p' || g.has 'a'
        spares := g.has 'n'
        removesFirst := g.has 'Z'
        newer := g.has 'u'
        linksOnly := if g.has 's' then some true else if g.has 'l' then some false else none }

/-- Move one file or directory to a path. -/
def moveTo (spares newer : Bool) (source target : Raw) (p : Process) : Except IoError Process := do
  let (loc, e) ← standing p source
  match ← p.files.locate p.here false (Files.withoutSlashes (rawPath target)) with
  | .free dir name =>
    let place ← Files.freePlace dir name
    if Files.isBelow loc place then .error .invalidArgument
    else if target.getLast? = some '/' && e ≠ .directory then .error .notDirectory
    else .ok (p.withFiles (p.files.move loc place))
  | .entry place old =>
    let isOld := newer && p.files.changed loc ≤ p.files.changed place
    if spares || isOld then .ok p
    else if (p.files.namesOf loc).contains place then .error .alreadyThere
    else if Files.isBelow loc place then .error .invalidArgument
    else if old = .directory && e ≠ .directory then .error .isDirectory
    else if old ≠ .directory && e = .directory then .error .notDirectory
    else if old = .directory && !(p.files.inside place).isEmpty then .error .notEmpty
    else .ok (p.withFiles ((p.files.drop place).move loc place))

/-- Move files. -/
def mv (c : Call) : Act Nat :=
  let known : OptionSet :=
    { letters := "b::fint:TuvS:Z"
      long := [("force", 'f'), ("no-clobber", 'n'), ("verbose", 'v'), ("update", 'u'),
        ("target-directory", 't'), ("no-target-directory", 'T'), ("interactive", 'i'),
        ("backup", 'b')] }
  c.withOptions known 1 fun g =>
    placeEach c g (fun _ source target => saidOf "renamed " source " -> " target)
      (moveTo (g.has 'n') (g.has 'u'))

/-- Make one link. -/
def linkTo (g : Given) (source target : Raw) (p : Process) : Except IoError Process := do
  let path := rawPath target
  let force := g.has 'f'
  let p ← match p.files.find p.here false path with
    | .ok (loc, e) =>
      let isSame := match p.files.find p.here false (rawPath source) with
        | .ok (other, _) => other = loc
        | .error _ => false
      if !force || e = .directory || (isSame && !g.has 's') then .error .alreadyThere
      else .ok (p.withFiles (p.files.drop loc))
    | .error _ => .ok p
  match ← p.files.locate p.here false path with
  | .entry _ _ => .error .alreadyThere
  | .free dir name =>
    let place ← Files.freePlace dir name
    if g.has 's' then .ok (p.withFiles (p.files.put place (.link (rawPath source))))
    else
      let (loc, e) ← p.files.find p.here (g.has 'L') (rawPath source)
      if e = .directory then .error .notPermitted
      else .ok (p.withFiles (p.files.share loc place e))

/-- Make links. -/
def ln (c : Call) : Act Nat :=
  let known : OptionSet :=
    { letters := "bdfinLPrst:Tv"
      long := [("symbolic", 's'), ("force", 'f'), ("no-dereference", 'n'), ("verbose", 'v'),
        ("target-directory", 't'), ("no-target-directory", 'T'), ("relative", 'r'),
        ("logical", 'L'), ("physical", 'P')] }
  c.withOptions known 1 fun g => do
    let g := match g.operands, g.value? 't' with
      | [one], none => { g with operands := [one, ['.']] }
      | _, _ => g
    let p ← get
    let last := g.operands.getLastD []
    let replaces := g.has 'n' && (match standing p last with
      | .ok (_, .link _) => true
      | _ => false)
    let g := if replaces then { g with options := ('T', []) :: g.options } else g
    let mark := if g.has 's' then " -> " else " => "
    placeEach c g (fun _ source target => saidOf "" target mark source) (linkTo g)

/-- Copy a file to a path and give it permissions. -/
def installTo (mode : Nat) (makesPath : Bool) (source target : Raw) (p : Process) :
    Except IoError Process := do
  let p := if makesPath then
      p.withFiles (p.files.makeDirectories p.here (rawPath (abovePart target))).1
    else p
  let p ← copyTo { removesFirst := true } source target p
  let (loc, _) ← p.files.find p.here true (rawPath target)
  return withMode p loc mode

/-- Copy files to where they belong, or make directories. -/
def install (c : Call) : Act Nat :=
  let known : OptionSet :=
    { letters := "bcCdDg:m:o:pst:TvS:"
      long := [("directory", 'd'), ("mode", 'm'), ("target-directory", 't'), ("verbose", 'v'),
        ("no-target-directory", 'T'), ("preserve-timestamps", 'p'), ("strip", 's')] }
  c.withOptions known 1 fun g => do
    let p ← get
    match newMode? p.umask true ((g.value? 'm').getD "755".toList) 0 with
    | none => c.refuse "invalid mode" 1
    | some mode =>
      if g.has 'd' then
        if g.operands.isEmpty then c.refuse "missing file operand" 1
        else
          forEach g.operands fun name => change c name fun p =>
            let isNew := !p.files.has p.here (rawPath name)
            let text := if g.has 'v' && isNew then
                rawString "install: creating directory '" ++ name ++ rawString "'\n"
              else []
            match p.files.makeDirectories p.here (rawPath name) with
            | (files, .ok ()) => .ok ((p.withFiles files).write 1 text)
            | (_, .error e) => .error e
      else
        if g.has 'D' then
          if let some target := g.value? 't' then
            set (p.withFiles (p.files.makeDirectories p.here (rawPath target)).1)
        placeEach c g (fun _ source target => saidOf "" source " -> " target)
          (installTo mode (g.has 'D'))

end NativeBuild.Tool
