import NativeBuild.Userland.Shell.Fill

/-!
Redirections: what a descriptor stands for while a part of a script runs.
-/

namespace NativeBuild.Shell

/-- What a shell says about a file that it could not open. -/
def State.openError (s : State) (makes : Bool) (target : Raw) (e : IoError) : State :=
  let reason := rawString e.reason
  if s.isRich then s.complain (target ++ rawString ": " ++ reason)
  else
    let reason := if e ≠ .notFound then reason
      else rawString (if makes then "Directory nonexistent" else "No such file")
    s.complain (rawString (if makes then "cannot create " else "cannot open ") ++ target ++
      rawString ": " ++ reason)

/-- A descriptor from ten on that is not in use. -/
def State.freeDescriptor (s : State) : Nat :=
  ((List.range' 10 246).find? fun n => (s.handles.lookup n).isNone).getD 255

/-- Make a redirection; a message is written if it fails. -/
def redirectOne (go : Go) (r : Redirect) (s : State) : State × Bool :=
  let (s, target) := oneText go r.target s
  if s.broken then (s, false)
  else
    let path := rawPath target
    let closes := r.direction = .copy ∧ target = ['-']
    let (s, descriptor) : State × Nat :=
      match r.holder with
      | none => (s, r.descriptor)
      | some name =>
        if closes then (s, ((s.get? name).map number).getD 0)
        else
          let n := s.freeDescriptor
          (s.set name (Text.decimal n), n)
    let put (p : Process) (c : Channel) : State × Bool :=
      ({ s with toProcess := p.setHandle descriptor (some c) }, true)
    let given (text : Raw) : State × Bool :=
      let (world, c) := s.world.source ⟨text, false⟩
      put { s.toProcess with world } c
    let write (mode : Process.WriteMode) : State × Bool :=
      match s.toProcess.openToWrite mode path with
      | .ok (p, c) => put p c
      | .error e => (s.openError true target e, false)
    match r.direction with
    | .text => given target
    | .line => given (target ++ ['\n'])
    | .input =>
      match s.toProcess.openToRead path with
      | .ok (p, c) => put p c
      | .error e => (s.openError false target e, false)
    | .both => write .within
    | .append => write .append
    | .force => write .anew
    | .output =>
      let isThere := match s.files.find s.here true path with
        | .ok (_, .file _ _) => true
        | _ => false
      if s.options.noclobber && isThere then
        (if s.isRich then s.complain (target ++ rawString ": cannot overwrite existing file")
          else s.openError true target .alreadyThere, false)
      else write .anew
    | .copy =>
      if target = ['-'] then (s.onProcess fun p => p.setHandle descriptor none, true)
      else
        let moves := target.getLast? = some '-'
        let source := if moves then target.dropLast else target
        if source.isEmpty || !source.all Text.isDigit then
          (s.complain (target ++ rawString ": bad descriptor"), false)
        else
          match s.handles.lookup (number source) with
          | some c =>
            let s := s.onProcess fun p => p.setHandle descriptor (some c)
            (if moves then s.onProcess fun p => p.setHandle (number source) none else s, true)
          | none => (s.complain (source ++ rawString ": Bad file descriptor"), false)

/-- Make redirections in turn, up to the first that fails. -/
def redirectAll (go : Go) : List Redirect → State → State × Bool
  | [], s => (s, true)
  | r :: rest, s =>
    match redirectOne go r s with
    | (s, true) => redirectAll go rest s
    | (s, false) => (s, false)

/-- Give descriptors back what they stood for before. -/
def State.restoreHandles (s before : State) (descriptors : List Nat) : State :=
  descriptors.foldl
    (fun s d => s.onProcess fun p => p.setHandle d (before.handles.lookup d)) s

/-- The status of a shell whose redirection has failed. -/
def State.redirectFault (s : State) : Nat :=
  if s.isRich then 1 else 2

/-- Run a part of a script with redirections, which end with it; `none` if one of them fails. -/
def redirected (go : Go) (redirects : List Redirect) (s : State) (part : State → State × Flow) :
    State × Option Flow :=
  let (t, good) := redirectAll go redirects s
  let touched := (redirects.filter (·.holder.isNone)).map (·.descriptor)
  if good then
    let (t, flow) := part t
    (t.restoreHandles s touched, some flow)
  else ({ t.restoreHandles s touched with status := s.redirectFault }, none)

end NativeBuild.Shell
