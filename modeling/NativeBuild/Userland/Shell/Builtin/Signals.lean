import NativeBuild.Userland.Shell.Builtin.Basic
import NativeBuild.Userland.Tool.Start

/-!
The commands that send signals, say what is done at them, and wait for what runs beside the shell.
-/

namespace NativeBuild.Shell

open Tool (signals signal? endsProgram)

/-- The numbers that stand for the end of a shell and for what is not a signal, by their names. -/
def eventNames (language : Language) : List (String × Nat) :=
  ("EXIT", exitSignal) ::
    (if language = .rich then [("ERR", 100), ("DEBUG", 101), ("RETURN", 102)] else [])

/-- The number of a signal or of something else that a shell can be told to do something at. -/
def event? (language : Language) (text : Raw) : Option Nat :=
  match (eventNames language).lookup (String.ofList (text.map Char.toUpper)) with
  | some n => some n
  | none => signal? text

/-- The name of a signal as a shell shows it. -/
def eventName (language : Language) (n : Nat) : Raw :=
  match (eventNames language).find? (·.2 = n) with
  | some (name, _) => name.toList
  | none =>
    match signals.find? (·.2 = n) with
    | some (name, _) => rawString (if language = .rich then "SIG" else "") ++ name.toList
    | none => Text.decimal n

/-- The name of a signal in a list of all; of some there are only numbers. -/
def listedName (language : Language) (n : Nat) : Raw :=
  if n = 0 || n = 32 || n = 33 || (n = 16 && language = .plain) then Text.decimal n
  else
    match signals.find? (·.2 = n) with
    | some (name, _) => name.toList
    | none =>
      if n = 34 then rawString "RTMIN"
      else if n < 50 then rawString "RTMIN+" ++ Text.decimal (n - 34)
      else if n < 64 then rawString "RTMAX-" ++ Text.decimal (64 - n)
      else rawString "RTMAX"

/-- All signals, each in a line, or five of them with their numbers. -/
def signalList : Language → Raw
  | .plain => unlines ((List.range 65).map (listedName .plain))
  | .rich =>
    let numbers := (List.range 65).filter fun n => n ≠ 0 && n ≠ 32 && n ≠ 33
    let items := numbers.zipIdx.flatMap fun (n, place) =>
      let shown := Text.decimal n
      List.replicate (2 - shown.length) ' ' ++ shown ++ rawString ") SIG" ++ listedName .rich n ++
        [if place % 5 = 4 then '\n' else '\t']
    items ++ ['\n']

/-- Show the name of a signal that is given by its number or by the status of a program that it
ended, or the number of one that is given by its name. -/
def listOne (language : Language) (text : Raw) : Option Raw :=
  match Text.decimal? text with
  | some n =>
    let n := if 128 < n then n - 128 else n
    if 64 < n then none
    else if n = 0 then (if language = .rich then some (rawString "EXIT") else none)
    else some (listedName language n)
  | none => if language = .rich then (signal? text).map Text.decimal else none

/-- Say what is run at signals, or at the end. -/
def trapCommand (args : List Raw) (s : State) : State × Flow :=
  let args := if args.head? = some ['-', '-'] then args.drop 1 else args
  let shown (t : Trap) : Raw :=
    let action :=
      if s.isRich then singleQuoted t.action else plainQuotedWithin (t.action.length + 1) t.action
    rawString "trap -- " ++ action ++
      ' ' :: eventName s.language t.signal ++ ['\n']
  let sorted := s.traps.mergeSort fun a b => a.signal ≤ b.signal
  let put (s : State) (n : Nat) (action : Option Raw) : State :=
    let traps := s.traps.filter (·.signal ≠ n)
    let ignored := s.ignored.filter (· ≠ n)
    match action with
    | none => { s with traps, ignored }
    | some [] =>
      { s with
        traps := ⟨n, []⟩ :: traps
        ignored := if n = exitSignal || 100 ≤ n then ignored else n :: ignored }
    | some text => { s with traps := ⟨n, text⟩ :: traps, ignored }
  let putAll (action : Option Raw) (names : List Raw) : State × Flow :=
    let step (acc : State × Nat) (name : Raw) : State × Nat :=
      match event? s.language name with
      | some n => (put acc.1 n action, acc.2)
      | none => (acc.1.complain (rawString "trap: " ++ name ++ rawString ": bad trap"), 1)
    let (s, status) := names.foldl step (s, 0)
    s.done status
  match args with
  | [] => s.printed (sorted.flatMap shown)
  | ['-', 'p'] :: names =>
    let asked := names.filterMap (event? s.language)
    s.printed ((sorted.filter fun t => asked.isEmpty || asked.contains t.signal).flatMap shown)
  | [['-', 'l']] => s.printed (signalList s.language)
  | [name] => putAll none [name]
  | action :: names =>
    if action = ['-'] then putAll none names
    else if action.all Text.isDigit && !action.isEmpty && (event? s.language action).isSome then
      putAll none (action :: names)
    else putAll (some action) names

/-- What a text that names a job or a program stands for: a number, no job, or no number at all. -/
inductive Target where
  | number (n : Nat)
  | noJob
  | noNumber

/-- What a text names that is to be waited for or to get a signal. -/
def State.target (s : State) (text : Raw) : Target :=
  if text.head? = some '%' then
    match s.ticket? text with
    | some t => .number t.number
    | none => .noJob
  else
    match Text.decimal? text with
    | some n => .number n
    | none => .noNumber

/-- Send a signal to a program. -/
def State.send (s : State) (signal target : Nat) : State × Bool :=
  let s := s.catchUp
  match s.jobs.find? (·.number = target) with
  | some job =>
    if signal = 0 || !endsProgram signal then (s, true)
    else
      let limit := some (s.world.clock, signal)
      let world := { s.world with limit, isCut := false }
      let outcome := job.run (world.atTime job.started)
      (s.settle target outcome, true)
  | none =>
    if target = s.number || target = s.leader || target ≤ s.world.newest && 4000 ≤ target &&
        (s.exitOf? target).isNone then
      if signal = 0 then (s, target = s.number || target = s.leader)
      else ({ s with world := { s.world with sent := s.world.sent ++ [(target, signal)] } }, true)
    else (s, false)

/-- Send signals, or show their names. -/
def killCommand (args : List Raw) (s : State) : State × Flow :=
  let refused (s : State) : State × Flow :=
    if s.isRich then (s.complain (rawString "kill: wrong arguments")).done 1
    else (s.complain (rawString "kill: wrong arguments")).done 2
  let sendAll (s : State) (signal : Option Nat) (targets : List Raw) : State × Flow :=
    match signal with
    | none => refused s
    | some n =>
      if targets.isEmpty then if s.isRich then s.done 2 else refused s
      else
        let step (acc : State × Nat) (text : Raw) : State × Nat :=
          let missing (s : State) : State × Nat :=
            (s.complain (rawString "kill: No such process"), 1)
          match acc.1.target text with
          | .number target =>
            if !s.isRich && text.head? = some '%' then missing acc.1
            else
              match acc.1.send n target with
              | (s, true) => (s, acc.2)
              | (s, false) => missing s
          | .noJob =>
            (acc.1.complain (rawString "kill: No such job: " ++ text), if s.isRich then 1 else 2)
          | .noNumber => missing acc.1
        let (s, status) := targets.foldl step (s, 0)
        s.done status
  match args with
  | [['-', 'l']] => s.printed (signalList s.language)
  | ['-', 'l'] :: names =>
    let shown := names.filterMap (listOne s.language)
    (s.say 1 (unlines shown)).done
      (if shown.length = names.length then 0 else if s.isRich then 1 else 2)
  | ['-', 's'] :: name :: targets => sendAll s (event? s.language name) targets
  | ['-', 'n'] :: name :: targets => sendAll s (event? s.language name) targets
  | ['-', '-'] :: targets => sendAll s (some 15) targets
  | ('-' :: name) :: targets => sendAll s (event? s.language name) targets
  | targets => sendAll s (some 15) targets

/-- Wait for what runs beside the shell. -/
def waitCommand (args : List Raw) (s : State) : State × Flow :=
  let (letters, targets) := takeLetters args
  let waitOne (s : State) (text : Raw) : State × Nat :=
    match s.target text with
    | .noJob => (s.complain (rawString "wait: No such job: " ++ text), if s.isRich then 127 else 2)
    | .noNumber =>
      (s.complain (rawString "wait: Illegal number: " ++ text), if s.isRich then 1 else 2)
    | .number n =>
      let s := s.waitFor n
      (s.take (·.number = n), ((s.exitOf? n).map Exit.seen).getD 127)
  if !letters.isEmpty && (!s.isRich || !letters.all ['f', 'n', 'p'].contains) then
    (s.complain (rawString "wait: Illegal option")).done 2
  else if targets.isEmpty then
    if letters.contains 'n' then
      match s.firstToEnd with
      | some (job, outcome) => (s.settle job.number outcome).done outcome.2.seen
      | none => s.done 127
    else (s.settleAll.take fun _ => true).done 0
  else
    let (s, status) := targets.foldl (fun acc text => waitOne acc.1 text) (s, 0)
    s.done status

/-- Show the jobs of the shell. -/
def jobsCommand (args : List Raw) (s : State) : State × Flow :=
  let (letters, names) := takeLetters args
  let known := if s.isRich then ['l', 'n', 'p', 'r', 's'] else ['l', 'p']
  let s := s.catchUp
  let listed :=
    if s.isRich then (s.tickets.filter (·.exit.isNone)).reverse else s.tickets
  let present (s : State) (tickets : List Ticket) : State :=
    if letters.contains 'p' then
      s.say 1 (unlines (tickets.map fun t => Text.decimal t.number))
    else s.showJobs (letters.contains 'l') tickets
  let presentNamed (acc : State × Nat) (name : Raw) : State × Nat :=
    match acc.1.ticket? (if name.head? = some '%' then name else '%' :: name) with
    | some t => (present acc.1 [t], acc.2)
    | none =>
      (acc.1.complain (rawString "jobs: No such job: " ++ name), if s.isRich then 1 else 2)
  if !letters.all known.contains then (s.complain (rawString "jobs: Illegal option")).done 2
  else if names.isEmpty then
    (present s (if letters.contains 's' then [] else listed)).done 0
  else
    let (s, status) := names.foldl presentNamed (s, 0)
    s.done status

/-- Bring a job to the front and wait for it; that needs jobs to be watched, which a plain shell
without a terminal does not do. -/
def frontCommand (args : List Raw) (s : State) : State × Flow :=
  match s.isRich && s.options.monitor, s.ticket? (args.headD ['%']) with
  | true, some t =>
    let s := (s.say 1 ([' ', '|', ' '].intercalate t.stages ++ ['\n'])).waitFor t.number
    ({ s with tickets := s.tickets.filter (·.number ≠ t.number) }).done
      (((s.exitOf? t.number).map Exit.seen).getD 127)
  | _, _ => (s.complain (rawString "fg: no job control")).done (if s.isRich then 1 else 2)

/-- Let a job go on beside the shell, where it is anyway. -/
def backCommand (args : List Raw) (s : State) : State × Flow :=
  match s.isRich && s.options.monitor, s.ticket? (args.headD ['%']) with
  | true, some _ => (s.complain (rawString "bg: job already in background")).done 0
  | _, _ => (s.complain (rawString "bg: no job control")).done (if s.isRich then 1 else 2)

/-- Show or set the permissions that new files do not get. -/
def umaskCommand (args : List Raw) (s : State) : State × Flow :=
  let octal (n : Nat) : Raw :=
    let digits := Text.digits 8 n
    List.replicate (4 - digits.length) '0' ++ digits
  let letters (bits : Nat) : Raw :=
    let allowed := 7 - bits
    [(4, 'r'), (2, 'w'), (1, 'x')].filterMap fun (bit, c) =>
      if allowed &&& bit ≠ 0 then some c else none
  let symbolic (n : Nat) : Raw :=
    rawString "u=" ++ letters (n / 64 % 8) ++ rawString ",g=" ++ letters (n / 8 % 8) ++
      rawString ",o=" ++ letters (n % 8)
  match args with
  | [] => s.printed (octal s.umask ++ ['\n'])
  | [['-', 'S']] => s.printed (symbolic s.umask ++ ['\n'])
  | [['-', 'p']] => s.printed (rawString "umask " ++ octal s.umask ++ ['\n'])
  | text :: _ =>
    let new : Option Nat :=
      if text.all Text.isDigit then Tool.newMode? 0 false text 0
      else (Tool.newMode? 0 false text (Tool.without 0o777 s.umask)).map fun mode =>
        Tool.without 0o777 mode
    match new with
    | some n => { s with umask := n % 512 }.done 0
    | none => s.refuse (rawString "umask: Illegal mode: " ++ text) 1

/-- Run what is to be run at a signal, or at something else that happens.  The status stays. -/
def runTrap (go : Go) (trap : Trap) (s : State) : State × Flow :=
  match runLines go trap.action { s with guarded := false } with
  | (after, .next) => ({ after with status := s.status, guarded := s.guarded }, .next)
  | result => result

/-- Notice the signals that a shell has got. -/
def noticeWithin (go : Go) : Nat → State → State × Flow
  | 0, s => (s, .next)
  | fuel + 1, s =>
    match s.world.sent.find? fun sent => sent.1 = s.number || (sent.1 = s.leader && !s.nested) with
    | none =>
      match s.world.isCut, s.world.limit with
      | true, some (_, n) =>
        meet fuel n { s with world := { s.world with limit := none, isCut := false } } s
      | _, _ => (s, .next)
    | some (target, n) =>
      let s := { s with world := { s.world with sent := s.world.sent.erase (target, n) } }
      meet fuel n s s
where
  /-- Do what is to be done at a signal; one at which nothing is to be done may end the shell. -/
  meet (fuel n : Nat) (s dying : State) : State × Flow :=
    match s.traps.find? (·.signal = n) with
    | some trap =>
      if n = 9 then (dying, .killed n)
      else if trap.action.isEmpty then noticeWithin go fuel s
      else
        match runTrap go trap s with
        | (s, .next) => noticeWithin go fuel s
        | result => result
    | none =>
      if s.ignored.contains n && n ≠ 9 then noticeWithin go fuel s
      else if endsProgram n then (dying, .killed n)
      else noticeWithin go fuel s

/-- Notice the signals that a shell has got. -/
def notice (go : Go) (s : State) : State × Flow :=
  if s.world.sent.isEmpty && !s.world.isCut then (s, .next) else noticeWithin go 100 s

end NativeBuild.Shell
