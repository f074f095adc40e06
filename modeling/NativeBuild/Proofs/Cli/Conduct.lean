import NativeBuild.Cli.Build
import NativeBuild.Proofs.Build.Arrive
import NativeBuild.Proofs.Build.Outline
import NativeBuild.Proofs.Pool.Cause

/-!
How the command that builds a project goes on, in any schedule.  Its thread declares the targets, then
runs their artifacts one after another, each of which it waits for, and asks for a report when nothing
is left to run; the tasks go on at any time.
-/

namespace NativeBuild

/-! ### Declaring targets -/

namespace Errand

variable {α β : Type} {P Q : α → Prop}

/-- Whether an errand starts no command, and comes to what `P` says, whatever its deeds are answered
and whatever numbers its tasks get. -/
def Quiet (P : α → Prop) : Errand α → Prop
  | .done a => P a
  | .deed d next => d.IsQuiet ∧ ∀ answer, (next answer).Quiet P
  | .submit _ _ next => ∀ id, (next id).Quiet P

theorem Quiet.bind {R : β → Prop} {e : Errand α} {k : α → Errand β} (h : e.Quiet P)
    (hk : ∀ a, P a → (k a).Quiet R) : (e.bind k).Quiet R := by
  induction e with
  | done a => exact hk a h
  | deed d next ih => exact ⟨h.1, fun answer => ih answer (h.2 answer)⟩
  | submit spec body next ih => exact fun id => ih id (h id)

theorem Reads.quiet {e : Errand α} (h : e.Reads Deed.IsQuiet) : e.Quiet fun _ => True := by
  induction e with
  | done a => trivial
  | deed d next ih => exact ⟨h.1, fun answer => ih answer (h.2 answer)⟩
  | submit spec body next ih => exact h.elim

variable {layout : Layout} {toolchain : Toolchain} {here : Path} {table : ObjectTable}
  {declared : List DeclaredTarget}

theorem quiet_compile (source : Path) (flags : List String) :
    (compile layout toolchain here table source flags).Quiet fun _ => True := by
  simp only [compile]
  split
  · trivial
  · refine ⟨fun _ h => (by cases h), fun made => ?_⟩
    cases made with
    | error e => trivial
    | ok _ => exact fun _ => trivial

theorem quiet_compileAll (flags : List String) (files : List Path) :
    (compileAll layout toolchain here flags table files).Quiet fun _ => True := by
  induction files generalizing table with
  | nil => trivial
  | cons source rest ih =>
    refine (quiet_compile source flags).bind fun made _ => ?_
    obtain ⟨table', made⟩ := made
    cases made with
    | error e => trivial
    | ok object => exact ih.bind fun _ _ => trivial

theorem quiet_linkInputs (t : Manifest.Target) :
    (linkInputs layout toolchain here table declared t).Quiet fun _ => True := by
  have hsources : (sources layout t.sources).Reads Deed.IsQuiet :=
    reads_sources (fun _ => nofun) fun _ _ _ _ _ => nofun
  refine hsources.quiet.bind fun files _ => (quiet_compileAll _ files).bind fun made _ => ?_
  obtain ⟨table', made⟩ := made
  cases made with
  | error e => trivial
  | ok sources =>
    have hlibraries : (libraries layout.librarySearchPaths t).Reads Deed.IsQuiet :=
      reads_libraries (fun _ => nofun) (fun _ _ => nofun) _ t
    dsimp only
    split
    · trivial
    · exact hlibraries.quiet.bind fun _ _ => trivial

theorem quiet_target (kind : ArtifactKind) (output : Path) (inputs : LinkInputs) :
    (target layout toolchain here kind output inputs).Quiet fun _ => True := by
  simp only [target]
  split
  · exact fun _ => trivial
  · refine ⟨fun _ h => (by cases h), fun made => ?_⟩
    cases made with
    | error e => trivial
    | ok _ => exact fun _ => trivial

theorem quiet_declareTarget (t : Manifest.Target) :
    (declareTarget layout toolchain here table declared t).Quiet fun r =>
      ∀ d, r.2 = .ok d → d.name = t.name ∧ d.runs = t.run := by
  refine (quiet_linkInputs t).bind fun found _ => ?_
  obtain ⟨table', found⟩ := found
  cases found with
  | error e => exact fun d hd => nomatch hd
  | ok inputs =>
    refine (quiet_target t.kind t.output inputs).bind fun made _ => ?_
    cases made with
    | error e => exact fun d hd => nomatch hd
    | ok target =>
      intro d hd
      obtain rfl := Except.ok.inj hd
      exact ⟨rfl, rfl⟩

/-- Whether declared targets are those of a manifest, in its order and with their runs. -/
def Lists (targets : List Manifest.Target) (declared : List DeclaredTarget) : Prop :=
  List.Forall₂ (fun t d => DeclaredTarget.name d = t.name ∧ d.runs = t.run) targets declared

theorem quiet_declareFrom {before : List Manifest.Target} (h : Lists before declared)
    (targets : List Manifest.Target) :
    (declareFrom layout toolchain here table declared targets).Quiet fun r =>
      ∀ all, r.2 = .ok all → Lists (before ++ targets) all := by
  induction targets generalizing table declared before with
  | nil =>
    intro all hall
    obtain rfl := Except.ok.inj hall
    rwa [List.append_nil]
  | cons t rest ih =>
    refine (quiet_declareTarget t).bind fun made hmade => ?_
    obtain ⟨table', made⟩ := made
    cases made with
    | error e => exact fun all hall => nomatch hall
    | ok d =>
      have hlists : Lists (before ++ [t]) (declared ++ [d]) :=
        List.rel_append h (.cons (hmade d rfl) .nil)
      rw [List.append_cons]
      exact ih hlists

/-- Declaring a manifest starts no command, and comes to its targets in their order. -/
theorem quiet_declare (manifest : Manifest) :
    (declare layout toolchain here table manifest).Quiet fun r =>
      ∀ all, r.2 = .ok all → Lists manifest.targets all := by
  unfold declare
  split
  · exact fun all hall => nomatch hall
  · exact quiet_declareFrom .nil manifest.targets

end Errand

namespace Site

variable {α : Type} {run : Runner} {s s' : Site α}

theorem Step.quiet {P : α → Prop} (h : Step run s s') (hq : s.errand.Quiet P) :
    s'.errand.Quiet P := by
  cases h with
  | task _ | thread _ | report _ _ => exact hq
  | deed _ he => exact ((he ▸ hq : Errand.Quiet P (.deed _ _))).2 _
  | submit _ he => exact (he ▸ hq : Errand.Quiet P (.submit _ _ _)) _

theorem Step.errand_eq {a : α} (h : Step run s s') (he : s.errand = .done a) :
    s'.errand = .done a := by
  cases h with
  | task _ | thread _ | report _ _ => exact he
  | deed _ he' | submit _ he' => exact nomatch he.symm.trans he'

theorem Step.reports (h : Step run s s') (hs : s.thread.Serves s.errand) (hr : s'.thread.Reports) :
    s.thread.Reports ∨ Asks s s' := by
  cases h with
  | task _ | deed _ _ => exact .inl hr
  | submit _ _ => exact hr.elim
  | report ht _ => exact .inr ⟨ht, rfl⟩
  | thread h =>
    -- Within the call of a submission no step of the thread brings it to a report.
    refine .inl ?_
    generalize s.thread = t at h hs
    cases hs with
    | asking _ | waiting _ _ _ | reading _ _ _ _ _ => trivial
    | idle => cases h
    | listed _ | spawned _ => cases h <;> exact hr.elim

theorem Sound.accounted {config : PoolConfig} {m : Machine} {P : Nat → α → Prop}
    (h : s.Sound run config m P) : s.pool.Each fun _ t => t.Accounted :=
  h.single.becomes.accounted (.start config m.here m)

theorem Sound.pathNow? {config : PoolConfig} {m : Machine} {P : Nat → α → Prop}
    (h : s.Sound run config m P) (hstep : Step run s s') {ref : PathRef}
    {found : Except Failure Path} (hp : s.pool.pathNow? ref = some found) :
    s'.pool.pathNow? ref = some found := by
  have moved {q : Pool Machine} (hm : s.pool.Move q) := hm.pathNow? h.accounted hp
  cases hstep with
  | task h => exact moved (.step h)
  | thread hstep => exact moved (.touch (hstep.touch h.single.listing (c := 0) rfl))
  | deed _ _ => exact moved (.touch (.world _))
  | submit _ _ => exact moved (.touch (.enlist _ _))
  | report _ _ => exact hp

end Site

/-! ### The command and its schedules -/

namespace Cli

/-- A run that a manifest asks for: a declared target, and the arguments for its artifact. -/
structure Launch where
  target : DeclaredTarget
  args : List String

/-- The runs of declared targets, target after target. -/
def launches (declared : List DeclaredTarget) : List Launch :=
  declared.flatMap fun d => d.runs.map (Launch.mk d)

/-- A run that was made: the command that was started, if the artifact was to be had, and what came of
it. -/
structure Trial where
  launch : Launch
  command : Option Command
  answer : Except Failure String

namespace Trial

/-- Whether a run has failed. -/
def failed (t : Trial) : Bool :=
  match t.answer with
  | .ok _ => false
  | .error _ => true

/-- Whether a run was made as it had to be: its artifact was started where its task has put it, and
the runner answered, or there is no such path. -/
inductive Made (run : Runner) (p : Pool Machine) (t : Trial) : Prop where
  | started {artifact : Path} {m : Machine}
    (h : p.pathNow? t.launch.target.target.artifact = some (.ok artifact))
    (hc : t.command = some ⟨artifact, t.launch.args⟩)
    (ha : t.answer = (run ⟨artifact, t.launch.args⟩ m).2)
  | missed {e : Failure} (h : p.pathNow? t.launch.target.target.artifact = some (.error e))
    (hc : t.command = none) (ha : t.answer = .error e)

/-- What the command writes for a run. -/
def write (policy : Policy) (c : Console) (t : Trial) : Console :=
  let name := t.launch.target.name
  let c := c.step (name ++ " → " ++ " ".intercalate t.launch.args)
  match t.answer with
  | .ok output => if output.isEmpty then c else c.line output
  | .error e =>
    match policy with
    | .strict => c.failure (name ++ ": " ++ e.message)
    | .bestEffort => c.warning (name ++ ": " ++ e.message)

end Trial

/-- What a run makes of a machine, and what came of it, when this is known of the artifact's path. -/
def Launch.perform (run : Runner) (l : Launch) (found : Except Failure Path) (m : Machine) :
    Machine × Trial :=
  match found with
  | .error e => (m, ⟨l, none, .error e⟩)
  | .ok artifact =>
    let (m, answer) := run ⟨artifact, l.args⟩ m
    (m, ⟨l, some ⟨artifact, l.args⟩, answer⟩)

/-- The command on its way: its pool and its thread, which runs the errand of the declaration, and the
runs that it has made since that was over. -/
structure Conduct where
  site : Site (ObjectTable × Except DeclareError (List DeclaredTarget))
  trials : List Trial

namespace Conduct

/-- The command when it has set up its build. -/
def start (config : PoolConfig) (m : Machine) (layout : Layout) (toolchain : Toolchain)
    (manifest : Manifest) : Conduct :=
  ⟨.start config m (.declare layout toolchain m.here ⟨[]⟩ manifest), []⟩

def policy (c : Conduct) : Policy :=
  c.site.pool.config.policy

/-- The targets that have been declared, as soon as all of them have been. -/
def declared? (c : Conduct) : Option (List DeclaredTarget) :=
  match c.site.errand with
  | .done (_, .ok declared) => some declared
  | _ => none

/-- The run that ends the command: under a strict policy the first that has failed. -/
def fatal? (c : Conduct) : Option Trial :=
  match c.policy with
  | .strict => c.trials.find? Trial.failed
  | .bestEffort => none

/-- The runs that are left to be made, as soon as the declaration is over. -/
def due? (noRun : Bool) (c : Conduct) : Option (List Launch) :=
  match c.site.errand with
  | .done (_, .ok declared) =>
    some (if noRun || c.fatal?.isSome then [] else (launches declared).drop c.trials.length)
  | .done (_, .error _) => some []
  | .deed _ _ | .submit _ _ _ => none

/-- The command after a run, for which the path of the artifact was `found`. -/
def attempt (run : Runner) (c : Conduct) (l : Launch) (found : Except Failure Path) : Conduct :=
  let r := l.perform run found c.site.pool.world
  { site := { c.site with pool := { c.site.pool with world := r.1 } }
    trials := c.trials ++ [r.2] }

/-- A step of the command: one of its site, where the thread asks for the report only when nothing is
left to be run, or the next run, as soon as it is known what the artifact's path is.  What that is does
not change any more, so finding it and starting the artifact are one step. -/
inductive Step (run : Runner) (noRun : Bool) (c : Conduct) : Conduct → Prop where
  | site {s : Site _} (h : c.site.Step run s) (hask : c.site.Asks s → c.due? noRun = some []) :
    Step run noRun c { c with site := s }
  | launch {l : Launch} {rest : List Launch} {found : Except Failure Path}
    (ht : c.site.thread = .free .stop) (hdue : c.due? noRun = some (l :: rest))
    (hfound : c.site.pool.pathNow? l.target.target.artifact = some found) :
    Step run noRun c (c.attempt run l found)

/-- A run of steps. -/
def Runs (run : Runner) (noRun : Bool) : Conduct → Conduct → Prop :=
  Relation.ReflTransGen (Step run noRun)

/-- What the runs come to. -/
def ran (c : Conduct) : Except CommandError Unit :=
  match c.fatal? with
  | some t => .error ⟨"Running target '" ++ t.launch.target.name ++ "' failed", []⟩
  | none => .ok ()

/-- What declaring the targets and running their artifacts comes to. -/
def result? (c : Conduct) : Option (Except CommandError (List DeclaredTarget)) :=
  match c.site.errand with
  | .done (_, .ok declared) => some (c.ran.map fun () => declared)
  | .done (_, .error e) => some (.error ⟨"Failed to declare targets", e.message :: e.causes⟩)
  | .deed _ _ | .submit _ _ _ => none

/-- What the command has written before it reports. -/
def console (c : Conduct) : Console :=
  c.trials.foldl (Trial.write c.policy) .empty

end Conduct

/-- How the command ends when it has declared and run, and its report has returned. -/
def conclude (m : Machine) (console : Console) (declared : Except CommandError (List DeclaredTarget))
    (joined : Except Failure Report) : Ended :=
  match declared, joined with
  | .error e, _ => ⟨m, fun _ => console.error e.message e.causes, 1⟩
  | .ok _, .error e => ⟨m, fun _ => console.error "Build failed" (e.message :: e.causes), 1⟩
  | .ok declared, .ok report => ⟨m, reportBuild console declared.length report, 0⟩

/-- Whether the command ends here, with this end. -/
def Conduct.Ends (c : Conduct) (ended : Ended) : Prop :=
  ∃ declared joined, c.site.Returns joined ∧ c.result? = some declared ∧
    ended = conclude c.site.pool.world c.console declared joined

/-! ### What holds of the command wherever it has come to -/

/-- What a run is recognised by: the name of its target, and its arguments. -/
def Launch.label (l : Launch) : String × List String :=
  (l.target.name, l.args)

/-- The runs that targets ask for, target after target. -/
def runsOf (targets : List Manifest.Target) : List (String × List String) :=
  targets.flatMap fun t => t.run.map (Prod.mk t.name)

theorem Trial.Made.mono {run : Runner} {p q : Pool Machine} {t : Trial} (h : t.Made run p)
    (hpath : ∀ ref found, p.pathNow? ref = some found → q.pathNow? ref = some found) :
    t.Made run q := by
  cases h with
  | started h hc ha => exact .started (hpath _ _ h) hc ha
  | missed h hc ha => exact .missed (hpath _ _ h) hc ha

/-- Something was started for a run that has succeeded. -/
theorem Trial.Made.exists_command {run : Runner} {p : Pool Machine} {t : Trial} (h : t.Made run p)
    (ht : t.failed = false) : ∃ command output, t.command = some command ∧ t.answer = .ok output := by
  cases h with
  | started _ hc _ =>
    cases ha : t.answer with
    | ok output => exact ⟨_, output, hc, rfl⟩
    | error e => simp [failed, ha] at ht
  | missed _ _ ha => simp [failed, ha] at ht

theorem Launch.perform_launch (run : Runner) (l : Launch) (found : Except Failure Path) (m : Machine) :
    (l.perform run found m).2.launch = l := by
  cases found <;> rfl

theorem Launch.made_perform (run : Runner) {l : Launch} {found : Except Failure Path}
    {p : Pool Machine} (h : p.pathNow? l.target.target.artifact = some found) (m : Machine) :
    (l.perform run found m).2.Made run p := by
  cases found with
  | error e => exact .missed h rfl rfl
  | ok artifact => exact .started h rfl rfl

theorem map_label_launches {targets : List Manifest.Target} {declared : List DeclaredTarget}
    (h : Errand.Lists targets declared) :
    (launches declared).map Launch.label = runsOf targets := by
  induction h with
  | nil => rfl
  | @cons t d targets declared hd _ ih =>
    obtain ⟨hname, hruns⟩ := hd
    have hlabel : Launch.label ∘ Launch.mk d = Prod.mk t.name := by
      funext args
      exact congrArg (·, args) hname
    rw [launches, List.flatMap_cons, List.map_append, List.map_map, hlabel, hruns, runsOf,
      List.flatMap_cons]
    exact congrArg _ ih

namespace Conduct

/-- The runs that have been made. -/
def labels (c : Conduct) : List (String × List String) :=
  c.trials.map fun t => t.launch.label

variable {run : Runner} {noRun : Bool} {config : PoolConfig} {m : Machine} {manifest : Manifest}
  {c c' : Conduct} {declared : List DeclaredTarget} {l : Launch} {rest : List Launch}

theorem declared?_eq_some_iff :
    c.declared? = some declared ↔ ∃ table, c.site.errand = .done (table, .ok declared) := by
  unfold declared?
  split
  · next table ds he => simp [he]
  · next hne => exact ⟨nofun, fun ⟨table, he⟩ => absurd he (hne table declared)⟩

theorem due?_of_declared (h : c.declared? = some declared) : c.due? noRun =
    some (if noRun || c.fatal?.isSome then [] else (launches declared).drop c.trials.length) := by
  obtain ⟨table, he⟩ := declared?_eq_some_iff.1 h
  rw [due?, he]

theorem due?_congr (herrand : c'.site.errand = c.site.errand) (hpolicy : c'.policy = c.policy)
    (htrials : c'.trials = c.trials) : c'.due? noRun = c.due? noRun := by
  have hfatal : c'.fatal? = c.fatal? := by rw [fatal?, fatal?, hpolicy, htrials]
  rw [due?, due?, herrand, hfatal, htrials]

theorem exists_done_of_due? {todo : List Launch} (h : c.due? noRun = some todo) :
    ∃ a, c.site.errand = .done a := by
  unfold due? at h
  split at h
  · next he => exact ⟨_, he⟩
  · next he => exact ⟨_, he⟩
  · exact nomatch h
  · exact nomatch h

/-- A run is made only when all targets are declared, artifacts are to be run, and no failed run has
ended the command. -/
theorem due?_eq_cons (h : c.due? noRun = some (l :: rest)) :
    noRun = false ∧ c.fatal? = none ∧ ∃ declared, c.declared? = some declared ∧
      (launches declared).drop c.trials.length = l :: rest := by
  unfold due? at h
  split at h
  · next table declared he =>
    split at h
    · exact nomatch h
    · next hgo =>
      obtain ⟨hrun, hfatal⟩ : noRun = false ∧ c.fatal? = none := by
        cases noRun <;> cases hf : c.fatal? <;> simp [hf] at hgo ⊢
      exact ⟨hrun, hfatal, declared, declared?_eq_some_iff.2 ⟨table, he⟩, Option.some.inj h⟩
  · exact nomatch h
  · exact nomatch h
  · exact nomatch h

theorem fatal?_strict (hp : c.policy = .strict) : c.fatal? = c.trials.find? Trial.failed := by
  rw [fatal?, hp]

theorem fatal?_bestEffort (hp : c.policy = .bestEffort) : c.fatal? = none := by
  rw [fatal?, hp]

/-- What holds of the command wherever it has come to. -/
structure Sound (run : Runner) (noRun : Bool) (config : PoolConfig) (m : Machine)
    (manifest : Manifest) (c : Conduct) : Prop where
  site : c.site.Sound run config m
    (Errand.Asked 0 fun n ds => ∀ d ∈ ds, DeclaredTarget.Below n d)
  /-- The declaration starts no command. -/
  quiet : c.site.errand.Quiet fun r => ∀ all, r.2 = .ok all → Errand.Lists manifest.targets all
  /-- The thread asks for the report only when nothing is left to be run. -/
  reports : c.site.thread.Reports → c.due? noRun = some []
  /-- Nothing is run before all targets are declared. -/
  after : c.trials = [] ∨ noRun = false ∧ ∃ declared, c.declared? = some declared ∧
    c.trials.map Trial.launch <+: launches declared
  /-- Under a strict policy nothing is run after a run has failed. -/
  strict : c.policy = .strict → ∀ t ∈ c.trials.dropLast, t.failed = false
  /-- Artifacts are started where their tasks put them. -/
  made : ∀ t ∈ c.trials, t.Made run c.site.pool

theorem sound_start (run : Runner) (noRun : Bool) (config : PoolConfig) (m : Machine)
    (layout : Layout) (toolchain : Toolchain) (manifest : Manifest) :
    (start config m layout toolchain manifest).Sound run noRun config m manifest where
  site := Site.sound_start (Errand.within_declared layout toolchain m.here manifest)
  quiet := Errand.quiet_declare manifest
  reports h := h.elim
  after := .inl rfl
  strict _ _ ht := nomatch ht
  made _ ht := nomatch ht

/-- What is left to be run does not hang on the site, as soon as the declaration is over. -/
theorem Sound.due?_site (h : c.Sound run noRun config m manifest) {s : Site _}
    (hstep : c.site.Step run s) {todo : List Launch} (hdue : c.due? noRun = some todo) :
    due? noRun { c with site := s } = some todo := by
  obtain ⟨a, ha⟩ := exists_done_of_due? hdue
  have hpolicy : ({ c with site := s } : Conduct).policy = c.policy :=
    (h.site.step hstep).policy_eq.trans h.site.policy_eq.symm
  rw [due?_congr ((hstep.errand_eq ha).trans ha.symm) hpolicy rfl, hdue]

theorem Sound.site_step (h : c.Sound run noRun config m manifest) {s : Site _}
    (hstep : c.site.Step run s) (hask : c.site.Asks s → c.due? noRun = some []) :
    Sound run noRun config m manifest { c with site := s } := by
  have hsite := h.site.step hstep
  have hpolicy : ({ c with site := s } : Conduct).policy = c.policy :=
    hsite.policy_eq.trans h.site.policy_eq.symm
  refine ⟨hsite, hstep.quiet h.quiet, fun hr => ?_, ?_, hpolicy ▸ h.strict,
    fun t ht => (h.made t ht).mono fun ref found => h.site.pathNow? hstep⟩
  · exact h.due?_site hstep ((hstep.reports h.site.serves hr).elim h.reports hask)
  · refine h.after.imp id fun ⟨hrun, declared, hdeclared, hprefix⟩ => ⟨hrun, declared, ?_, hprefix⟩
    obtain ⟨table, he⟩ := declared?_eq_some_iff.1 hdeclared
    exact declared?_eq_some_iff.2 ⟨table, hstep.errand_eq he⟩

theorem Sound.launch_step (h : c.Sound run noRun config m manifest) (ht : c.site.thread = .free .stop)
    (hdue : c.due? noRun = some (l :: rest)) {found : Except Failure Path}
    (hfound : c.site.pool.pathNow? l.target.target.artifact = some found) :
    (c.attempt run l found).Sound run noRun config m manifest := by
  obtain ⟨hrun, hfatal, declared, hdeclared, hdrop⟩ := due?_eq_cons hdue
  refine ⟨h.site.act ht _, h.quiet, fun hr => ?_, .inr ⟨hrun, declared, hdeclared, ?_⟩,
    fun hp t' ht' => ?_, fun t' ht' => ?_⟩
  · replace hr : c.site.thread.Reports := hr
    rw [ht] at hr
    exact hr.elim
  · -- The runs made so far are the first ones, and the new one is the next.
    have hlen : c.trials.length ≤ (launches declared).length := by
      have hlt := congrArg List.length hdrop
      simp only [List.length_drop, List.length_cons] at hlt
      omega
    have hmade : c.trials.map Trial.launch = (launches declared).take c.trials.length := by
      rcases h.after with hnil | ⟨-, ds, hds, hprefix⟩
      · rw [hnil]
        rfl
      · obtain rfl := Option.some.inj (hdeclared.symm.trans hds)
        rw [List.prefix_iff_eq_take.1 hprefix, List.length_map]
    refine ⟨rest, ?_⟩
    rw [Conduct.attempt, List.map_append, hmade, List.map_singleton, Launch.perform_launch,
      List.append_assoc, List.singleton_append, ← hdrop, List.take_append_drop]
  · -- All runs but the last one are those made before, of which none has ended the command.
    replace hp : c.policy = .strict := hp
    rw [Conduct.attempt, List.dropLast_concat] at ht'
    rw [fatal?_strict hp] at hfatal
    simpa using List.find?_eq_none.1 hfatal t' ht'
  · have hacted : c.site.pool.Move (c.attempt run l found).site.pool := .touch (.world _)
    have hmade : t'.Made run c.site.pool := by
      rcases List.mem_append.1 ht' with ht' | ht'
      · exact h.made t' ht'
      · rw [List.mem_singleton.1 ht']
        exact Launch.made_perform run hfound _
    exact hmade.mono fun ref found => hacted.pathNow? h.site.accounted

theorem Sound.step (h : c.Sound run noRun config m manifest) (hstep : Step run noRun c c') :
    c'.Sound run noRun config m manifest := by
  cases hstep with
  | site hstep hask => exact h.site_step hstep hask
  | launch ht hdue hfound => exact h.launch_step ht hdue hfound

/-- Whatever the schedule is, the command stays sound. -/
theorem Sound.runs (h : c.Sound run noRun config m manifest) (hr : Runs run noRun c c') :
    c'.Sound run noRun config m manifest := by
  induction hr with
  | refl => exact h
  | tail _ hstep ih => exact ih.step hstep

end Conduct

end Cli

end NativeBuild
