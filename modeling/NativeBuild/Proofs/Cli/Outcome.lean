import NativeBuild.Proofs.Build.Transparent
import NativeBuild.Proofs.Cli.Calls
import NativeBuild.Proofs.Pool.Account
import NativeBuild.Proofs.Shared.Strict

/-!
When the command that builds a project succeeds, and what it leaves behind.  Under best effort it
succeeds if the targets could be declared, whatever fails after that; under a strict policy everything
has to succeed.  In either case it ends when all tasks have ended, and not before.
-/

namespace NativeBuild

namespace Pool

variable {σ : Type} {p : Pool σ}

/-- A strict report returns exactly if all tasks have completed. -/
theorem exists_verdict_iff (hp : p.config.policy = .strict)
    (hfinished : ∀ t ∈ p.tasks, t.outcome?.isSome = true) :
    (∃ r, p.verdict = .ok r) ↔ ∀ t ∈ p.tasks, t.isCompleted = true := by
  have hcompleted (t : Task σ) (ht : t ∈ p.tasks) : t.isCompleted = (failureOf? t).isNone :=
    (Task.failureOf?_eq_failure? (hfinished t ht)).2.symm
  rcases verdict_strict hp with ⟨hok, hnone⟩ | ⟨before, t, after, f, htasks, -, hfailed, herror⟩
  · refine ⟨fun _ t ht => ?_, fun _ => ⟨_, hok⟩⟩
    rw [hcompleted t ht, hnone t ht]
    rfl
  · refine ⟨fun ⟨r, hr⟩ => (nomatch herror.symm.trans hr), fun hall => ?_⟩
    have ht : t ∈ p.tasks := by simp [htasks]
    have htcompleted := hall t ht
    rw [hcompleted t ht, hfailed] at htcompleted
    exact nomatch htcompleted

/-- When all tasks have ended there is nothing to wait for. -/
theorem waitIdle_of_ended (hended : ∀ t ∈ p.tasks, t.isEnded = true)
    (hvalid : ∀ k ∈ p.running, k < p.tasks.length) :
    p.waitIdle .outside = ({ p with running := [] }, some (.ok ())) := by
  have hrest : AtRest { p with running := [] } := fun i t ht =>
    .inl (hended t (List.mem_of_getElem? ht))
  have hdrain : p.drain = { p with running := [] } := by
    refine settle_eq_self (List.findSome?_eq_none_iff.2 fun i _ => hrest.step? i)
  have hlast : ({ p with running := [] } : Pool σ).waitRounds = ({ p with running := [] }, true) := by
    rw [waitRounds]
    rfl
  have hrounds : p.waitRounds = ({ p with running := [] }, true) := by
    by_cases hr : p.running = []
    · rw [← hlast]
      exact congrArg waitRounds (by rw [← hr])
    · have hall : (p.running.all fun k => (p.drain.ending? k).isSome) = true := by
        refine List.all_eq_true.2 fun k hk => ?_
        obtain ⟨t, ht⟩ : ∃ t, p.tasks[k]? = some t := ⟨_, List.getElem?_eq_getElem (hvalid k hk)⟩
        have hget : p.drain.tasks[k]? = some t := by
          rw [hdrain]
          exact ht
        exact ending?_isSome hget (hended t (List.mem_of_getElem? ht))
      rw [waitRounds, hall, hdrain, hlast]
      simp [hr]
  simp [waitIdle, mayWait, hrounds]

/-- A pool is set up just if there is room for its permits. -/
theorem start?_eq_some_iff {limit : Nat} {config : PoolConfig} {here : Path} {world : σ} :
    start? limit config here world = some p ↔
      config.permits ≤ limit ∧ start config here world = p := by
  unfold start?
  split
  · next h => exact ⟨fun heq => ⟨h, Option.some.inj heq⟩, fun h => congrArg some h.2⟩
  · next h => exact ⟨fun heq => (nomatch heq), fun h' => absurd h'.1 h⟩

end Pool

namespace Build

variable {limit : Nat} {run : Runner} {m : Machine} {settings : Settings} {root : Path}
  {manifest : Manifest} {config : PoolConfig} {b : Build}

theorem forProject?_eq_some_iff : forProject? limit run m settings root manifest config = some b ↔
    config.permits ≤ limit ∧ forProject run m settings root manifest config = b := by
  simp only [forProject?, start?, Option.map_eq_some_iff, Pool.start?_eq_some_iff]
  constructor
  · rintro ⟨_, ⟨hle, rfl⟩, rfl⟩
    exact ⟨hle, rfl⟩
  · rintro ⟨hle, rfl⟩
    exact ⟨_, ⟨hle, rfl⟩, rfl⟩

theorem forProject?_eq_none_iff : forProject? limit run m settings root manifest config = none ↔
    limit < config.permits := by
  rw [Option.eq_none_iff_forall_ne_some]
  constructor
  · intro hnone
    by_contra hle
    exact hnone _ (forProject?_eq_some_iff.2 ⟨not_lt.1 hle, rfl⟩)
  · intro hlt b hb
    exact absurd (forProject?_eq_some_iff.1 hb).1 (not_le.2 hlt)

end Build

namespace Cli

theorem conclude_code {m : Machine} {console : Console}
    {declared : Except CommandError (List DeclaredTarget)} {joined : Except Failure Report} :
    (conclude m console declared joined).code = 0 ↔
      (∃ ds, declared = .ok ds) ∧ ∃ r, joined = .ok r := by
  cases declared <;> cases joined <;> simp [conclude]

namespace Conduct

variable {run : Runner} {noRun : Bool} {config : PoolConfig} {m : Machine} {manifest : Manifest}
  {c : Conduct} {declared : List DeclaredTarget} {ended : Ended}

theorem exists_ok_iff {r : Except CommandError (List DeclaredTarget)} (h : c.result? = some r) :
    (∃ ds, r = .ok ds) ↔ (∃ ds, c.declared? = some ds) ∧ c.fatal? = none := by
  unfold result? at h
  split at h
  · next table ds he =>
    obtain rfl := Option.some.inj h
    rw [ran, declared?, he]
    cases c.fatal? <;> simp [Except.map]
  · next table e he =>
    obtain rfl := Option.some.inj h
    simp [declared?, he]
  · cases h
  · cases h

theorem Sound.code_eq_zero_iff (h : c.Sound run noRun config m manifest) (he : c.Ends ended) :
    ended.code = 0 ↔ (∃ ds, c.declared? = some ds) ∧ c.fatal? = none ∧
      ∃ r, c.site.pool.verdict = .ok r := by
  obtain ⟨r, joined, hreturns, hresult, rfl⟩ := he
  obtain ⟨rfl, -⟩ := h.site.over hreturns
  rw [conclude_code, exists_ok_iff hresult, and_assoc]

theorem Sound.lists (h : c.Sound run noRun config m manifest) (hd : c.declared? = some declared) :
    Errand.Lists manifest.targets declared := by
  obtain ⟨table, he⟩ := declared?_eq_some_iff.1 hd
  have hquiet := h.quiet
  rw [he] at hquiet
  exact hquiet declared rfl

/-- The runs that have been made are the first that the manifest asks for. -/
theorem Sound.prefix_runsOf (h : c.Sound run noRun config m manifest) :
    c.labels <+: runsOf manifest.targets := by
  rcases h.after with hnil | ⟨-, ds, hds, hprefix⟩
  · rw [labels, hnil]
    exact List.nil_prefix
  · rw [← map_label_launches (h.lists hds)]
    simpa [labels, Function.comp_def] using hprefix.map Launch.label

/-- When nothing is left to be run, and no run has ended the command, all runs have been made. -/
theorem Sound.labels_eq (h : c.Sound run false config m manifest) (hdue : c.due? false = some [])
    (hd : c.declared? = some declared) (hfatal : c.fatal? = none) :
    c.labels = runsOf manifest.targets := by
  refine h.prefix_runsOf.eq_of_length_le ?_
  rw [due?_of_declared hd, hfatal] at hdue
  rw [← map_label_launches (h.lists hd), labels, List.length_map, List.length_map]
  simpa using hdue

theorem Sound.bestEffort (h : c.Sound run noRun config m manifest)
    (hp : config.policy = .bestEffort) (he : c.Ends ended) :
    ended.code = 0 ↔ ∃ ds, c.declared? = some ds := by
  have hpolicy : c.policy = .bestEffort := h.site.policy_eq.trans hp
  rw [h.code_eq_zero_iff he]
  exact and_iff_left ⟨fatal?_bestEffort hpolicy, _, Pool.verdict_bestEffort hpolicy⟩

theorem Sound.complete (h : c.Sound run false config m manifest) (he : c.Ends ended)
    (hcode : ended.code = 0) : c.labels = runsOf manifest.targets := by
  obtain ⟨⟨ds, hds⟩, hfatal, -⟩ := (h.code_eq_zero_iff he).1 hcode
  obtain ⟨_, _, hreturns, -⟩ := he
  exact h.labels_eq (h.reports hreturns.reports) hds hfatal

/-- Under a strict policy the command succeeds exactly if all targets could be declared, and all tasks
and all runs have succeeded. -/
theorem Sound.strict_iff (h : c.Sound run noRun config m manifest) (hp : config.policy = .strict)
    (he : c.Ends ended) :
    ended.code = 0 ↔ (∃ ds, c.declared? = some ds) ∧
      (∀ t ∈ c.site.pool.tasks, t.isCompleted = true) ∧
      (noRun = false → c.labels = runsOf manifest.targets ∧
        ∀ t ∈ c.trials, ∃ command output, t.command = some command ∧ t.answer = .ok output) := by
  have hpolicy : c.policy = .strict := h.site.policy_eq.trans hp
  have htasks : (∃ r, c.site.pool.verdict = .ok r) ↔
      ∀ t ∈ c.site.pool.tasks, t.isCompleted = true := by
    obtain ⟨_, _, hreturns, -⟩ := he
    exact Pool.exists_verdict_iff hpolicy fun t ht => ((h.site.over hreturns).2 t ht).2
  refine ⟨fun hcode => ?_, fun ⟨hdeclared, hcompleted, hruns⟩ => ?_⟩
  · obtain ⟨hdeclared, hfatal, hverdict⟩ := (h.code_eq_zero_iff he).1 hcode
    refine ⟨hdeclared, htasks.1 hverdict, ?_⟩
    rintro rfl
    refine ⟨h.complete he hcode, fun t ht => (h.made t ht).exists_command ?_⟩
    rw [fatal?_strict hpolicy] at hfatal
    simpa using List.find?_eq_none.1 hfatal t ht
  · -- Nothing has ended the command: it has made no runs, or they have all succeeded.
    refine (h.code_eq_zero_iff he).2 ⟨hdeclared, ?_, htasks.2 hcompleted⟩
    rw [fatal?_strict hpolicy, List.find?_eq_none]
    intro t ht
    rcases h.after with hnil | ⟨hrun, -⟩
    · rw [hnil] at ht
      exact nomatch ht
    · obtain ⟨command, output, -, ha⟩ := (hruns hrun).2 t ht
      simp [Trial.failed, ha]

end Conduct

/-- The command when it has loaded its manifest and set up its build. -/
def begin (m : Machine) (options : BuildOptions) (manifest : Manifest) : Conduct :=
  let settings := Settings.ofEnv m.env
  let layout := Layout.ofRoot m.here settings (projectRoot m options.root)
  .start (options.poolConfig settings) m layout
    (manifest.toolchain.apply m.here layout.root (.default m settings layout Platform.host)) manifest

/-- What is sure of a command from where it begins, in every schedule. -/
structure Outcomes (run : Runner) (options : BuildOptions) (manifest : Manifest) (start : Conduct) :
    Prop where
  /-- Under best effort it succeeds exactly if all targets could be declared. -/
  bestEffort : ∀ c ended, Conduct.Runs run options.noRun start c → c.Ends ended →
    options.strict = false → (ended.code = 0 ↔ ∃ declared, c.declared? = some declared)
  /-- Under a strict policy it succeeds exactly if, besides, all tasks have completed and all runs have
  been made and have succeeded. -/
  strict : ∀ c ended, Conduct.Runs run options.noRun start c → c.Ends ended →
    options.strict = true → (ended.code = 0 ↔ (∃ declared, c.declared? = some declared) ∧
      (∀ t ∈ c.site.pool.tasks, t.isCompleted = true) ∧
      (options.noRun = false → c.labels = runsOf manifest.targets ∧
        ∀ t ∈ c.trials, ∃ command output, t.command = some command ∧ t.answer = .ok output))
  /-- Whenever it succeeds it has made all runs. -/
  complete : ∀ c ended, Conduct.Runs run options.noRun start c → c.Ends ended → ended.code = 0 →
    options.noRun = false → c.labels = runsOf manifest.targets
  /-- It starts no command before all targets of the manifest are declared. -/
  after : ∀ c, Conduct.Runs run options.noRun start c →
    (∀ d next, c.site.errand = .deed d next → d.IsQuiet) ∧
    (c.trials ≠ [] → options.noRun = false ∧ ∃ declared, c.declared? = some declared) ∧
    ∀ declared, c.declared? = some declared → Errand.Lists manifest.targets declared
  /-- It makes its runs in the order of the manifest, and under a strict policy none after one that has
  failed. -/
  order : ∀ c, Conduct.Runs run options.noRun start c →
    c.labels <+: runsOf manifest.targets ∧ (∀ t ∈ c.trials, t.Made run c.site.pool) ∧
    (options.strict = true → ∀ t ∈ c.trials.dropLast, t.failed = false)
  /-- When it ends all tasks have ended, and the session that it closes has nothing to wait for. -/
  finished : ∀ c ended, Conduct.Runs run options.noRun start c → c.Ends ended →
    (∀ t ∈ c.site.pool.tasks, t.isEnded = true ∧ t.outcome?.isSome = true) ∧
    c.site.pool.waitIdle .outside = ({ c.site.pool with running := [] }, some (.ok ()))
  /-- No schedule keeps it from its end. -/
  arrives : ∀ c, Conduct.Runs run options.noRun start c → c.Arrives run options.noRun

theorem build_eq {run : Runner} {m : Machine} {options : BuildOptions} {manifest : Manifest}
    {s : Session} {declared : Except CommandError (List DeclaredTarget)} {b : Build}
    {joined : Except Failure Report}
    (hload : Manifest.load m
      (options.manifest.getD ((projectRoot m options.root).child manifestName)) = .ok manifest)
    (hran : declareAndRun ⟨Build.forProject run m (Settings.ofEnv m.env)
        (projectRoot m options.root) manifest (options.poolConfig (Settings.ofEnv m.env)), .empty⟩
      manifest options.noRun = (s, declared))
    (hfinish : s.build.finish .outside = (b, some joined)) :
    build run m options = conclude b.machine s.console declared joined := by
  unfold build
  simp only [hload, carryOut, hran, hfinish, Option.getD_some]
  cases declared <;> cases joined <;> rfl

/-- Where there is room for its permits, a command is the build that it stands for. -/
theorem buildWithin_eq {limit : Nat} {run : Runner} {m : Machine} {options : BuildOptions}
    (h : (options.poolConfig (Settings.ofEnv m.env)).permits ≤ limit) :
    buildWithin limit run m options = build run m options := by
  unfold buildWithin build
  dsimp only
  split
  · rfl
  · rw [Build.forProject?_eq_some_iff.2 ⟨h, rfl⟩]

/-- When the manifest has been loaded, the command comes to an end in every schedule, with what
`Outcomes` says; its own calls are one of the schedules, in which it declares what the build declares;
and so it is on every machine that has room for its permits. -/
theorem build_outcomes {run : Runner} {m : Machine} {options : BuildOptions} {manifest : Manifest}
    (hload : Manifest.load m
      (options.manifest.getD ((projectRoot m options.root).child manifestName)) = .ok manifest) :
    Outcomes run options manifest (begin m options manifest) ∧
    (∃ c table, Conduct.Runs run options.noRun (begin m options manifest) c ∧
      c.Ends (build run m options) ∧
      c.site.errand = .done (table, ((Build.forProject run m (Settings.ofEnv m.env)
        (projectRoot m options.root) manifest
        (options.poolConfig (Settings.ofEnv m.env))).declare manifest).2)) ∧
    ∀ limit, (options.poolConfig (Settings.ofEnv m.env)).permits ≤ limit →
      buildWithin limit run m options = build run m options := by
  have hsound (c : Conduct) (hc : Conduct.Runs run options.noRun (begin m options manifest) c) :=
    (Conduct.sound_start run options.noRun (options.poolConfig (Settings.ofEnv m.env)) m _ _
      manifest).runs hc
  have hpolicy : (options.poolConfig (Settings.ofEnv m.env)).policy =
      if options.strict then .strict else .bestEffort := rfl
  refine ⟨⟨fun c ended hc he ho => ?_, fun c ended hc he ho => ?_, fun c ended hc he hcode hrun => ?_,
    fun c hc => ⟨fun d next hd => ?_, fun ht => ?_, fun ds hds => (hsound c hc).lists hds⟩,
    fun c hc => ⟨(hsound c hc).prefix_runsOf, (hsound c hc).made, fun ho => ?_⟩,
    fun c ended hc he => ?_, fun c hc => (hsound c hc).arrives⟩, ?_, fun _ => buildWithin_eq⟩
  · exact (hsound c hc).bestEffort (by rw [hpolicy, ho]; rfl) he
  · exact (hsound c hc).strict_iff (by rw [hpolicy, ho]; rfl) he
  · rw [hrun] at hsound hc
    exact (hsound c hc).complete he hcode
  · have hquiet := (hsound c hc).quiet
    rw [hd] at hquiet
    exact hquiet.1
  · obtain ⟨hrun, ds, hds, -⟩ := (hsound c hc).after.resolve_left ht
    exact ⟨hrun, ds, hds⟩
  · exact (hsound c hc).strict ((hsound c hc).site.policy_eq.trans (by rw [hpolicy, ho]; rfl))
  · obtain ⟨_, _, hreturns, -⟩ := he
    have hended := ((hsound c hc).site.over hreturns).2
    exact ⟨hended, Pool.waitIdle_of_ended (fun t ht => (hended t ht).1)
      (hsound c hc).site.orderly.running⟩
  · obtain ⟨c, table, hruns, he, s, declared, b, joined, hran, hfinish, hends⟩ :=
      Conduct.exists_ends run options.noRun (options.poolConfig (Settings.ofEnv m.env)) m _ _ manifest
    refine ⟨c, table, hruns, ?_, he⟩
    rw [build_eq hload hran hfinish]
    exact hends

/-! ### A build in which every command fails -/

namespace Doomed

open TwoTargets (top bytes)

/-- A manifest of one program, which is to be run once. -/
def text : String :=
  "\x7b\"targets\": [\x7b\"name\": \"a\", \"kind\": \"executable\", \"output\": \"a\", " ++
    "\"run\": [[\"check\"]]\x7d]\x7d"

/-- A machine that has nothing but the manifest. -/
def machine : Machine where
  files := { entries := [([manifestName.toList], .file (bytes text) false)] }
  here := top ""
  env := []

def manifest : Manifest :=
  ⟨.none, [⟨"a", .executable, ⟨['a']⟩, .none, [], [], [], [["check"]]⟩]⟩

/-- Commands that fail and change nothing. -/
def failing : Runner := fun c m =>
  (m, .error (.commandFailed c.line (some 1)))

theorem load_eq (strict : Bool) :
    Manifest.load machine (({ strict } : BuildOptions).manifest.getD
      ((projectRoot machine none).child manifestName)) = .ok manifest := by
  cbv

/-- The target is declared, whatever becomes of its commands. -/
theorem exists_declare_eq :
    ∃ ds, ((Build.forProject failing machine (Settings.ofEnv machine.env) (projectRoot machine none)
      manifest (BuildOptions.poolConfig {} (Settings.ofEnv machine.env))).declare manifest).2 =
        .ok ds :=
  ⟨_, rfl⟩

/-- The command succeeds although nothing else does, but not under a strict policy. -/
theorem build_outcomes_doomed :
    (∀ strict, Manifest.load machine (({ strict } : BuildOptions).manifest.getD
      ((projectRoot machine none).child manifestName)) = .ok manifest) ∧
    (build failing machine {}).code = 0 ∧ (build failing machine { strict := true }).code ≠ 0 := by
  refine ⟨load_eq, ?_, fun hcode => ?_⟩
  · obtain ⟨houtcomes, ⟨c, table, hruns, hends, he⟩, -⟩ :=
      @build_outcomes failing machine {} manifest (load_eq false)
    obtain ⟨ds, hds⟩ := exists_declare_eq
    refine (houtcomes.bestEffort c _ hruns hends rfl).2 ⟨ds, ?_⟩
    exact Conduct.declared?_eq_some_iff.2
      ⟨table, he.trans (congrArg (fun r => Errand.done (table, r)) hds)⟩
  · -- A strict command that succeeds has started its run, and has seen it succeed.
    obtain ⟨houtcomes, ⟨c, table, hruns, hends, -⟩, -⟩ :=
      @build_outcomes failing machine { strict := true } manifest (load_eq true)
    obtain ⟨-, -, hall⟩ := (houtcomes.strict c _ hruns hends rfl).1 hcode
    obtain ⟨hlabels, hsucceeded⟩ := hall rfl
    have hne : c.trials ≠ [] := by
      intro hnil
      rw [Conduct.labels, hnil] at hlabels
      exact nomatch hlabels
    obtain ⟨t, ht⟩ := List.exists_mem_of_ne_nil _ hne
    obtain ⟨command, output, hc, ha⟩ := hsucceeded t ht
    cases (houtcomes.order c hruns).2.1 t ht with
    | started _ _ ha' => exact nomatch ha.symm.trans ha'
    | missed _ hc' _ => exact nomatch hc.symm.trans hc'

end Doomed

end Cli

end NativeBuild
