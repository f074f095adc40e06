import NativeBuild.Proofs.Cli.Conduct

/-!
The calls of the command that builds a project, and that it never gets stuck.  Each of its calls returns,
and all of them are one of its schedules; wherever another schedule has led it, it can go on to its end.
-/

namespace NativeBuild

namespace Pool

variable {config : PoolConfig} {here : Path} {world : Machine} {p q : Pool Machine}

/-- Waiting for a path that a task gives returns. -/
theorem Steady.exists_resolvePath (h : p.Steady config here world) {ref : PathRef}
    (hb : ref.Below p.tasks.length) : ∃ q found, (q = p ∨ q = p.settle) ∧
      q.pathNow? ref = some found ∧ p.resolvePath .outside ref = (q, some found) := by
  cases ref with
  | literal path => exact ⟨p, _, .inl rfl, rfl, rfl⟩
  | task k =>
    cases ho : p.outcome? k with
    | some o =>
      refine ⟨p, p.outcomePath k o, .inl rfl, by simp [pathNow?, ho], ?_⟩
      simp [Pool.resolvePath, resolve, ho, Except.bind]
    | none =>
      obtain ⟨hs, hlen, -⟩ := h.settle
      have hk : k < p.settle.tasks.length := hlen.symm ▸ hb
      have hlast : p.settle.tasks[k]? = some _ := List.getElem?_eq_getElem hk
      have hended := hs.ended_of_rest (advance?_settle p) k _ hlast
      obtain ⟨o, ho'⟩ : ∃ o, p.settle.outcome? k = some o := by
        rw [outcome?_eq hlast]
        exact Option.isSome_iff_exists.1 ((hs.reached.sound k _ hlast).outcome?_isSome.trans hended)
      refine ⟨p.settle, p.settle.outcomePath k o, .inr rfl, by simp [pathNow?, ho'], ?_⟩
      simp [Pool.resolvePath, resolve, ho, ho', mayWait, Except.bind]

end Pool

/-- A site whose thread waits for a path goes on until it is there. -/
theorem Site.Sound.exists_path {α : Type} {run : Runner} {config : PoolConfig} {m : Machine}
    {P : Nat → α → Prop} {s : Site α} (h : s.Sound run config m P) (ht : s.thread = .free .stop)
    (htracked : s.pool.Tracked) {ref : PathRef} (hb : ref.Below s.pool.tasks.length) :
    ∃ s' found, Goes run s s' ∧ s'.thread = .free .stop ∧ s'.errand = s.errand ∧ s'.pool.Tracked ∧
      s'.pool.pathNow? ref = some found ∧
      s.pool.resolvePath .outside ref = (s'.pool, some found) := by
  have hsteady := h.steady (by rw [ht]; rfl)
  obtain ⟨q, found, hq, hfound, hresolve⟩ := hsteady.exists_resolvePath hb
  -- The call has found the path at once, or has let the pool come to rest.
  rcases hq with rfl | rfl
  · exact ⟨s, found, .refl, ht, rfl, htracked, hfound, hresolve⟩
  · obtain ⟨returned, hsettle⟩ := SharedPool.runs_settle s.pool s.thread s.returned
    obtain ⟨_, _, _, log, heq, hgo⟩ := goes_of_shared run hsettle
    cases heq
    exact ⟨_, found, hgo, ht, rfl, hsteady.tracked_settle htracked.valid, hfound, hresolve⟩

namespace Cli

/-- Runs one after another, up to the first that ends the command. -/
def runLaunches (s : Session) : List Launch → Session × Except CommandError Unit
  | [] => (s, .ok ())
  | l :: rest =>
    match runOnce s l.target l.args with
    | (s, .error e) => (s, .error e)
    | (s, .ok ()) => runLaunches s rest

theorem runLaunches_append (s : Session) (before after : List Launch) :
    runLaunches s (before ++ after) =
      match runLaunches s before with
      | (s, .error e) => (s, .error e)
      | (s, .ok ()) => runLaunches s after := by
  induction before generalizing s with
  | nil => rfl
  | cons l rest ih =>
    rw [List.cons_append, runLaunches, runLaunches]
    rcases runOnce s l.target l.args with ⟨s', _ | _⟩
    · rfl
    · exact ih s'

theorem runArtifact_eq (s : Session) (d : DeclaredTarget) (runs : List (List String)) :
    runArtifact s d runs = runLaunches s (runs.map (Launch.mk d)) := by
  induction runs generalizing s with
  | nil => rfl
  | cons args rest ih =>
    rw [runArtifact, List.map_cons, runLaunches]
    rcases runOnce s d args with ⟨s', _ | _⟩
    · rfl
    · exact ih s'

theorem runAll_eq (s : Session) (declared : List DeclaredTarget) :
    runAll s declared = runLaunches s (launches declared) := by
  induction declared generalizing s with
  | nil => rfl
  | cons d rest ih =>
    rw [runAll, runArtifact_eq, launches, List.flatMap_cons, runLaunches_append]
    rcases runLaunches s (d.runs.map (Launch.mk d)) with ⟨s', _ | _⟩
    · rfl
    · exact ih s'

theorem execute_eq {b : Build} {l : Launch} {q : Pool Machine} {found : Except Failure Path}
    (h : b.pool.resolvePath .outside l.target.target.artifact = (q, some found)) :
    b.execute .outside l.target.target l.args =
      ({ b with pool := { q with world := (l.perform b.run found q.world).1 } },
        some (l.perform b.run found q.world).2.answer) := by
  unfold Build.execute Build.resolve
  rw [h]
  cases found with
  | error e => rfl
  | ok artifact =>
    simp only [Pool.blockOn, Pool.mayWait, Launch.perform, Option.map_some]
    cases (b.run ⟨artifact, l.args⟩ q.world).2 <;> rfl

theorem runOnce_eq {s : Session} {l : Launch} {q : Pool Machine} {found : Except Failure Path}
    (h : s.build.pool.resolvePath .outside l.target.target.artifact = (q, some found)) :
    runOnce s l.target l.args =
      (⟨{ s.build with pool := { q with world := (l.perform s.build.run found q.world).1 } },
        (l.perform s.build.run found q.world).2.write q.config.policy s.console⟩,
      match q.config.policy, (l.perform s.build.run found q.world).2.failed with
      | .strict, true => .error ⟨"Running target '" ++ l.target.name ++ "' failed", []⟩
      | _, _ => .ok ()) := by
  have hlaunch := l.perform_launch s.build.run found q.world
  unfold runOnce
  rw [execute_eq h]
  generalize l.perform s.build.run found q.world = r at hlaunch ⊢
  obtain ⟨world, launch, command, answer⟩ := r
  obtain rfl : launch = l := hlaunch
  cases answer with
  | ok output => cases q.config.policy <;> simp [Trial.write, Trial.failed]
  | error e => cases hp : q.config.policy <;> simp [Trial.write, Trial.failed, hp]

namespace Conduct

variable {run : Runner} {noRun : Bool} {config : PoolConfig} {m : Machine} {manifest : Manifest}
  {c c' : Conduct} {declared : List DeclaredTarget} {l : Launch} {rest todo : List Launch}

/-- Whether a session is that of the command as far as it has come. -/
structure Shows (run : Runner) (c : Conduct) (s : Session) : Prop where
  run_eq : s.build.run = run
  pool_eq : s.build.pool = c.site.pool
  console_eq : s.console = c.console

theorem fatal?_attempt (h : c.fatal? = none) (found : Except Failure Path) :
    (c.attempt run l found).fatal? =
      match c.policy, (l.perform run found c.site.pool.world).2.failed with
      | .strict, true => some (l.perform run found c.site.pool.world).2
      | _, _ => none := by
  have hpolicy : (c.attempt run l found).policy = c.policy := rfl
  cases hp : c.policy with
  | bestEffort => exact fatal?_bestEffort (hpolicy.trans hp)
  | strict =>
    rw [fatal?_strict hp] at h
    rw [fatal?_strict (hpolicy.trans hp), attempt, List.find?_append, h]
    cases hf : (l.perform run found c.site.pool.world).2.failed <;> simp [hf]

theorem runOnce_attempt {s : Session} (hrun : s.build.run = run) (hconsole : s.console = c.console)
    (hfatal : c.fatal? = none) {found : Except Failure Path}
    (hresolve : s.build.pool.resolvePath .outside l.target.target.artifact =
      (c.site.pool, some found)) :
    ∃ s', runOnce s l.target l.args = (s', (c.attempt run l found).ran) ∧
      (c.attempt run l found).Shows run s' := by
  subst hrun
  rw [runOnce_eq hresolve]
  refine ⟨_, Prod.ext rfl ?_, rfl, rfl, ?_⟩
  · have hpolicy : c.site.pool.config.policy = c.policy := rfl
    rw [ran, fatal?_attempt hfatal, hpolicy]
    cases c.policy
    · rfl
    · cases (l.perform s.build.run found c.site.pool.world).2.failed
      · rfl
      · simp only [Launch.perform_launch]
  · have hpolicy : (c.attempt s.build.run l found).policy = c.policy := rfl
    rw [hconsole, console, console, hpolicy, attempt, List.foldl_append]
    rfl

/-- A run of the site in which the thread does not ask for its report is one of the command. -/
theorem runs_of_goes {s : Site _} (h : Site.Goes run c.site s) :
    Runs run noRun c { c with site := s } := by
  induction h with
  | refl => exact .refl
  | tail _ hstep ih => exact ih.tail (.site hstep.1 fun hask => absurd hask hstep.2)

/-- When nothing is left to be run, every run of the site is one of the command. -/
theorem Sound.runs_of_site (h : c.Sound run noRun config m manifest) (hdue : c.due? noRun = some [])
    {s : Site _} (hr : Site.Runs run c.site s) :
    Runs run noRun c { c with site := s } ∧ due? noRun { c with site := s } = some [] := by
  induction hr with
  | refl => exact ⟨.refl, hdue⟩
  | tail _ hstep ih =>
    obtain ⟨hruns, hdue'⟩ := ih
    exact ⟨hruns.tail (.site hstep fun _ => hdue'), (h.runs hruns).due?_site hstep hdue'⟩

theorem Sound.below (h : c.Sound run noRun config m manifest) (hd : c.declared? = some declared)
    (hl : l ∈ launches declared) : l.target.target.artifact.Below c.site.pool.tasks.length := by
  obtain ⟨table, he⟩ := declared?_eq_some_iff.1 hd
  have hwithin := h.site.orderly.within
  rw [he] at hwithin
  obtain ⟨d, hmem, hargs⟩ := List.mem_flatMap.1 hl
  obtain ⟨args, -, rfl⟩ := List.mem_map.1 hargs
  exact hwithin.2.2 declared rfl d hmem

/-- What holds where the thread is about to make a run, or to ask for the report: all targets are
declared, it is in no call, and the pool knows all tasks that have not ended. -/
structure Ready (run : Runner) (noRun : Bool) (config : PoolConfig) (m : Machine) (manifest : Manifest)
    (declared : List DeclaredTarget) (c : Conduct) : Prop where
  sound : c.Sound run noRun config m manifest
  free : c.site.thread = .free .stop
  tracked : c.site.pool.Tracked
  declared_eq : c.declared? = some declared

/-- The command makes the next run, as its own call does. -/
theorem Ready.exists_attempt (h : c.Ready run false config m manifest declared)
    (hfatal : c.fatal? = none) (htodo : (launches declared).drop c.trials.length = l :: rest) :
    ∃ c', Runs run false c c' ∧ c'.Ready run false config m manifest declared ∧
      c'.trials.length = c.trials.length + 1 ∧
      ∀ s, c.Shows run s → ∃ s', runOnce s l.target l.args = (s', c'.ran) ∧ c'.Shows run s' := by
  obtain ⟨hsound, ht, htracked, hd⟩ := h
  have hl : l ∈ launches declared :=
    List.mem_of_mem_drop (htodo ▸ List.mem_cons_self : l ∈ (launches declared).drop _)
  obtain ⟨site, found, hgo, ht', he, htracked', hfound, hresolve⟩ :=
    hsound.site.exists_path ht htracked (hsound.below hd hl)
  -- The tasks go on until the artifact's path is there; only then is it started.
  have hmoved : Runs run false c { c with site := site } := runs_of_goes hgo
  have hpolicy : ({ c with site := site } : Conduct).policy = c.policy :=
    (hsound.runs hmoved).site.policy_eq.trans hsound.site.policy_eq.symm
  have hfatal' : ({ c with site := site } : Conduct).fatal? = none := by
    rw [fatal?, hpolicy]
    exact hfatal
  have hd' : ({ c with site := site } : Conduct).declared? = some declared := by
    rw [declared?, he]
    exact hd
  have hdue : due? false { c with site := site } = some (l :: rest) := by
    rw [due?_of_declared hd', hfatal', ← htodo]
    rfl
  have hruns := hmoved.tail (.launch ht' hdue hfound)
  refine ⟨_, hruns, ⟨hsound.runs hruns, ht', ⟨htracked'.pending, htracked'.valid⟩, hd'⟩,
    List.length_append, fun s hs => ?_⟩
  exact runOnce_attempt hs.run_eq (hs.console_eq.trans (by rw [console, console, hpolicy])) hfatal'
    (hs.pool_eq ▸ hresolve)

/-- The command makes the runs that are left, as its own calls do. -/
theorem Ready.exists_launched (h : c.Ready run false config m manifest declared)
    (hfatal : c.fatal? = none) (htodo : (launches declared).drop c.trials.length = todo) :
    ∃ c', Runs run false c c' ∧ c'.Ready run false config m manifest declared ∧
      c'.due? false = some [] ∧
      ∀ s, c.Shows run s → ∃ s', runLaunches s todo = (s', c'.ran) ∧ c'.Shows run s' := by
  -- By induction on the runs that are left; `Ready` and `Shows` are what one run keeps.
  induction todo generalizing c with
  | nil =>
    refine ⟨c, .refl, h, ?_, fun s hs => ⟨s, ?_, hs⟩⟩
    · rw [due?_of_declared h.declared_eq, hfatal, htodo]
      rfl
    · rw [ran, hfatal]
      rfl
  | cons l rest ih =>
    obtain ⟨c', hruns, hready, hlen, hshows⟩ := h.exists_attempt hfatal htodo
    cases hf : c'.fatal? with
    | some t =>
      refine ⟨c', hruns, hready, ?_, fun s hs => ?_⟩
      · rw [due?_of_declared hready.declared_eq, hf]
        rfl
      · obtain ⟨s', hrun, hs'⟩ := hshows s hs
        refine ⟨s', ?_, hs'⟩
        rw [runLaunches, hrun, ran, hf]
    | none =>
      have htodo' : (launches declared).drop c'.trials.length = rest := by
        rw [hlen, ← List.drop_drop, htodo]
        rfl
      obtain ⟨c'', hruns', hready', hdue, hshows'⟩ := ih hready hf htodo'
      refine ⟨c'', hruns.trans hruns', hready', hdue, fun s hs => ?_⟩
      obtain ⟨s', hrun, hs'⟩ := hshows s hs
      obtain ⟨s'', hrun', hs''⟩ := hshows' s' hs'
      refine ⟨s'', ?_, hs''⟩
      rw [runLaunches, hrun, ran, hf]
      exact hrun'

/-- Whether the command can go on to an end. -/
def Arrives (run : Runner) (noRun : Bool) (c : Conduct) : Prop :=
  ∃ c' ended, Runs run noRun c c' ∧ c'.Ends ended

theorem exists_result {a : ObjectTable × Except DeclareError (List DeclaredTarget)}
    (h : c.site.errand = .done a) : ∃ r, c.result? = some r := by
  obtain ⟨table, e | declared⟩ := a <;> simp [result?, h]

/-- The command goes on until nothing is left to be run. -/
theorem Sound.exists_due (h : c.Sound run noRun config m manifest) (hr : ¬ c.site.thread.Reports) :
    ∃ c', Runs run noRun c c' ∧ c'.site.thread = .free .stop ∧ c'.due? noRun = some [] := by
  obtain ⟨s₁, hgo, ht, -, hsteady, htracked⟩ := h.site.exists_free hr
  obtain ⟨s₂, a, hgo', ht', he, -, htracked'⟩ :=
    (h.site.runs hgo.runs).exists_done ht hsteady htracked
  have hruns : Runs run noRun c { c with site := s₂ } := runs_of_goes (hgo.trans hgo')
  cases hdue : due? noRun { c with site := s₂ } with
  | none =>
    obtain ⟨table, e | declared⟩ := a <;> simp [due?, he] at hdue
  | some todo =>
    cases todo with
    | nil => exact ⟨_, hruns, ht', hdue⟩
    | cons l rest =>
      obtain ⟨rfl, hfatal, declared, hd, htodo⟩ := due?_eq_cons hdue
      have hready : Ready run false config m manifest declared { c with site := s₂ } :=
        ⟨h.runs hruns, ht', htracked', hd⟩
      obtain ⟨c', hruns', hready', hdue', -⟩ := hready.exists_launched hfatal htodo
      exact ⟨c', hruns.trans hruns', hready'.free, hdue'⟩

theorem Sound.arrives_of_reports (h : c.Sound run noRun config m manifest)
    (hr : c.site.thread.Reports) : c.Arrives run noRun := by
  obtain ⟨s, answer, hgo, hreturns⟩ := h.site.arrives_of_reports hr
  obtain ⟨hruns, hdue⟩ := h.runs_of_site (h.reports hr) hgo
  obtain ⟨a, ha⟩ := exists_done_of_due? hdue
  obtain ⟨r, hresult⟩ := exists_result ha
  exact ⟨_, _, hruns, r, answer, hreturns, hresult, rfl⟩

/-- Wherever the command has come to, it can go on to its end. -/
theorem Sound.arrives (h : c.Sound run noRun config m manifest) : c.Arrives run noRun := by
  by_cases hr : c.site.thread.Reports
  · exact h.arrives_of_reports hr
  · obtain ⟨c', hruns, ht, hdue⟩ := h.exists_due hr
    obtain ⟨a, ha⟩ := exists_done_of_due? hdue
    have hasks : Step run noRun c' _ := .site (.report ht ha) fun _ => hdue
    obtain ⟨c'', ended, hruns', hends⟩ :=
      ((h.runs hruns).step hasks).arrives_of_reports trivial
    exact ⟨c'', ended, hruns.trans (.head hasks hruns'), hends⟩

/-! ### The command's own calls -/

theorem fatal?_nil (site : Site (ObjectTable × Except DeclareError (List DeclaredTarget))) :
    (⟨site, []⟩ : Conduct).fatal? = none := by
  unfold fatal?
  split <;> rfl

/-- The calls that declare the targets and run their artifacts are a run of the command, to where
nothing is left to be run. -/
theorem exists_declareAndRun (run : Runner) (noRun : Bool) (config : PoolConfig) (m : Machine)
    (layout : Layout) (toolchain : Toolchain) (manifest : Manifest) :
    ∃ c table, Runs run noRun (start config m layout toolchain manifest) c ∧
      c.site.thread = .free .stop ∧ c.site.pool.Tracked ∧ c.due? noRun = some [] ∧
      c.site.errand =
        .done (table, ((Build.start run m layout toolchain config).declare manifest).2) ∧
      ∃ s declared,
        declareAndRun ⟨Build.start run m layout toolchain config, .empty⟩ manifest noRun =
          (s, declared) ∧ c.Shows run s ∧ c.result? = some declared := by
  have hsound := sound_start run noRun config m layout toolchain manifest
  obtain ⟨-, htracked, returned, log, hgo⟩ := Site.goes_follow run
    (Pool.Steady.start : (Pool.start config m.here m).Steady config m.here m) .start
    (Errand.within_declared layout toolchain m.here manifest) [] []
  have hdeclare : (Build.start run m layout toolchain config).declare manifest =
      (Build.start run m layout toolchain config).resume ((Pool.start config m.here m).follow run
        (.declare layout toolchain m.here ⟨[]⟩ manifest)) := Build.declare_eq manifest
  generalize (Pool.start config m.here m).follow run
    (.declare layout toolchain m.here ⟨[]⟩ manifest) = r at htracked hgo hdeclare
  obtain ⟨p, table, answer⟩ := r
  have hruns : Runs run noRun (start config m layout toolchain manifest)
      ⟨⟨p, .free .stop, returned, .done (table, answer), log⟩, []⟩ := runs_of_goes hgo
  rw [declareAndRun, hdeclare]
  cases answer with
  | error e => exact ⟨_, table, hruns, rfl, htracked, rfl, rfl, _, _, rfl, ⟨rfl, rfl, rfl⟩, rfl⟩
  | ok declared =>
    have hfatal := fatal?_nil ⟨p, .free .stop, returned, .done (table, .ok declared), log⟩
    cases noRun with
    | true =>
      refine ⟨_, table, hruns, rfl, htracked, rfl, rfl, _, _, rfl, ⟨rfl, rfl, rfl⟩, ?_⟩
      rw [result?, ran, hfatal]
      rfl
    | false =>
      have hready : Ready run false config m manifest declared
          ⟨⟨p, .free .stop, returned, .done (table, .ok declared), log⟩, []⟩ :=
        ⟨hsound.runs hruns, rfl, htracked, rfl⟩
      obtain ⟨c, hruns', hready', hdue, hshows⟩ := hready.exists_launched hfatal rfl
      obtain ⟨s, hlaunched, hs⟩ :=
        hshows ⟨⟨layout, toolchain, run, p, table⟩, .empty⟩ ⟨rfl, rfl, rfl⟩
      obtain ⟨table', he⟩ := declared?_eq_some_iff.1 hready'.declared_eq
      refine ⟨c, table', hruns.trans hruns', hready'.free, hready'.tracked, hdue, he, s,
        c.ran.map fun () => declared, ?_, hs, by rw [result?, he]⟩
      have hran : runAll ⟨⟨layout, toolchain, run, p, table⟩, .empty⟩ declared = (s, c.ran) :=
        (runAll_eq _ _).trans hlaunched
      simp only [Build.resume, Build.start, Bool.false_eq_true, if_false, hran]
      cases c.ran <;> rfl

/-- The calls of the command are a run of it to its end. -/
theorem exists_ends (run : Runner) (noRun : Bool) (config : PoolConfig) (m : Machine)
    (layout : Layout) (toolchain : Toolchain) (manifest : Manifest) :
    ∃ c table, Runs run noRun (start config m layout toolchain manifest) c ∧
      c.site.errand =
        .done (table, ((Build.start run m layout toolchain config).declare manifest).2) ∧
      ∃ s declared b joined,
        declareAndRun ⟨Build.start run m layout toolchain config, .empty⟩ manifest noRun =
          (s, declared) ∧
        s.build.finish .outside = (b, some joined) ∧
        c.Ends (conclude b.machine s.console declared joined) := by
  obtain ⟨c, table, hruns, ht, htracked, hdue, he, s, declared, hran, hshows, hresult⟩ :=
    exists_declareAndRun run noRun config m layout toolchain manifest
  have hsound := (sound_start run noRun config m layout toolchain manifest).runs hruns
  have hsteady := hsound.site.steady (by rw [ht]; rfl)
  obtain ⟨⟨p, thread, returned, errand, log⟩, trials⟩ := c
  obtain rfl : thread = _ := ht
  obtain rfl : errand = _ := he
  obtain ⟨q, hjoin, due, late, returned', log', hgo⟩ :=
    Site.runs_joinAll run hsteady htracked _ returned log
  obtain ⟨hruns', -⟩ := hsound.runs_of_site hdue hgo
  have hpolicy : q.config.policy = p.config.policy :=
    ((hsound.runs hruns').site.policy_eq).trans hsound.site.policy_eq.symm
  have hfinish : s.build.finish .outside = ({ s.build with pool := q }, some q.verdict) := by
    rw [Build.finish, hshows.pool_eq, hjoin]
  refine ⟨_, table, hruns.trans hruns', rfl, s, declared, _, _, hran, hfinish, declared, q.verdict,
    Site.returns_reading due late returned' _ log', ?_, ?_⟩
  · rw [← hresult, result?, result?, ran, ran, fatal?, fatal?, policy, policy, hpolicy]
  · rw [hshows.console_eq, console, console, policy, policy, hpolicy]
    rfl

end Conduct

end Cli

end NativeBuild
