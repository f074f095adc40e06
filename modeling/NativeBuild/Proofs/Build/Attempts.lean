import NativeBuild.Proofs.Build.Commands
import NativeBuild.Proofs.Build.Makes
import NativeBuild.Proofs.Pool.BestEffort
import NativeBuild.Proofs.Shared.Idle

/-!
What best effort leaves out, and what it does not.  The work of a task is called whatever has become of
others, unless something that the task needs declares no output at all.  The tasks of a build all
declare outputs, so each of them is called, and runs its compiler or its linker.
-/

namespace NativeBuild

theorem Pool.Reached.exists_run {σ : Type} {config : PoolConfig} {here : Path} {world : σ} {p : Pool σ}
    (h : Reached config here world p) : ∃ past, Run config here world past p := by
  induction h with
  | start => exact ⟨[], .start⟩
  | move _ hm hk ih =>
    obtain ⟨past, hrun⟩ := ih
    exact ⟨_, hrun.move hm hk⟩

namespace Site

variable {α : Type} {run : Runner} {good : Machine → Prop} {config : PoolConfig} {m : Machine}
  {P : Nat → α → Prop} {e : Errand α} {s : Site α} {answer : Except Failure Report} {i : TaskId}
  {t : Task Machine}

/-- Whether the task `t`, which is task `i`, is one of a build, has been called, and has run its
command, or is a compilation that could not make the directory of its object. -/
def Attempted (run : Runner) (good : Machine → Prop) (s : Site α) (i : TaskId) (t : Task Machine) :
    Prop :=
  ∃ (k : Make) (inputs : List Path) (acts : List Act) (result : Except Failure Unit),
    t.spec = k.spec ∧ (t.body = fun inputs => (k.chore inputs).job run) ∧ t.calls = [inputs] ∧
      k.Attempts run good inputs acts result ∧
      s.performed i = (acts.map fun a => a.perform run) ∧
      t.outcome? = some (k.spec.outcomeOf result)

/-- When the report returns, every task of a best-effort build has run its command. -/
theorem RunsOn.attempted (h : RunsOn run good (start config m e) s) (hp : config.policy = .bestEffort)
    (hw : e.Within P 0) (hb : e.Submits Make.Is) (hr : s.Returns answer)
    (ht : s.pool.tasks[i]? = some t) : s.Attempted run good i t := by
  obtain ⟨x, hm, hgoes⟩ := h.goes hb
  obtain ⟨q, u, ids, due, late, seen, hstep⟩ := hr
  obtain ⟨hover, -⟩ := hm.over h.reached.single hstep
  have hreached := (h.reached.orderly hw).reached
  have kind {j : TaskId} {v : Task Machine} (hv : s.pool.tasks[j]? = some v) :
      ∃ k : Make, v.spec = k.spec := by
    obtain ⟨d, hd, hmirrors⟩ := hm.getElem? hv
    obtain ⟨k, hspec, -⟩ := hgoes.kinds d (List.mem_of_getElem? hd)
    exact ⟨k, hmirrors.spec.trans hspec⟩
  obtain ⟨d, hd, hmirrors⟩ := hm.getElem? ht
  have hmem := List.mem_of_getElem? hd
  obtain ⟨k, hspec, hbody⟩ := hgoes.kinds d hmem
  obtain ⟨o, ho⟩ := hover.duties d hmem
  have houtcome : t.outcome? = some o := by rw [hmirrors.outcome?, Duty.outcome?, ho]
  have hended : t.isEnded = true := by
    rw [← (hreached.sound i t ht).outcome?_isSome, houtcome]
    rfl
  have hgone := hgoes.duties d hmem
  simp only [Duty.Goes, ho] at hgone
  cases hgone with
  | @called inputs result hc htrace ho' =>
    rw [hbody] at htrace
    rw [hspec] at ho'
    exact ⟨k, inputs, d.acts, result, hmirrors.spec.trans hspec, hbody ▸ hmirrors.body,
      hmirrors.calls.trans hc,
      Make.attempts_of_trace htrace, hmirrors.effects, by rw [houtcome, ho']⟩
  | refused hc =>
    -- All tasks of a build declare outputs, so none is refused what it needs.
    obtain ⟨past, hrun⟩ := hreached.exists_run
    refine absurd (hmirrors.calls.trans hc) ((hrun.treats hp ht hended).called.2 fun j hj => ?_)
    obtain ⟨hlt, -⟩ := hreached.earlier ht hj
    have hv : s.pool.tasks[j]? = some _ :=
      List.getElem?_eq_getElem (hlt.trans (List.getElem?_eq_some_iff.1 ht).1)
    obtain ⟨k', hk'⟩ := kind hv
    obtain ⟨output, houtput⟩ := k'.exists_output
    exact ⟨_, output, hv, by rw [hk', houtput]⟩

end Site

namespace Build

/-- Declaring a manifest in a fresh build and finishing it is one of the schedules. -/
theorem exists_finished (run : Runner) (config : PoolConfig) (m : Machine) (layout : Layout)
    (toolchain : Toolchain) (manifest : Manifest) :
    ∃ b r s, (Build.start run m layout toolchain config).declare manifest = (b, r) ∧
      b.finish .outside = ({ b with pool := s.pool }, some s.pool.verdict) ∧
      Site.Reports run config m (Errand.declare layout toolchain m.here ⟨[]⟩ manifest) s
        s.pool.verdict := by
  obtain ⟨s, hs, -, hjoin⟩ := Site.exists_reports
    (Errand.within_declare layout toolchain m.here manifest) run config m
  refine ⟨_, _, s, Prod.mk.eta.symm, ?_, hs⟩
  rw [declare_eq]
  exact finish_eq hjoin

/-- Best effort skips no more than it must.  In either mode, with any number of permits and in every
schedule, a best-effort pool deals with each task as `Pool.Treats` says, and when a thread that has the
pool for itself reports, all tasks have ended.  In a build, whatever fails, every task has been called
when the report returns and has run its compiler or its linker; only a compilation that could not make
the directory of its object has not got so far.  No schedule keeps a build from its report.  So it is
with every manifest that is declared and finished. -/
theorem best_effort {config : PoolConfig} (hp : config.policy = .bestEffort) :
    (∀ {σ : Type} {here : Path} {world : σ} {plans : List (Plan σ)} {past : List (SharedPool σ)}
        {s : SharedPool σ}, SharedPool.Course config here world plans past s →
      (∀ (i : TaskId) t, s.pool.tasks[i]? = some t → t.isEnded = true →
        Pool.Treats (past.map SharedPool.pool) s.pool i t) ∧
      ∀ plan (c : Nat) t q u ids due late seen answer, plans = [plan] → s.threads[c]? = some t →
        SharedPool.ThreadStep s t q u ids (.joined due late seen answer) →
        ∀ task ∈ s.pool.tasks, task.isEnded = true) ∧
    (∀ {α : Type} {run : Runner} {m : Machine} {P : Nat → α → Prop} {e : Errand α},
      e.Within P 0 → e.Submits Make.Is →
      (∀ good s answer, Site.RunsOn run good (.start config m e) s → s.Returns answer →
        ∀ (i : TaskId) t, s.pool.tasks[i]? = some t → s.Attempted run good i t) ∧
      ∀ s, Site.Reached run config m e s → s.Arrives run) ∧
    ∀ (run : Runner) (m : Machine) (layout : Layout) (toolchain : Toolchain) (manifest : Manifest),
      (∃ b r s, (Build.start run m layout toolchain config).declare manifest = (b, r) ∧
        b.finish .outside = ({ b with pool := s.pool }, some s.pool.verdict) ∧
        Site.Reports run config m (Errand.declare layout toolchain m.here ⟨[]⟩ manifest) s
          s.pool.verdict) ∧
      (∀ good s answer, Site.RunsOn run good
          (.start config m (Errand.declare layout toolchain m.here ⟨[]⟩ manifest)) s →
        s.Returns answer →
        ∀ (i : TaskId) t, s.pool.tasks[i]? = some t → s.Attempted run good i t) ∧
      ∀ s, Site.Reached run config m (Errand.declare layout toolchain m.here ⟨[]⟩ manifest) s →
        s.Arrives run := by
  refine ⟨fun {σ here world plans past s} h => ⟨fun i t ht he => h.run.treats hp ht he, ?_⟩,
    fun {α run m P e} hw hb => ⟨fun _ _ _ hs hr _ _ ht => hs.attempted hp hw hb hr ht,
      fun s hs => hs.arrives hw⟩,
    fun run m layout toolchain manifest =>
      ⟨exists_finished run config m layout toolchain manifest, fun _ _ _ hs hr _ _ ht => ?_,
        fun s hs => hs.arrives (Errand.within_declare layout toolchain m.here manifest)⟩⟩
  · rintro plan c t q u ids due late seen answer rfl ht hstep
    exact h.reachable.ended_of_joined ht hstep
  · exact hs.attempted hp (Errand.within_declare layout toolchain m.here manifest)
      (Errand.submits_declare manifest) hr ht

end Build

/-! ### A failed task, one without an output, and those that need them -/

namespace SharedPool

/-- One task fails that declares an output, one completes that declares none, and two tasks need one of
them each. -/
def crossroads : Plan Unit :=
  .submit .outside ⟨"broken", some ⟨"/x".toList⟩, []⟩ (fun _ => .unwind) fun broken =>
  .submit .outside ⟨"mute", none, []⟩ (fun _ => .done (.ok ())) fun mute =>
  .submit .outside ⟨"fed", none, [.task broken]⟩ (fun _ => .done (.ok ())) fun _ =>
  .submit .outside ⟨"starved", none, [.task mute]⟩ (fun _ => .done (.ok ())) fun _ => .stop

/-- The four tasks at their end. -/
def crossroadsTasks : List (Task Unit) :=
  [⟨⟨"broken", some ⟨"/x".toList⟩, []⟩, fun _ => .unwind,
      .finished (.failed (some ⟨"/x".toList⟩) "task abandoned before finishing"), .ended true, [[]]⟩,
    ⟨⟨"mute", none, []⟩, fun _ => .done (.ok ()), .finished (.completed none), .ended false, [[]]⟩,
    ⟨⟨"fed", none, [.task 0]⟩, fun _ => .done (.ok ()), .finished (.completed none), .ended false,
      [[⟨"/x".toList⟩]]⟩,
    ⟨⟨"starved", none, [.task 1]⟩, fun _ => .done (.ok ()),
      .finished (.failed none "input unavailable: task 'mute' produced no output path"),
      .ended false, []⟩]

theorem exists_course_crossroads : ∃ past, Course ⟨2, .pooled, .bestEffort⟩ ⟨['/']⟩ () [crossroads] past
    (alone ⟨⟨2, .pooled, .bestEffort⟩, ⟨['/']⟩, 2, (), crossroadsTasks, [0, 1, 2, 3]⟩ (.free .stop)
      [0, 1, 2, 3]) := by
  have started : Course ⟨2, .pooled, .bestEffort⟩ ⟨['/']⟩ () [crossroads] _ _ := .start
  have broken := started.enlist (.thread (c := 0) rfl .enlist) rfl (fun _ h => nomatch h)
  have broken := broken.still (.thread (c := 0) rfl (.spawn (.inl rfl))) (Nat.le_refl _)
  have broken := broken.still (.thread (c := 0) rfl (.track rfl)) (Nat.le_refl _)
  have mute := broken.enlist (.thread (c := 0) rfl .enlist) rfl (fun _ h => nomatch h)
  have mute := mute.still (.thread (c := 0) rfl (.spawn (.inl rfl))) (Nat.le_refl _)
  have mute := mute.still (.thread (c := 0) rfl (.track rfl)) (Nat.le_refl _)
  have fed := mute.enlist (.thread (c := 0) rfl .enlist) rfl
    fun k h => by
      obtain rfl := PathRef.task.inj (List.mem_singleton.1 h)
      exact ⟨_, rfl, rfl⟩
  have fed := fed.still (.thread (c := 0) rfl (.spawn (.inl rfl))) (Nat.le_refl _)
  have fed := fed.still (.thread (c := 0) rfl (.track rfl)) (Nat.le_refl _)
  have starved := fed.enlist (.thread (c := 0) rfl .enlist) rfl
    fun k h => by
      obtain rfl := PathRef.task.inj (List.mem_singleton.1 h)
      exact ⟨_, rfl, rfl⟩
  have starved := starved.still (.thread (c := 0) rfl (.spawn (.inl rfl))) (Nat.le_refl _)
  have starved := starved.still (.thread (c := 0) rfl (.track rfl)) (Nat.le_refl _)
  have begun := starved.still (.task (i := 0) rfl) (Nat.le_refl _)
  have called := begun.still (.task (i := 0) rfl) (Nat.le_refl _)
  have panicked := called.still (.task (i := 0) rfl) (Nat.le_refl _)
  have begun := panicked.still (.task (i := 1) rfl) (Nat.le_refl _)
  have called := begun.still (.task (i := 1) rfl) (Nat.le_refl _)
  have finished := called.still (.task (i := 1) rfl) (Nat.le_refl _)
  have begun := finished.still (.task (i := 2) rfl) (Nat.le_refl _)
  have found := begun.still (.task (i := 2) rfl) (Nat.le_refl _)
  have called := found.still (.task (i := 2) rfl) (Nat.le_refl _)
  have finished := called.still (.task (i := 2) rfl) (Nat.le_refl _)
  have begun := finished.still (.task (i := 3) rfl) (Nat.le_refl _)
  have refused := begun.still (.task (i := 3) rfl) (Nat.le_refl _)
  exact ⟨_, refused⟩

end SharedPool

/-! ### A compiler that is in the way of others -/

namespace Wrecked

open TwoTargets (top tree layout toolchain)

/-- A compiler that puts a file where the build directory was. -/
def wrecker : Runner := fun _ m =>
  ({ m with files := m.files.put ["build".toList] (.file [] false) }, .ok "")

def config : PoolConfig :=
  ⟨1, .pooled, .bestEffort⟩

def key (name : String) : ObjectKey :=
  .of (top "") (top name) []

def compilation (name : String) : Compilation :=
  .of toolchain layout.objectDir (key name)

/-- Asking for the objects of two sources. -/
def errand : Errand (ObjectTable × Except Failure PathRef) :=
  (Errand.compile layout toolchain (top "") ⟨[]⟩ (top "a.cpp") []).bind fun r =>
    Errand.compile layout toolchain (top "") r.1 (top "b.cpp") []

/-- The machine when the compiler has run. -/
def wrecked : Machine :=
  { tree [] with files := (tree []).files.put ["build".toList] (.file [] false) }

/-- A pool on a machine, with these tasks. -/
def pool (m : Machine) (tasks : List (Task Machine)) (running : List TaskId) : Pool Machine :=
  ⟨config, top "", 1, m, tasks, running⟩

/-- What a compilation does. -/
def work (c : Command) : Job :=
  .act (ensureDirectory (top "build")) fun
    | .ok _ => c.job wrecker
    | .error e => .done (.error e)

/-- A compilation that the workers have. -/
def waiting (c : Compilation) : Task Machine :=
  ⟨⟨c.spec.label, some c.object, []⟩, fun _ => work c.command, .pending, .created, []⟩

/-- A compilation that has ended. -/
def ended (c : Compilation) (o : Outcome) : Task Machine :=
  ⟨⟨c.spec.label, some c.object, []⟩, fun _ => work c.command, .finished o, .ended false, [[]]⟩

theorem above?_compilation (name : String) :
    (compilation name).object.above? = some (top "build") := by
  rw [compilation, Compilation.of_object]
  exact SharedSource.above?_object _

theorem job_compilation (name : String) :
    (compilation name).job wrecker = work (compilation name).command := by
  rw [Compilation.job, above?_compilation]
  rfl

theorem perform_directory :
    (Act.directory (top "build")).perform wrecker (tree []) = (tree [], .ok "") := by
  have hmade : (tree []).makeDirectories (top "build") = (tree [], .ok ()) := by cbv
  simp only [Act.perform, ensureDirectory, hmade]

/-- Asking for an object that nobody has asked for. -/
theorem follow_compile {tasks : List (Task Machine)} {running : List TaskId} {table : ObjectTable}
    {name : String} (hl : table.lookup? (key name) = none) :
    (pool (tree []) tasks running).follow wrecker
        (Errand.compile layout toolchain (top "") table (top name) []) =
      (pool (tree []) (tasks ++ [waiting (compilation name)]) (running ++ [tasks.length]),
        table.insert (key name) (.task tasks.length), .ok (.task tasks.length)) := by
  have hdir : layout.objectDir = top "build" := rfl
  have hkey : ObjectKey.of (top "") (top name) [] = key name := rfl
  have hworld : (pool (tree []) tasks running).world = tree [] := rfl
  have hpool : { pool (tree []) tasks running with world := tree [] } =
      pool (tree []) tasks running := rfl
  have hsubmit (spec : TaskSpec) (body : List Path → Job) :
      (pool (tree []) tasks running).submit .outside spec body =
        (pool (tree []) (tasks ++ [{ Task.fresh spec body with stage := .created }])
          (running ++ [tasks.length]), tasks.length, .returned) := by
    rw [Pool.submit_pooled rfl]
    refine Prod.ext ?_ rfl
    simp only [Pool.handOver, Pool.spawn_eq_setTask (Pool.getElem?_enlist_new _ _)]
    simp [pool, Pool.track, Pool.setTask, Pool.enlist]
  have hc : Compilation.of toolchain (top "build") (key name) = compilation name := rfl
  simp only [Errand.compile, hkey, hl, Pool.follow, Deed.perform, hdir, hworld, perform_directory,
    hpool, hsubmit, hc, Compilation.job_chore, job_compilation]
  rfl

/-- The first compilation takes the build directory away, and the second one fails to make it. -/
theorem settle_eq (a b : Compilation) :
    (pool (tree []) [waiting a, waiting b] []).settle =
      pool wrecked [ended a (.completed (some a.object)),
        ended b (.failed (some b.object) "io error: File exists (os error 17)")] [] := by
  -- The labels and the objects are of no account, and are not to be computed.
  obtain ⟨⟨_, _⟩, x, c⟩ := a
  obtain ⟨⟨_, _⟩, y, d⟩ := b
  exact Pool.settle_eq_of_advances (n := 9) rfl rfl

theorem submits_errand : errand.Submits Make.Is :=
  (Errand.submits_compile _ _).bind fun _ => Errand.submits_compile _ _

theorem within_errand : errand.Within (fun _ _ => True) 0 := by
  have hempty : ObjectTable.Below 0 ⟨[]⟩ := fun e he => nomatch he
  refine (Errand.within_compile hempty _ _).bind fun n r h => ?_
  exact (Errand.within_compile h.2.1 _ _).imp fun _ _ _ => trivial

theorem lookup?_second :
    (ObjectTable.insert ⟨[]⟩ (key "a.cpp") (.task 0)).lookup? (key "b.cpp") = none := by
  cbv

theorem follow_errand :
    (Pool.start config (top "") (tree [])).follow wrecker errand =
      (pool (tree []) [waiting (compilation "a.cpp"), waiting (compilation "b.cpp")] [0, 1],
        ⟨[(key "a.cpp", .task 0), (key "b.cpp", .task 1)]⟩, .ok (.task 1)) := by
  have hstart : Pool.start config (top "") (tree []) = pool (tree []) [] [] := rfl
  rw [errand, hstart, Pool.follow_bind, follow_compile rfl]
  exact follow_compile lookup?_second

theorem joinAll_pool (a b : Compilation) :
    ((pool (tree []) [waiting a, waiting b] [0, 1]).joinAll .outside).1 =
      pool wrecked [ended a (.completed (some a.object)),
        ended b (.failed (some b.object) "io error: File exists (os error 17)")] [] := by
  have hdrain : (pool (tree []) [waiting a, waiting b] [0, 1]).drain = _ := settle_eq a b
  rw [Pool.joinAll, Pool.waitIdle, Pool.waitRounds, hdrain, Pool.waitRounds]
  rfl

/-- The build comes to its report, and its tasks have ended like that. -/
theorem exists_reports_wrecked : ∃ s answer, Site.Reports wrecker config (tree []) errand s answer ∧
      s.pool = pool wrecked [ended (compilation "a.cpp") (.completed (some (compilation "a.cpp").object)),
        ended (compilation "b.cpp")
          (.failed (some (compilation "b.cpp").object) "io error: File exists (os error 17)")] [] := by
  obtain ⟨s, hreports, -, hjoin⟩ := Site.exists_reports within_errand wrecker config (tree [])
  rw [show (tree []).here = top "" from rfl, follow_errand] at hjoin
  exact ⟨s, _, hreports, (congrArg Prod.fst hjoin).symm.trans (joinAll_pool _ _)⟩

/-- Whatever has failed and panicked, the tasks have been dealt with as they should, those of a graph and
those of a build. -/
theorem best_effort_crossroads : config.policy = .bestEffort ∧
    (∃ past, SharedPool.Course ⟨2, .pooled, .bestEffort⟩ ⟨['/']⟩ () [SharedPool.crossroads] past
        (SharedPool.alone ⟨⟨2, .pooled, .bestEffort⟩, ⟨['/']⟩, 2, (), SharedPool.crossroadsTasks,
          [0, 1, 2, 3]⟩ (.free .stop) [0, 1, 2, 3]) ∧
      ∀ (i : TaskId) t, SharedPool.crossroadsTasks[i]? = some t →
        Pool.Treats (past.map SharedPool.pool) ⟨⟨2, .pooled, .bestEffort⟩, ⟨['/']⟩, 2, (),
          SharedPool.crossroadsTasks, [0, 1, 2, 3]⟩ i t) ∧
    ∃ s answer, Site.Reports wrecker config (tree []) errand s answer ∧
      ∀ (i : TaskId) t, s.pool.tasks[i]? = some t → s.Attempted wrecker (fun _ => True) i t := by
  refine ⟨rfl, ?_, ?_⟩
  · obtain ⟨past, h⟩ := SharedPool.exists_course_crossroads
    have hpolicy : (⟨2, .pooled, .bestEffort⟩ : PoolConfig).policy = .bestEffort := rfl
    refine ⟨past, h, fun i t ht => ((Build.best_effort hpolicy).1 h).1 i t ht ?_⟩
    have hmem := List.mem_of_getElem? ht
    simp only [SharedPool.crossroadsTasks, List.mem_cons, List.not_mem_nil, or_false] at hmem
    rcases hmem with rfl | rfl | rfl | rfl <;> rfl
  · obtain ⟨s, answer, ⟨hs, hr⟩, -⟩ := exists_reports_wrecked
    exact ⟨s, answer, ⟨hs, hr⟩, ((Build.best_effort rfl).2.1 within_errand submits_errand).1 _ s answer
      (hs.runsOn fun _ _ => trivial) hr⟩

theorem wrecker_ne (c : Command) : wrecker c ≠ ensureDirectory (top "build") := by
  intro h
  have hmade : ensureDirectory (top "build") (tree []) = (tree [], .ok "") := perform_directory
  have hsame := congrFun h (tree [])
  rw [hmade] at hsame
  have htree : (tree []).isDirectory (top "build") = true := by cbv
  have hwrecked : wrecked.isDirectory (top "build") = false := by cbv
  have heq : wrecked = tree [] := congrArg Prod.fst hsame
  rw [heq, htree] at hwrecked
  cases hwrecked

/-- One compilation took the build directory away, so the compiler was not run for the other one. -/
theorem exists_not_compiled : config.policy = .bestEffort ∧ errand.Submits Make.Is ∧
    ∃ s answer t, Site.Reports wrecker config (tree []) errand s answer ∧
      s.pool.tasks[1]? = some t ∧ t.spec = (compilation "b.cpp").spec ∧
      (t.body = fun _ => (compilation "b.cpp").job wrecker) ∧
      wrecker (compilation "b.cpp").command ∉ s.performed 1 := by
  obtain ⟨s, answer, ⟨hs, hr⟩, hpool⟩ := exists_reports_wrecked
  have ht : s.pool.tasks[1]? = some (ended (compilation "b.cpp") (.failed
      (some (compilation "b.cpp").object) "io error: File exists (os error 17)")) := by
    rw [hpool]
    rfl
  refine ⟨rfl, submits_errand, s, answer, _, ⟨hs, hr⟩, ht, rfl, ?_, ?_⟩
  · rw [job_compilation]
    rfl
  -- A command would have succeeded, but the task has failed.
  obtain ⟨k, inputs, acts, result, hspec, -, -, hattempts, hperformed, houtcome⟩ :=
    (hs.runsOn fun _ _ => trivial : Site.RunsOn wrecker (fun _ => True) _ _).attempted rfl within_errand
      submits_errand hr ht
  cases hattempts with
  | compile _ | link _ _ => exact nomatch houtcome
  | @unmade c dir m e hdir _ _ =>
    have hobject : (compilation "b.cpp").object = c.object :=
      Option.some.inj (congrArg TaskSpec.output hspec)
    rw [← hobject, above?_compilation] at hdir
    obtain rfl := Option.some.inj hdir
    rw [hperformed]
    exact fun hmem => wrecker_ne _ (List.mem_singleton.1 hmem)

end Wrecked

end NativeBuild
