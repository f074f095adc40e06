import NativeBuild.Proofs.Pool.Account
import NativeBuild.Proofs.Shared.Idle

/-!
The account that a thread gets of its tasks, and of those that its tasks have submitted while it
waited.  The wait for it ends when the works do, and then every task has finished; the account counts
each of them as what it is, and a later one only adds the tasks that were submitted since.
-/

namespace NativeBuild

namespace SharedPool

variable {σ : Type} {s s' : SharedPool σ} {past : List (SharedPool σ)} {t u : Thread σ} {q : Pool σ}
  {ids due late : List TaskId} {seen : List (Task σ)} {answer : Except Failure Report}
  {config : PoolConfig} {here : Path} {world : σ} {plan : Plan σ}

theorem Reachable.grows (h : Reachable config here world [plan] s) (hr : Runs s s') :
    s.pool.Grows s'.pool := by
  induction hr with
  | refl => exact .refl _
  | tail hr hstep ih => exact ih.trans ((hstep.move (h.runs hr).listing).grows)

theorem Reachable.tells (h : Reachable config here world [plan] s) :
    s.pool.Each fun _ t => t.Tells := by
  induction h with
  | start => exact .start config here world
  | step hs h ih => exact (h.move hs.listing).tells hs.sound ih

theorem Reachable.finished (h : Reachable config here world [plan] s)
    (hended : ∀ task ∈ s.pool.tasks, task.isEnded = true) :
    ∀ task ∈ s.pool.tasks, task.outcome?.isSome = true := by
  intro task htask
  obtain ⟨i, hi⟩ := List.mem_iff_getElem?.1 htask
  rw [(h.sound i task hi).outcome?_isSome]
  exact hended task htask

/-- Under best effort the thread is told of all tasks, each of which has ended. -/
theorem Reachable.accounted (h : Reachable config here world [plan] s) (hm : config.mode = .pooled)
    (hp : config.policy = .bestEffort) (hthreads : s.threads = [t])
    (hstep : ThreadStep s t q u ids (.joined due late seen answer)) :
    (∀ task ∈ s.pool.tasks, task.isEnded = true) ∧
      ∃ report, answer = .ok report ∧ report.Accounts s.pool.tasks := by
  obtain ⟨t', hthreads', htends⟩ := h.single.tends
  obtain rfl := List.singleton_inj.1 (hthreads.symm.trans hthreads')
  obtain ⟨hrest, _, rfl⟩ := htends.joined hstep
  have hended := ended_of_atRest hrest (h.config_eq.symm ▸ hm)
  exact ⟨hended, s.pool.report, Pool.verdict_bestEffort (h.config_eq.symm ▸ hp),
    Pool.report_accounts (h.finished hended) h.tells⟩

/-- What a thread that has a pooled pool for itself gets to know of its tasks.  Its wait for them does
not go on for ever, gets stuck only on work that waits for the world, and when it is over every task
has ended and has an outcome.  The report under best effort is then an account of all tasks, and a later
report adds the account of the tasks that were submitted since. -/
theorem Course.account (h : Course config here world [plan] past s) (hm : config.mode = .pooled) :
    (s.AtBarrier →
      (¬ ∃ run : Nat → SharedPool σ, run 0 = s ∧
        ∀ n, Step (run n) (run (n + 1)) ∧ (run n).AtBarrier) ∧
      ((∃ s', Step s s') ∨ ∃ k, s.pool.Stalled k) ∧
      ∀ s', Step s s' → ¬ s'.AtBarrier → s'.pool = s.pool ∧
        ∀ task ∈ s.pool.tasks, task.isEnded = true ∧ task.outcome?.isSome = true) ∧
    (config.policy = .bestEffort → ∀ t q u ids due late seen answer, s.threads = [t] →
      ThreadStep s t q u ids (.joined due late seen answer) →
      ∃ report, answer = .ok report ∧ report.Accounts s.pool.tasks ∧
        ∀ s' t' q' u' ids' due' late' seen' answer', Runs s s' → s'.threads = [t'] →
          ThreadStep s' t' q' u' ids' (.joined due' late' seen' answer') →
          ∃ more report', s'.pool.tasks = s.pool.tasks ++ more ∧ answer' = .ok report' ∧
            report'.Accounts s'.pool.tasks ∧
            report'.completed = report.completed + more.countP Task.isCompleted ∧
            report'.failed = report.failed ++ more.filterMap Task.failure?) := by
  have hs := h.reachable
  refine ⟨fun hb => ⟨?_, h.exists_step hm hb, fun s' hstep hs' => ?_⟩, ?_⟩
  · rintro ⟨run, -, hrun⟩
    exact no_endless_wait ⟨run, hrun⟩
  · obtain ⟨hpool, hended⟩ := hs.ended_of_leaves hm hb hstep hs'
    exact ⟨hpool, fun task htask => ⟨hended task htask, hs.finished hended task htask⟩⟩
  · intro hp t q u ids due late seen answer hthreads hstep
    obtain ⟨hended, report, rfl, haccounts⟩ := hs.accounted hm hp hthreads hstep
    refine ⟨report, rfl, haccounts, ?_⟩
    intro s' t' q' u' ids' due' late' seen' answer' hr hthreads' hstep'
    obtain ⟨_, report', rfl, haccounts'⟩ := (hs.runs hr).accounted hm hp hthreads' hstep'
    -- Ended tasks do not change any more, so the later report counts them as the first one did.
    obtain ⟨more, hmore⟩ := (hs.grows hr).tasks_eq_append hended
    obtain ⟨hcompleted, hfailed⟩ := haccounts.extends (hmore ▸ haccounts')
    exact ⟨more, report', hmore, rfl, haccounts', hcompleted, hfailed⟩

/-- Work that submits a further task, which fails. -/
def helped : List Path → Work Unit :=
  fun _ => .submit ⟨"inner", none, []⟩ (fun _ => .done (.error (.noOutput "x"))) fun _ =>
    .done (.ok ())

/-- What a thread does after its first report: it submits another task and asks again. -/
def secondReport : Plan Unit :=
  .submit .outside ⟨"late", none, []⟩ (fun _ => .done (.ok ())) fun _ =>
  .joinAll .outside fun _ => .stop

/-- A thread that submits a task that is helped and one that panics, and reports twice. -/
def twoReports : Plan Unit :=
  .submit .outside ⟨"outer", none, []⟩ helped fun _ =>
  .submit .outside ⟨"loud", none, []⟩ (fun _ => .unwind) fun _ =>
  .joinAll .outside fun _ => secondReport

/-- The thread waits for its two tasks, and no worker has begun with them. -/
def waitsForTwo : SharedPool Unit :=
  alone ⟨⟨2, .pooled, .bestEffort⟩, ⟨['/']⟩, 2, (),
      [⟨⟨"outer", none, []⟩, helped, .pending, .created, []⟩,
        ⟨⟨"loud", none, []⟩, fun _ => .unwind, .pending, .created, []⟩], []⟩
    (.waiting [0, 1] [0, 1] (.report fun _ => secondReport)) [0, 1]

/-- The three tasks of the first report. -/
def threeTasks : List (Task Unit) :=
  [⟨⟨"outer", none, []⟩, helped, .finished (.completed none), .ended false, [[]]⟩,
    ⟨⟨"loud", none, []⟩, fun _ => .unwind,
      .finished (.failed none "task abandoned before finishing"), .ended true, [[]]⟩,
    ⟨⟨"inner", none, []⟩, fun _ => .done (.error (.noOutput "x")),
      .finished (.failed none "task 'x' produced no output path"), .ended false, [[]]⟩]

/-- The task that is submitted after the first report. -/
def lateTask : Task Unit :=
  ⟨⟨"late", none, []⟩, fun _ => .done (.ok ()), .finished (.completed none), .ended false, [[]]⟩

/-- The thread has read the three tasks. -/
def readsThree : SharedPool Unit :=
  alone ⟨⟨2, .pooled, .bestEffort⟩, ⟨['/']⟩, 2, (), threeTasks, []⟩
    (.reading [0, 1] [] 3 threeTasks fun _ => secondReport) [0, 1, 2]

/-- The thread has read all four tasks. -/
def readsFour : SharedPool Unit :=
  alone ⟨⟨2, .pooled, .bestEffort⟩, ⟨['/']⟩, 2, (), threeTasks ++ [lateTask], []⟩
    (.reading [0, 1, 2, 3] [] 4 (threeTasks ++ [lateTask]) fun _ => .stop) [0, 1, 2, 3]

theorem exists_course_waitsForTwo :
    ∃ past, Course ⟨2, .pooled, .bestEffort⟩ ⟨['/']⟩ () [twoReports] past waitsForTwo := by
  have started : Course ⟨2, .pooled, .bestEffort⟩ ⟨['/']⟩ () [twoReports] _ _ := .start
  have first := started.enlist (.thread (c := 0) rfl .enlist) rfl (fun _ h => nomatch h)
  have first := first.still (.thread (c := 0) rfl (.spawn (.inl rfl))) (Nat.le_refl _)
  have first := first.still (.thread (c := 0) rfl (.track rfl)) (Nat.le_refl _)
  have second := first.enlist (.thread (c := 0) rfl .enlist) rfl (fun _ h => nomatch h)
  have second := second.still (.thread (c := 0) rfl (.spawn (.inl rfl))) (Nat.le_refl _)
  have second := second.still (.thread (c := 0) rfl (.track rfl)) (Nat.le_refl _)
  have waits := second.still (.thread (c := 0) rfl (.beginJoin rfl)) (Nat.le_refl _)
  exact ⟨_, waits.still (.thread (c := 0) rfl (.take (by simp [SharedPool.start]))) (Nat.le_refl _)⟩

theorem exists_course_readsThree :
    ∃ past, Course ⟨2, .pooled, .bestEffort⟩ ⟨['/']⟩ () [twoReports] past readsThree := by
  obtain ⟨_, waits⟩ := exists_course_waitsForTwo
  have begun := waits.still (.task (i := 0) rfl) (Nat.le_refl _)
  have called := begun.still (.task (i := 0) rfl) (Nat.le_refl _)
  have submitted := called.step (.task (i := 0) rfl) fun i t ht _ k hk => by
    have hmem := List.mem_of_getElem? ht
    change t ∈ [_, _, _] at hmem
    simp only [List.mem_cons, List.not_mem_nil, or_false] at hmem
    rcases hmem with rfl | rfl | rfl <;> exact nomatch hk
  have begun := submitted.still (.task (i := 1) rfl) (Nat.le_refl _)
  have called := begun.still (.task (i := 1) rfl) (Nat.le_refl _)
  have panicked := called.still (.task (i := 1) rfl) (Nat.le_refl _)
  have tracked := panicked.still (.task (i := 0) rfl) (Nat.le_refl _)
  have finished := tracked.still (.task (i := 0) rfl) (Nat.le_refl _)
  have passed := finished.still (.thread (c := 0) rfl (.pass rfl)) (Nat.le_refl _)
  have passed := passed.still (.thread (c := 0) rfl (.pass rfl)) (Nat.le_refl _)
  have taken := passed.still (.thread (c := 0) rfl (.take (by simp))) (Nat.le_refl _)
  have begun := taken.still (.task (i := 2) rfl) (Nat.le_refl _)
  have called := begun.still (.task (i := 2) rfl) (Nat.le_refl _)
  have finished := called.still (.task (i := 2) rfl) (Nat.le_refl _)
  have passed := finished.still (.thread (c := 0) rfl (.pass rfl)) (Nat.le_refl _)
  have reads := passed.still (.thread (c := 0) rfl (.read rfl)) (Nat.le_refl _)
  have looked := reads.still (.thread (c := 0) rfl (.look (Nat.zero_lt_succ 2) rfl)) (Nat.le_refl _)
  have looked := looked.still (.thread (c := 0) rfl (.look (Nat.one_lt_succ_succ 1) rfl))
    (Nat.le_refl _)
  exact ⟨_, looked.still (.thread (c := 0) rfl (.look (Nat.lt_succ_self 2) rfl)) (Nat.le_refl _)⟩

theorem joins_readsThree :
    ThreadStep readsThree (.reading [0, 1] [] threeTasks.length threeTasks fun _ => secondReport)
      readsThree.pool (.free secondReport) [] (.joined [0, 1] [] threeTasks readsThree.pool.verdict) :=
  .join

theorem runs_readsFour : Runs readsThree readsFour := by
  have joined : Runs readsThree _ := .single (.thread (c := 0) rfl joins_readsThree)
  have listed := joined.tail (.thread (c := 0) rfl .enlist)
  have spawned := listed.tail (.thread (c := 0) rfl (.spawn (.inl rfl)))
  have submitted := spawned.tail (.thread (c := 0) rfl (.track rfl))
  have waits := submitted.tail (.thread (c := 0) rfl (.beginJoin rfl))
  have taken := waits.tail (.thread (c := 0) rfl (.take (by simp [readsThree, alone])))
  have begun := taken.tail (.task (i := 3) rfl)
  have called := begun.tail (.task (i := 3) rfl)
  have finished := called.tail (.task (i := 3) rfl)
  have passed := finished.tail (.thread (c := 0) rfl (.pass rfl))
  have reads := passed.tail (.thread (c := 0) rfl (.read rfl))
  have looked := reads.tail (.thread (c := 0) rfl (.look (Nat.zero_lt_succ 3) rfl))
  have looked := looked.tail (.thread (c := 0) rfl (.look (Nat.one_lt_succ_succ 2) rfl))
  have looked := looked.tail (.thread (c := 0) rfl (.look (Nat.lt_succ_of_lt (Nat.lt_succ_self 2)) rfl))
  exact looked.tail (.thread (c := 0) rfl (.look (Nat.lt_succ_self 3) rfl))

/-- The first report counts the task that was submitted during the wait for it, and the second one adds
the task that was submitted after that. -/
theorem account_twoReports :
    (waitsForTwo.AtBarrier ∧ ((∃ s', Step waitsForTwo s') ∨ ∃ k, waitsForTwo.pool.Stalled k)) ∧
      ∃ report, readsThree.pool.verdict = .ok report ∧ report.Accounts threeTasks ∧
        ∃ more report', threeTasks ++ [lateTask] = threeTasks ++ more ∧
          readsFour.pool.verdict = .ok report' ∧
          report'.completed = report.completed + more.countP Task.isCompleted ∧
          report'.failed = report.failed ++ more.filterMap Task.failure? := by
  obtain ⟨_, hwaits⟩ := exists_course_waitsForTwo
  have hb : waitsForTwo.AtBarrier := ⟨_, _, _, rfl⟩
  obtain ⟨_, hreads⟩ := exists_course_readsThree
  have hjoin' : ThreadStep readsFour (.reading [0, 1, 2, 3] [] (threeTasks ++ [lateTask]).length
      (threeTasks ++ [lateTask]) fun _ => .stop) readsFour.pool (.free .stop) []
      (.joined [0, 1, 2, 3] [] (threeTasks ++ [lateTask]) readsFour.pool.verdict) := .join
  obtain ⟨report, hanswer, haccounts, hlater⟩ :=
    (hreads.account rfl).2 rfl _ _ _ _ _ _ _ _ rfl joins_readsThree
  obtain ⟨more, report', hmore, hanswer', _, hcompleted, hfailed⟩ :=
    hlater _ _ _ _ _ _ _ _ _ runs_readsFour rfl hjoin'
  exact ⟨⟨hb, ((hwaits.account rfl).1 hb).2.1⟩, report, hanswer, haccounts, more, report', hmore,
    hanswer', hcompleted, hfailed⟩

end SharedPool

end NativeBuild
