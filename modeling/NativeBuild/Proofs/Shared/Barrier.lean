import NativeBuild.Proofs.Shared.Moves

/-!
What a thread may conclude when it finds the list of running tasks empty.  A task that has been
submitted has ended, or is in the list, or some thread has taken it from there and waits for it.  So
an empty list says that all tasks have ended only as long as no other thread waits.
-/

namespace NativeBuild

namespace Pool

variable {σ : Type} {p q : Pool σ}

theorem step?_running {i : TaskId} (h : p.step? i = some q) : p.running ⊆ q.running := by
  obtain ⟨t, _, h⟩ := taskStep_of_step? h
  cases h with
  | track hs => exact List.subset_append_left _ _
  | start _ | find _ _ | refuse _ _ | call _ _ | finish _ | unwind _ | act _ | await _ _ | ask _
  | submit _ _ | abandon _ _ => exact List.Subset.refl _

/-- A task whose submission by another task returns is in the list of running tasks then. -/
theorem step?_returning {i : TaskId} (h : p.step? i = some q) :
    SharedPool.returning p i ⊆ q.running := by
  obtain ⟨t, ht, h⟩ := taskStep_of_step? h
  intro k hk
  rw [SharedPool.returning, ht] at hk
  cases h with
  | track hs =>
    simp only [hs, List.mem_singleton] at hk
    subst hk
    exact List.mem_append_right _ (List.mem_singleton.2 rfl)
  | start hs | find hs _ | refuse hs _ | call hs _ | finish hs | unwind hs | act hs | await hs _
  | ask hs | submit hs _ | abandon hs _ => simp [hs] at hk

theorem Grows.ending?_isSome (h : p.Grows q) {k : Nat} (he : (p.ending? k).isSome = true) :
    (q.ending? k).isSome = true := by
  obtain ⟨t, ht, hended⟩ := exists_of_ending? he
  exact Pool.ending?_isSome (h.ended ht hended) hended

end Pool

namespace SharedPool

variable {σ : Type} {s s' : SharedPool σ} {t u : Thread σ} {q : Pool σ} {ids : List TaskId}
  {e : Event σ}

theorem mem_late {due : List TaskId} {k : TaskId} :
    k ∈ s.late due ↔
      k ∈ due ∧ s.pool.outcome? k = none ∧ ∃ t ∈ s.threads, k ∈ t.batch := by
  simp [late]

/-- No task is late when no thread has one left to wait for. -/
theorem late_eq_nil (h : ∀ t ∈ s.threads, t.batch = []) (due : List TaskId) : s.late due = [] := by
  refine List.eq_nil_iff_forall_not_mem.2 fun k hk => ?_
  obtain ⟨-, -, t, ht, hbatch⟩ := mem_late.1 hk
  rw [h t ht] at hbatch
  exact nomatch hbatch

/-- A task that has ended or that some thread waits for. -/
def Kept (s : SharedPool σ) (k : TaskId) : Prop :=
  (s.pool.ending? k).isSome = true ∨
    ∃ (c : Nat) (t : Thread σ), s.threads[c]? = some t ∧ k ∈ t.batch

/-- Every task whose submission has returned is in the list of running tasks, or has ended, or some
thread waits for it. -/
def Covered (s : SharedPool σ) : Prop :=
  ∀ k ∈ s.returned, k ∈ s.pool.running ∨ s.Kept k

theorem ThreadStep.of_returned (h : ThreadStep s t q u ids e) {k : TaskId} (hk : k ∈ ids) :
    (s.pool.ending? k).isSome = true ∨ k ∈ q.running := by
  cases h with
  | track _ => exact .inr (List.mem_append_right _ hk)
  | conclude _ he =>
    obtain rfl := List.mem_singleton.1 hk
    exact .inl (by rw [he]; rfl)
  | act | enlist | panic _ | spawn _ | unwind _ _ | refuseIdle _ | refuseJoin _ | beginIdle _
  | beginJoin _ | pass _ | take _ | idle _ | read _ | look _ _ | join => exact nomatch hk

theorem ThreadStep.of_running (h : ThreadStep s t q u ids e) {k : TaskId}
    (hk : k ∈ s.pool.running) : k ∈ q.running ∨ k ∈ u.batch := by
  cases h with
  | track _ => exact .inl (List.mem_append_left _ hk)
  | take _ => exact .inr hk
  | spawn _ => exact .inl (by rw [Pool.spawn_running]; exact hk)
  | act | enlist | panic _ | conclude _ _ | unwind _ _ | refuseIdle _ | refuseJoin _ | beginIdle _
  | beginJoin _ | pass _ | idle _ | read _ | look _ _ | join => exact .inl hk

theorem ThreadStep.of_batch (h : ThreadStep s t q u ids e) {k : TaskId} (hk : k ∈ t.batch) :
    (s.pool.ending? k).isSome = true ∨ k ∈ u.batch := by
  cases h with
  | pass he =>
    rcases List.mem_cons.1 hk with rfl | hk
    · exact .inl he
    · exact .inr hk
  | act | enlist | panic _ | spawn _ | track _ | conclude _ _ | unwind _ _ | refuseIdle _
  | refuseJoin _ | beginIdle _ | beginJoin _ | take _ | idle _ | read _ | look _ _ | join =>
    exact nomatch hk

theorem Kept.step (hl : s.Listing) (h : Step s s') {k : TaskId} (hk : s.Kept k) : s'.Kept k := by
  have hgrows := (h.move hl).grows
  rcases hk with he | ⟨d, v, hv, hb⟩
  · exact .inl (hgrows.ending?_isSome he)
  · cases h with
    | task h => exact .inr ⟨d, v, hv, hb⟩
    | @thread c t u q ids e ht h =>
      by_cases hd : c = d
      · subst hd
        obtain rfl := Option.some.inj (ht.symm.trans hv)
        rcases h.of_batch hb with he | hb
        · exact .inl (hgrows.ending?_isSome he)
        · exact .inr ⟨c, u, List.getElem?_set_self (List.getElem?_eq_some_iff.1 ht).1, hb⟩
      · exact .inr ⟨d, v, (List.getElem?_set_ne hd).trans hv, hb⟩

theorem Covered.step (hl : s.Listing) (hc : s.Covered) (h : Step s s') : s'.Covered := by
  intro k hk
  cases h with
  | task h =>
    rcases List.mem_append.1 hk with hk | hk
    · rcases hc k hk with hr | hkept
      · exact .inl (Pool.step?_running h hr)
      · exact .inr (hkept.step hl (.task h))
    · exact .inl (Pool.step?_returning h hk)
  | @thread c t u q ids e ht h =>
    rcases List.mem_append.1 hk with hk | hk
    · rcases hc k hk with hr | hkept
      · rcases h.of_running hr with hr | hb
        · exact .inl hr
        · have hu := List.getElem?_set_self (a := u) (List.getElem?_eq_some_iff.1 ht).1
          exact .inr (.inr ⟨c, u, hu, hb⟩)
      · exact .inr (hkept.step hl (.thread ht h))
    · rcases h.of_returned hk with he | hr
      · exact .inr (.inl ((h.touch hl ht).grows.ending?_isSome he))
      · exact .inl hr

variable {config : PoolConfig} {here : Path} {world : σ} {plans : List (Plan σ)}

theorem Reachable.covered (h : Reachable config here world plans s) : s.Covered := by
  induction h with
  | start => exact fun k hk => nomatch hk
  | step hs h ih => exact ih.step hs.listing h

theorem Reachable.kept (h : Reachable config here world plans s) (hr : s.pool.running = [])
    {k : TaskId} (hk : k ∈ s.returned) : s.Kept k := by
  rcases h.covered k hk with hrun | hkept
  · rw [hr] at hrun
    exact nomatch hrun
  · exact hkept

/-- A task that has ended, or that some thread waits for, has ended if it is not late. -/
theorem Reachable.ended_of_kept (h : Reachable config here world plans s) {due : List TaskId}
    {k : TaskId} (hk : k ∈ due) (hkept : s.Kept k) (hlate : k ∉ s.late due) :
    ∃ task, s.pool.tasks[k]? = some task ∧ task.isEnded = true := by
  rcases hkept with he | ⟨c, t, ht, hb⟩
  · exact Pool.exists_of_ending? he
  · cases ho : s.pool.outcome? k with
    | none => exact absurd (mem_late.2 ⟨hk, ho, t, List.mem_of_getElem? ht, hb⟩) hlate
    | some o =>
      obtain ⟨task, htask, houtcome⟩ := Pool.exists_of_outcome? ho
      refine ⟨task, htask, ?_⟩
      rw [← (h.sound k task htask).outcome?_isSome, houtcome, Option.isSome_some]

/-- All of the tasks in `due` have finished exactly when none of them is late. -/
theorem Reachable.finished_iff (h : Reachable config here world plans s) {due : List TaskId}
    (hkept : ∀ k ∈ due, s.Kept k) :
    (∀ k ∈ due, (s.pool.outcome? k).isSome = true) ↔ s.late due = [] := by
  refine ⟨fun hdone => List.eq_nil_iff_forall_not_mem.2 fun k hk => ?_, fun hlate k hk => ?_⟩
  · obtain ⟨hk, hnone, _⟩ := mem_late.1 hk
    have := hdone k hk
    rw [hnone] at this
    exact nomatch this
  · obtain ⟨task, htask, hended⟩ := h.ended_of_kept hk (hkept k hk) (by simp [hlate])
    rw [Pool.outcome?_eq htask, (h.sound k task htask).outcome?_isSome, hended]

end SharedPool

/-- What a thread that waits or reads may rely on: what it waits for has been submitted; and when it
reads, other threads wait for what has not ended, and what it did not find late had ended and is read
as it was then. -/
def Thread.Relies {σ : Type} (s : SharedPool σ) : Thread σ → Prop
  | .waiting due _ _ => due ⊆ s.returned
  | .reading due late count seen _ => ∀ k ∈ due, s.Kept k ∧ (k ∉ late →
    k < count ∧ ∃ task, s.pool.tasks[k]? = some task ∧ task.isEnded = true ∧
      ∀ read, seen[k]? = some read → read = task)
  | _ => True

namespace SharedPool

variable {σ : Type} {s s' : SharedPool σ} {t u : Thread σ} {q : Pool σ} {ids : List TaskId}
  {e : Event σ} {config : PoolConfig} {here : Path} {world : σ} {plans : List (Plan σ)}

theorem Step.returned_subset (h : Step s s') : s.returned ⊆ s'.returned := by
  cases h with
  | task _ | thread _ _ => exact List.subset_append_left _ _

/-- Whatever a thread may rely on it may still rely on after a step. -/
theorem Relies.step (hl : s.Listing) (h : Step s s') (ht : t.Relies s) : t.Relies s' := by
  cases t with
  | waiting due batch aim => exact fun k hk => h.returned_subset (ht hk)
  | reading due late count seen next =>
    intro k hk
    obtain ⟨hkept, hread⟩ := ht k hk
    refine ⟨hkept.step hl h, fun hlate => ?_⟩
    obtain ⟨hlt, task, htask, hended, hseen⟩ := hread hlate
    exact ⟨hlt, task, (h.move hl).grows.ended htask hended, hended, hseen⟩
  | free _ | listed _ _ _ | spawned _ _ => trivial

/-- A thread may rely on as much after its step as before. -/
theorem ThreadStep.relies (hs : Reachable config here world plans s) (h : ThreadStep s t q u ids e)
    (ht : t.Relies s) : u.Relies s := by
  cases h with
  | beginIdle _ | beginJoin _ => exact List.Subset.refl _
  | pass _ | take _ => exact ht
  | read hr =>
    intro k hk
    have hkept := hs.kept hr (ht hk)
    refine ⟨hkept, fun hlate => ?_⟩
    obtain ⟨task, htask, hended⟩ := hs.ended_of_kept hk hkept hlate
    exact ⟨(List.getElem?_eq_some_iff.1 htask).1, task, htask, hended, fun _ h => nomatch h⟩
  | @look due late count seen read next hlt hread =>
    intro k hk
    obtain ⟨hkept, hbefore⟩ := ht k hk
    refine ⟨hkept, fun hlate => ?_⟩
    obtain ⟨hcount, task, htask, hended, hseen⟩ := hbefore hlate
    refine ⟨hcount, task, htask, hended, fun u hu => ?_⟩
    rcases getElem?_concat_cases hu with hu | ⟨hk, rfl⟩
    · exact hseen u hu
    · rw [← hk] at hread
      exact Option.some.inj (hread.symm.trans htask)
  | act | enlist | panic _ | spawn _ | track _ | conclude _ _ | unwind _ _ | refuseIdle _
  | refuseJoin _ | idle _ | join => trivial

theorem Reachable.relies (h : Reachable config here world plans s) :
    ∀ (c : Nat) t, s.threads[c]? = some t → t.Relies s := by
  induction h with
  | start =>
    intro c t ht
    obtain ⟨plan, _, rfl⟩ := List.mem_map.1 (List.mem_of_getElem? ht)
    trivial
  | step hs h ih =>
    have hl := hs.listing
    cases h with
    | task h => exact fun c t ht => Relies.step hl (.task h) (ih c t ht)
    | @thread c t u q ids e ht h =>
      intro d v hv
      rcases getElem?_set_cases hv with ⟨_, rfl⟩ | ⟨_, hv⟩
      · exact Relies.step hl (.thread ht h) (h.relies hs (ih c t ht))
      · exact Relies.step hl (.thread ht h) (ih d v hv)

/-- What the end of a wait for all tasks means.  When the wait or a report returns, every task that
had been submitted before the call has finished, exactly if no other thread waits for one that has
not.  A report counts every such task with the outcome that it has, unless another thread was waiting
for it when the report ceased to wait. -/
theorem Reachable.barrier (h : Reachable config here world plans s) {c : Nat}
    (ht : s.threads[c]? = some t) (hstep : ThreadStep s t q u ids e) :
    match e with
    | .quiet => True
    | .idled due late =>
      late = s.late due ∧ ((∀ k ∈ due, (s.pool.outcome? k).isSome = true) ↔ late = [])
    | .joined due late seen answer =>
      ((∀ k ∈ due, (s.pool.outcome? k).isSome = true) ↔ s.late due = []) ∧
        answer = { s.pool with tasks := seen }.verdict ∧
        ∀ k ∈ due, k ∉ late → ∃ task o,
          s.pool.tasks[k]? = some task ∧ seen[k]? = some task ∧ task.outcome? = some o := by
  have hrelies := h.relies c t ht
  cases hstep with
  | @idle due next hr => exact ⟨rfl, h.finished_iff fun k hk => h.kept hr (hrelies hk)⟩
  | @join due late seen next =>
    refine ⟨h.finished_iff fun k hk => (hrelies k hk).1, rfl, fun k hk hlate => ?_⟩
    obtain ⟨hlt, task, htask, hended, hseen⟩ := (hrelies k hk).2 hlate
    obtain ⟨o, ho⟩ := Option.isSome_iff_exists.1
      ((h.sound k task htask).outcome?_isSome.trans hended)
    refine ⟨task, o, htask, ?_, ho⟩
    have hread := List.getElem?_eq_getElem hlt
    rw [hread, hseen _ hread]
  | act | enlist | panic _ | spawn _ | track _ | conclude _ _ | unwind _ _ | refuseIdle _
  | refuseJoin _ | beginIdle _ | beginJoin _ | pass _ | take _ | read _ | look _ _ => trivial

/-- Two threads: one submits a task and waits, the other one waits and then reports. -/
def twoWaiters : List (Plan Unit) :=
  [.submit .outside ⟨"compile", none, []⟩ (fun _ => .done (.ok ())) fun _ =>
      .waitIdle .outside fun _ => .stop,
    .waitIdle .outside fun _ => .joinAll .outside fun _ => .stop]

/-- The task that the first thread has submitted.  No worker has begun with it. -/
def unbegun : Task Unit :=
  ⟨⟨"compile", none, []⟩, fun _ => .done (.ok ()), .pending, .created, []⟩

/-- The pool of the two threads when the first one has taken the task from the running list. -/
def taken : Pool Unit :=
  ⟨⟨2, .pooled, .bestEffort⟩, ⟨['/']⟩, 2, (), [unbegun], []⟩

/-- The first thread waits for its task, and the second one has begun to wait. -/
def crossed : SharedPool Unit where
  pool := taken
  threads := [.waiting [0] [0] (.idle fun _ => .stop),
    .waiting [0] [] (.idle fun _ => .joinAll .outside fun _ => .stop)]
  returned := [0]

theorem reachable_crossed :
    Reachable ⟨2, .pooled, .bestEffort⟩ ⟨['/']⟩ () twoWaiters crossed := by
  have started : Reachable ⟨2, .pooled, .bestEffort⟩ ⟨['/']⟩ () twoWaiters (start _ _ _ _) := .start
  have listed := started.step (.thread (c := 0) rfl .enlist)
  have spawned := listed.step (.thread (c := 0) rfl (.spawn (.inl rfl)))
  have submitted := spawned.step (.thread (c := 0) rfl (.track rfl))
  have begun := submitted.step (.thread (c := 0) rfl (.beginIdle rfl))
  have waits := begun.step (.thread (c := 0) rfl (.take (by simp)))
  exact waits.step (.thread (c := 1) rfl (.beginIdle rfl))

theorem barrier_crossed :
    [0] = crossed.late [0] ∧
      ((∀ k ∈ [0], (crossed.pool.outcome? k).isSome = true) ↔ ([0] : List TaskId) = []) :=
  reachable_crossed.barrier (c := 1) rfl (.idle rfl)

/-- The wait of one thread does not hold for another one.  A task has been submitted, one thread
waits for it, and a second thread's wait and then its report return while the task has not begun; the
report counts it as one that never finished. -/
theorem exists_unfinished_at_return :
    (∃ s t q u, Reachable ⟨2, .pooled, .bestEffort⟩ ⟨['/']⟩ () twoWaiters s ∧
      s.threads[1]? = some t ∧ ThreadStep s t q u [] (.idled [0] [0]) ∧
      s.pool.outcome? 0 = none) ∧
    ∃ s t q u seen, Reachable ⟨2, .pooled, .bestEffort⟩ ⟨['/']⟩ () twoWaiters s ∧
      s.threads[1]? = some t ∧
      ThreadStep s t q u [] (.joined [0] [0] seen (.ok ⟨0, [⟨"compile", "task never finished"⟩]⟩)) ∧
      s.pool.outcome? 0 = none := by
  refine ⟨⟨_, _, _, _, reachable_crossed, rfl, .idle rfl, rfl⟩, ?_⟩
  have idled := reachable_crossed.step (.thread (c := 1) rfl (.idle rfl))
  have begun := idled.step (.thread (c := 1) rfl (.beginJoin rfl))
  have reading := begun.step (.thread (c := 1) rfl (.read rfl))
  have looked := reading.step (.thread (c := 1) rfl (.look Nat.zero_lt_one rfl))
  exact ⟨_, _, _, _, [unbegun], looked, rfl, .join, rfl⟩

end SharedPool

end NativeBuild
