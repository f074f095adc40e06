import Mathlib
import NativeBuild.Proofs.Shared.Strict

/-!
How the wait for all tasks comes to its end.  While the one thread waits, every step makes what is
left of the tasks lighter, or the thread takes the list or goes past a task that has ended; so it does
not wait for ever.  It gets stuck only on work that waits for something in the world, and when it goes
on, every task has ended, those included that tasks have submitted meanwhile.  In inline mode a task
that is left behind takes the thread with it, so that no thread gets to wait for it.
-/

namespace NativeBuild

namespace SharedPool

variable {σ : Type} {s s' : SharedPool σ} {past : List (SharedPool σ)} {t u : Thread σ} {q : Pool σ}
  {ids : List TaskId} {e : Event σ} {config : PoolConfig} {here : Path} {world : σ}
  {plans : List (Plan σ)} {plan : Plan σ}

/-- Whether the one thread of a pool waits until no task is running. -/
def AtBarrier (s : SharedPool σ) : Prop :=
  ∃ due batch aim, s.threads = [.waiting due batch aim]

/-- How much of the list of running tasks there is to go past.  A task that is still in the list has
to be taken from it first. -/
def toPass (s : SharedPool σ) : Nat :=
  2 * s.pool.running.length + (s.threads.map fun t => t.batch.length).sum

/-- What a step does that leaves the thread waiting. -/
def Waits (s' s : SharedPool σ) : Prop :=
  Step s s' ∧ s.AtBarrier ∧ s'.AtBarrier

theorem only_thread (hthreads : s.threads = [u]) {c : Nat} (ht : s.threads[c]? = some t) :
    c = 0 ∧ t = u := by
  rw [hthreads] at ht
  exact ⟨Nat.lt_one_iff.1 (List.getElem?_eq_some_iff.1 ht).1,
    List.mem_singleton.1 (List.mem_of_getElem? ht)⟩

/-- What is left of the tasks gets lighter, or there is less to go past. -/
theorem Waits.lighter (h : Waits s' s) :
    Prod.Lex (Replaces Load.Lighter) (· < ·) (s'.pool.loads, s'.toPass) (s.pool.loads, s.toPass) := by
  obtain ⟨hstep, ⟨due, batch, aim, hthreads⟩, ⟨due', batch', aim', hthreads'⟩⟩ := h
  cases hstep with
  | task h => exact .left _ _ (Pool.loads_step h)
  | @thread c t u q ids e ht h =>
    obtain ⟨rfl, rfl⟩ := only_thread hthreads ht
    simp only [hthreads, List.set_cons_zero, List.cons.injEq, and_true] at hthreads'
    cases h with
    | pass _ => exact .right _ (by simp [toPass, hthreads, Thread.batch])
    | take hr =>
      -- Each task of the list counts twice until it is taken, and once after.
      refine .right _ ?_
      have := List.length_pos_iff.2 hr
      simp only [toPass, hthreads, Thread.batch, List.set_cons_zero, List.map_cons, List.map_nil,
        List.sum_singleton, List.length_nil]
      omega
    | idle _ | read _ => exact nomatch hthreads'

theorem waits_wf : WellFounded (Waits (σ := σ)) :=
  Subrelation.wf (fun h => Waits.lighter h)
    (InvImage.wf (fun s : SharedPool σ => (s.pool.loads, s.toPass))
      ((Replaces.wf Load.wf).prod_lex Nat.lt_wfRel.wf))

/-- No thread that has a pool for itself waits for ever while there are steps. -/
theorem no_endless_wait :
    ¬ ∃ run : Nat → SharedPool σ, ∀ n, Step (run n) (run (n + 1)) ∧ (run n).AtBarrier := by
  rintro ⟨run, hrun⟩
  have hempty := wellFounded_iff_isEmpty_descending_chain.1 (waits_wf (σ := σ))
  exact hempty.false ⟨run, fun n => ⟨(hrun n).1, (hrun n).2, (hrun (n + 1)).2⟩⟩

end SharedPool

namespace Pool

variable {σ : Type} {p q : Pool σ}

/-- Whether the tasks that a pool names as running, and those that a task is about to name so, are
among the first `n`. -/
structure Names (n : Nat) (p : Pool σ) : Prop where
  running : ∀ k ∈ p.running, k < n
  tracking : p.Each fun _ t => ∀ k w, t.stage = .tracking k w → k < n

theorem Names.mono {m n : Nat} (h : p.Names m) (hmn : m ≤ n) : p.Names n :=
  ⟨fun k hk => Nat.lt_of_lt_of_le (h.running k hk) hmn,
    fun i t ht k w hs => Nat.lt_of_lt_of_le (h.tracking i t ht k w hs) hmn⟩

theorem Names.put {n : Nat} (h : p.Names n) {i : TaskId} {u : Task σ} (hr : q.running = p.running)
    (ht : q.tasks = p.tasks.set i u) (hu : ∀ k w, u.stage = .tracking k w → k < n) :
    q.Names n := by
  refine ⟨fun k hk => h.running k (hr ▸ hk), fun j t hj => ?_⟩
  rw [ht] at hj
  exact h.tracking.setTask hu j t hj

theorem Names.enlist {n : Nat} (h : p.Names n) {new : Task σ} (hnew : new.IsNew) :
    (p.enlist new).1.Names n := by
  refine ⟨h.running, h.tracking.enlist fun k w hs => ?_⟩
  rcases hnew.stage with hs' | hs' <;> rw [hs'] at hs <;> exact nomatch hs

theorem Names.track {n : Nat} (h : p.Names n) {k : TaskId} (hk : k < n) : (p.track k).Names n := by
  refine ⟨fun j hj => ?_, h.tracking⟩
  rcases List.mem_append.1 hj with hj | hj
  · exact h.running j hj
  · obtain rfl := List.mem_singleton.1 hj
    exact hk

theorem Names.step (hn : p.Names p.tasks.length) {i : TaskId} (hstep : p.step? i = some q) :
    q.Names q.tasks.length := by
  obtain ⟨t, ht, hkind⟩ := taskStep_of_step? hstep
  have hle : p.tasks.length ≤ q.tasks.length := (hkind.grows ht).length_le
  cases hkind with
  | start _ | find _ _ | refuse _ _ | call _ _ | finish _ | unwind _ | act _ | await _ _ | ask _ =>
    exact (hn.mono hle).put rfl rfl fun _ _ hs => nomatch hs
  | @submit spec body next _ _ =>
    -- The task that is about to be named is the one that is just listed.
    have hnamed : Names (p.tasks.length + 1)
        (p.setTask i { t with stage := .tracking p.tasks.length (next p.tasks.length) }) := by
      refine (hn.mono (Nat.le_succ _)).put rfl rfl fun k w hs => ?_
      cases hs
      exact Nat.lt_succ_self _
    have hnew : Task.IsNew { Task.fresh spec body with stage := .created } := ⟨rfl, .inr rfl, rfl⟩
    simpa using hnamed.enlist hnew
  | @abandon spec body _ _ _ =>
    have hnamed : (p.release.setTask i (t.close true)).Names p.tasks.length :=
      hn.put rfl rfl fun _ _ hs => nomatch hs
    exact (hnamed.enlist (Task.isNew_fresh spec body)).mono hle
  | @track other work hs =>
    have hnamed : (p.setTask i { t with stage := .working work }).Names p.tasks.length :=
      hn.put rfl rfl fun _ _ hs => nomatch hs
    exact (hnamed.track (hn.tracking i t ht _ _ hs)).mono hle

end Pool

namespace SharedPool

variable {σ : Type} {s s' : SharedPool σ} {past : List (SharedPool σ)} {t u : Thread σ} {q : Pool σ}
  {ids : List TaskId} {e : Event σ} {config : PoolConfig} {here : Path} {world : σ}
  {plans : List (Plan σ)} {plan : Plan σ}

/-- What threads keep to in pooled mode: whatever is named is a task that there is, and a task that no
worker has is one that a thread has listed. -/
structure Orderly (s : SharedPool σ) : Prop where
  names : s.pool.Names s.pool.tasks.length
  batch : ∀ t ∈ s.threads, ∀ k ∈ t.batch, k < s.pool.tasks.length
  submitting : ∀ t ∈ s.threads, ∀ k, t.submitting = some k → k < s.pool.tasks.length
  listed : s.pool.Each fun i task => task.stage = .listed →
    ∃ (c : Nat) (t : Thread σ), s.threads[c]? = some t ∧ t.listing = some i

theorem Orderly.task (h : s.Orderly) (hm : s.pool.config.mode = .pooled) {i : TaskId}
    (hstep : s.pool.step? i = some q) (returned : List TaskId) :
    Orderly ⟨q, s.threads, returned⟩ := by
  obtain ⟨t, ht, hkind⟩ := Pool.taskStep_of_step? hstep
  have hle : s.pool.tasks.length ≤ q.tasks.length := (hkind.grows ht).length_le
  refine ⟨h.names.step hstep, fun v hv k hk => Nat.lt_of_lt_of_le (h.batch v hv k hk) hle,
    fun v hv k hk => Nat.lt_of_lt_of_le (h.submitting v hv k hk) hle, ?_⟩
  -- In pooled mode a step puts no task into the list that is not with the workers.
  intro j u hu hs
  have hold (hu : s.pool.tasks[j]? = some u) := h.listed j u hu hs
  cases hkind with
  | submit _ _ =>
    rcases getElem?_concat_cases hu with hu | ⟨_, rfl⟩
    · rcases getElem?_set_cases hu with ⟨_, rfl⟩ | ⟨_, hu⟩
      · exact nomatch hs
      · exact hold hu
    · exact nomatch hs
  | abandon _ hinline => exact nomatch hm.symm.trans hinline
  | start _ | find _ _ | refuse _ _ | call _ _ | finish _ | unwind _ | act _ | await _ _ | ask _
  | track _ =>
    rcases getElem?_set_cases hu with ⟨_, rfl⟩ | ⟨_, hu⟩
    · exact nomatch hs
    · exact hold hu

theorem Orderly.named (h : s.Orderly) (ht : t ∈ s.threads) (hstep : ThreadStep s t q u ids e) :
    s.pool.tasks.length ≤ q.tasks.length ∧ q.Names q.tasks.length ∧
      (∀ k ∈ u.batch, k < q.tasks.length) ∧ ∀ k, u.submitting = some k → k < q.tasks.length := by
  have none : (∀ k ∈ ([] : List TaskId), k < q.tasks.length) := fun _ hk => nomatch hk
  cases hstep with
  | enlist =>
    have hlen := Nat.lt_succ_self s.pool.tasks.length
    refine ⟨by simp, ?_, none, fun k hk => ?_⟩
    · exact ((h.names.enlist (Task.isNew_fresh _ _))).mono (by simp)
    · obtain rfl := Option.some.inj hk
      simp
  | @spawn _ id _ _ =>
    have hlen := s.pool.length_spawn id
    refine ⟨Nat.le_of_eq hlen.symm, ?_, none, fun k hk => hlen ▸ h.submitting _ ht k hk⟩
    rw [hlen]
    unfold Pool.spawn
    split
    · exact h.names.put rfl rfl fun _ _ hs => nomatch hs
    · exact h.names
  | track _ =>
    exact ⟨Nat.le_refl _, h.names.track (h.submitting _ ht _ rfl), none, fun _ hk => nomatch hk⟩
  | pass _ =>
    exact ⟨Nat.le_refl _, h.names, fun k hk => h.batch _ ht k (List.mem_cons_of_mem _ hk),
      fun _ hk => nomatch hk⟩
  | take _ =>
    exact ⟨Nat.le_refl _, ⟨none, h.names.tracking⟩, h.names.running, fun _ hk => nomatch hk⟩
  | act =>
    exact ⟨Nat.le_refl _, ⟨h.names.running, h.names.tracking⟩, none, fun _ hk => nomatch hk⟩
  | panic _ | conclude _ _ | unwind _ _ | refuseIdle _ | refuseJoin _ | beginIdle _ | beginJoin _
  | idle _ | read _ | look _ _ | join =>
    exact ⟨Nat.le_refl _, h.names, none, fun _ hk => nomatch hk⟩

theorem Orderly.thread (h : s.Orderly) (hl : s.Listing) (hm : s.pool.config.mode = .pooled) {c : Nat}
    (ht : s.threads[c]? = some t) (hstep : ThreadStep s t q u ids e) (returned : List TaskId) :
    Orderly ⟨q, s.threads.set c u, returned⟩ := by
  obtain ⟨hle, hnames, hbatch, hsubmitting⟩ := h.named (List.mem_of_getElem? ht) hstep
  refine ⟨hnames, fun v hv k hk => ?_, fun v hv k hk => ?_, fun i task htask hs => ?_⟩
  · rcases List.mem_or_eq_of_mem_set hv with hv | rfl
    · exact Nat.lt_of_lt_of_le (h.batch v hv k hk) hle
    · exact hbatch k hk
  · rcases List.mem_or_eq_of_mem_set hv with hv | rfl
    · exact Nat.lt_of_lt_of_le (h.submitting v hv k hk) hle
    · exact hsubmitting k hk
  · -- A task that this thread has not listed is still listed by another one.
    have hkeep (hold : s.pool.tasks[i]? = some task) (hne : t.listing ≠ some i) :
        ∃ (d : Nat) (v : Thread σ), (s.threads.set c u)[d]? = some v ∧ v.listing = some i := by
      obtain ⟨d, v, hv, hi⟩ := h.listed i task hold hs
      have hcd : c ≠ d := by
        rintro rfl
        obtain rfl := Option.some.inj (ht.symm.trans hv)
        exact hne hi
      exact ⟨d, v, by rw [List.getElem?_set_ne hcd]; exact hv, hi⟩
    cases hstep with
    | enlist =>
      rcases getElem?_concat_cases htask with htask | ⟨rfl, _⟩
      · exact hkeep htask fun hi => nomatch hi
      · exact ⟨c, _, List.getElem?_set_self (List.getElem?_eq_some_iff.1 ht).1, rfl⟩
    | @spawn _ id _ _ =>
      obtain ⟨old, hold, _⟩ := hl.listed c id _ ht rfl
      rw [Pool.spawn_eq_setTask hold] at htask
      rcases getElem?_set_cases htask with ⟨_, rfl⟩ | ⟨hne, htask⟩
      · exact nomatch hs
      · exact hkeep htask fun hi => hne (Option.some.inj hi)
    | panic hinline => exact nomatch hm.symm.trans hinline
    | act | track _ | conclude _ _ | unwind _ _ | refuseIdle _ | refuseJoin _ | beginIdle _
    | beginJoin _ | pass _ | take _ | idle _ | read _ | look _ _ | join =>
      exact hkeep htask fun hi => nomatch hi

theorem Reachable.orderly (h : Reachable config here world plans s) (hm : config.mode = .pooled) :
    s.Orderly := by
  induction h with
  | start =>
    have free : ∀ t ∈ plans.map Thread.free, t.batch = [] ∧ t.submitting = none := by
      intro t ht
      obtain ⟨plan, _, rfl⟩ := List.mem_map.1 ht
      exact ⟨rfl, rfl⟩
    refine ⟨⟨fun k hk => (nomatch hk), .start config here world⟩, fun t ht k hk => ?_,
      fun t ht k hk => ?_, .start config here world⟩
    · rw [(free t ht).1] at hk
      exact nomatch hk
    · rw [(free t ht).2] at hk
      exact nomatch hk
  | @step s s' hs h ih =>
    have hm' : s.pool.config.mode = .pooled := hs.config_eq.symm ▸ hm
    cases h with
    | task h => exact ih.task hm' h _
    | thread ht h => exact ih.thread hs.listing hm' ht h _

/-- A thread that waits for all tasks goes on, unless some work waits for the world. -/
theorem Course.exists_step (h : Course config here world [plan] past s) (hm : config.mode = .pooled)
    (hs : s.AtBarrier) : (∃ s', Step s s') ∨ ∃ k, s.pool.Stalled k := by
  obtain ⟨due, batch, aim, hthreads⟩ := hs
  have horderly := h.reachable.orderly hm
  have ht : s.threads[0]? = some (.waiting due batch aim) := by rw [hthreads]; rfl
  by_cases hended : ∀ task ∈ s.pool.tasks, task.isEnded = true
  · refine .inl ?_
    cases batch with
    | cons id rest =>
      have hid := horderly.batch _ (List.mem_of_getElem? ht) id List.mem_cons_self
      have he := Pool.ending?_isSome (List.getElem?_eq_getElem hid) (hended _ (List.getElem_mem hid))
      exact ⟨_, .thread ht (.pass he)⟩
    | nil =>
      by_cases hr : s.pool.running = []
      · cases aim with
        | idle next => exact ⟨_, .thread ht (.idle hr)⟩
        | report next => exact ⟨_, .thread ht (.read hr)⟩
      · exact ⟨_, .thread ht (.take hr)⟩
  · -- A task that has not ended is with the workers, since the thread has none listed.
    obtain ⟨task, hmem, hne⟩ : ∃ task ∈ s.pool.tasks, ¬ task.isEnded = true := by
      simpa using hended
    obtain ⟨i, hi, rfl⟩ := List.mem_iff_getElem.1 hmem
    have htask := List.getElem?_eq_getElem hi
    have hspawned : s.pool.tasks[i].isSpawned = true := by
      cases hstage : s.pool.tasks[i].stage with
      | listed =>
        obtain ⟨c, t, hc, hid⟩ := horderly.listed i _ htask hstage
        rw [hthreads] at hc
        rw [List.mem_singleton.1 (List.mem_of_getElem? hc)] at hid
        exact nomatch hid
      | created | gathering _ _ | working _ | tracking _ _ | ended _ => simp [Task.isSpawned, hstage]
    have hnone : s.pool.tasks[i].outcome? = none := by
      have hsome := (h.reachable.sound i _ htask).outcome?_isSome
      rw [Bool.eq_false_iff.2 hne] at hsome
      exact Option.isNone_iff_eq_none.1 (Option.isSome_eq_false_iff.1 hsome)
    obtain ⟨k, ⟨q, hk⟩ | hk⟩ := h.run.reached.exists_canStep_or_stalled htask hspawned hnone
    · exact .inl ⟨_, .task hk⟩
    · exact .inr ⟨k, hk⟩

/-- When no task can go on in pooled mode, every task has ended. -/
theorem ended_of_atRest {p : Pool σ} (h : p.AtRest) (hm : p.config.mode = .pooled) :
    ∀ task ∈ p.tasks, task.isEnded = true := by
  intro task htask
  obtain ⟨i, hi, rfl⟩ := List.mem_iff_getElem.1 htask
  rcases h i _ (List.getElem?_eq_getElem hi) with he | ⟨_, hinline⟩
  · exact he
  · exact nomatch hm.symm.trans hinline

/-- When the thread goes on from its wait, every task has ended. -/
theorem Reachable.ended_of_leaves (h : Reachable config here world [plan] s)
    (hm : config.mode = .pooled) (hs : s.AtBarrier) (hstep : Step s s') (hs' : ¬ s'.AtBarrier) :
    s'.pool = s.pool ∧ ∀ task ∈ s.pool.tasks, task.isEnded = true := by
  obtain ⟨due, batch, aim, hthreads⟩ := hs
  obtain ⟨t', hthreads', htends⟩ := h.single.tends
  obtain rfl := List.singleton_inj.1 (hthreads.symm.trans hthreads')
  have hmode : s.pool.config.mode = .pooled := h.config_eq.symm ▸ hm
  cases hstep with
  | task _ => exact absurd ⟨due, batch, aim, hthreads⟩ hs'
  | @thread c t u q ids e ht hstep =>
    obtain ⟨rfl, rfl⟩ := only_thread hthreads ht
    cases hstep with
    | pass _ | take _ => exact absurd ⟨_, _, _, by rw [hthreads]; rfl⟩ hs'
    | idle hr => exact ⟨rfl, ended_of_atRest (htends.atRest hr rfl rfl) hmode⟩
    | read hr => exact ⟨rfl, ended_of_atRest (htends.atRest hr rfl rfl) hmode⟩

/-! ### Inline mode -/

/-- What the one thread of an inline pool may leave unfinished: its plan is over; or the task that it
submits has unwound, as the thread is about to; or every other task has ended. -/
inductive Trails (p : Pool σ) (t : Thread σ) : Prop where
  | stopped (h : t = .free .stop)
  | unwinding {id : TaskId} {next : TaskId → Plan σ} (h : t = .spawned id next)
    (he : p.ending? id = some true)
  | tidy (h : p.Each fun i task => task.isEnded = true ∨ t.submitting = some i)

theorem Trails.of_ended (h : ∀ task ∈ q.tasks, task.isEnded = true) : Trails q u :=
  .tidy fun _ task htask => .inl (h task (List.mem_of_getElem? htask))

/-- Between two calls of a thread that goes on, every task has ended. -/
theorem Trails.ended {p : Pool σ} (h : Trails p t) (hgoes : t ≠ .free .stop)
    (hs : t.submitting = none) : ∀ task ∈ p.tasks, task.isEnded = true := by
  intro task htask
  cases h with
  | stopped h => exact absurd h hgoes
  | unwinding h _ => rw [h] at hs; exact nomatch hs
  | tidy h =>
    obtain ⟨i, hi⟩ := List.mem_iff_getElem?.1 htask
    refine (h i task hi).resolve_right fun hsome => ?_
    rw [hs] at hsome
    exact nomatch hsome

theorem ending?_of_grows {p : Pool σ} (hg : p.Grows q) {id : TaskId} {unwound : Bool}
    (h : p.ending? id = some unwound) : q.ending? id = some unwound := by
  obtain ⟨task, htask, hended⟩ := Pool.exists_of_ending? (p := p) (i := id) (by rw [h]; rfl)
  have hsame := hg.ended htask hended
  rw [Pool.ending?, htask] at h
  rwa [Pool.ending?, hsame]

/-- Only the task that is being submitted makes steps, and it unwinds when it submits another. -/
theorem Trails.task {p : Pool σ} (h : Trails p t) (hm : p.config.mode = .inline)
    (hlisting : ∀ id, t.listing = some id → ∃ task, p.tasks[id]? = some task ∧ task.stage = .listed)
    {i : TaskId} (hstep : p.step? i = some q) : Trails q t := by
  obtain ⟨task, htask, hkind⟩ := Pool.taskStep_of_step? hstep
  have hg := hkind.grows htask
  cases h with
  | stopped h => exact .stopped h
  | unwinding h he => exact .unwinding h (ending?_of_grows hg he)
  | tidy h =>
    have hnot : task.isEnded = false := by
      obtain ⟨u, hnext, -⟩ := hkind.tasks_eq
      exact hnext.not_ended
    have hid : t.submitting = some i := (h i task htask).resolve_left (by rw [hnot]; exact Bool.false_ne_true)
    obtain ⟨next, rfl⟩ : ∃ next, t = .spawned i next := by
      cases t with
      | spawned id next =>
        cases hid
        exact ⟨next, rfl⟩
      | listed caller id next =>
        cases hid
        obtain ⟨task', htask', hs⟩ := hlisting i rfl
        rw [Pool.step?_listed htask' hs] at hstep
        exact nomatch hstep
      | free _ | waiting _ _ _ | reading _ _ _ _ _ => exact nomatch hid
    cases hkind with
    | submit _ hpooled => exact nomatch hm.symm.trans hpooled
    | abandon _ _ =>
      have hclosed := Pool.getElem?_setTask_self (p := p.release) htask (task.close true)
      exact .unwinding rfl (Pool.ending?_eq (Pool.getElem?_enlist hclosed _) rfl)
    | start _ | find _ _ | refuse _ _ | call _ _ | finish _ | unwind _ | act _ | await _ _ | ask _
    | track _ =>
      refine .tidy fun j other hother => ?_
      rcases getElem?_set_cases hother with ⟨rfl, -⟩ | ⟨-, hother⟩
      · exact .inr rfl
      · exact h j other hother

theorem Trails.thread (h : Trails s.pool t) (hm : s.pool.config.mode = .inline)
    (hstep : ThreadStep s t q u ids e) : Trails q u := by
  cases hstep with
  | enlist =>
    refine .tidy fun i task htask => ?_
    rcases getElem?_concat_cases htask with htask | ⟨rfl, -⟩
    · exact .inl (h.ended (fun h => nomatch h) rfl task (List.mem_of_getElem? htask))
    · exact .inr rfl
  | @spawn caller id next _ =>
    cases h with
    | tidy h =>
      refine .tidy fun i task htask => ?_
      unfold Pool.spawn at htask
      split at htask
      · rcases getElem?_set_cases htask with ⟨rfl, -⟩ | ⟨-, htask⟩
        · exact .inr rfl
        · exact h i task htask
      · exact h i task htask
    | stopped h | unwinding h _ => exact nomatch h
  | conclude _ he =>
    cases h with
    | tidy h =>
      refine .tidy fun i task htask => .inl ((h i task htask).elim id fun hi => ?_)
      cases hi
      obtain ⟨task', htask', hended⟩ := Pool.exists_of_ending? (by rw [he]; rfl)
      rwa [Option.some.inj (htask.symm.trans htask')]
    | stopped h => exact nomatch h
    | unwinding h hunwound =>
      cases h
      exact nomatch he.symm.trans hunwound
  | panic _ | unwind _ _ => exact .stopped rfl
  | track hpooled => exact nomatch hm.symm.trans hpooled
  | act => exact .of_ended (h.ended (fun h => nomatch h) rfl)
  | refuseIdle _ | refuseJoin _ | beginIdle _ | beginJoin _ | pass _ | take _ | idle _ | read _
  | look _ _ | join => exact .of_ended (h.ended (fun h => nomatch h) rfl)

theorem Reachable.trails (h : Reachable config here world [plan] s) (hm : config.mode = .inline) :
    ∃ t, s.threads = [t] ∧ Trails s.pool t := by
  induction h with
  | start => exact ⟨_, rfl, .of_ended fun _ htask => nomatch htask⟩
  | @step s s' hs h ih =>
    obtain ⟨t, hthreads, htrails⟩ := ih
    have hm' : s.pool.config.mode = .inline := hs.config_eq.symm ▸ hm
    cases h with
    | task h =>
      refine ⟨t, hthreads, htrails.task hm' (fun id hid => ?_) h⟩
      exact hs.listing.listed 0 id t (by rw [hthreads]; rfl) hid
    | @thread c t' u q ids e ht h =>
      obtain ⟨rfl, rfl⟩ := only_thread hthreads ht
      exact ⟨u, by rw [hthreads]; rfl, htrails.thread hm' h⟩

/-- When the thread reports, every task has ended, in either mode. -/
theorem Reachable.ended_of_joined (h : Reachable config here world [plan] s) {c : Nat}
    (ht : s.threads[c]? = some t) {due late : List TaskId} {seen : List (Task σ)}
    {answer : Except Failure Report} (hstep : ThreadStep s t q u ids (.joined due late seen answer)) :
    ∀ task ∈ s.pool.tasks, task.isEnded = true := by
  cases hm : config.mode with
  | pooled =>
    obtain ⟨t', hthreads, htends⟩ := h.single.tends
    obtain ⟨-, rfl⟩ := only_thread hthreads ht
    exact ended_of_atRest (htends.joined hstep).1 (h.config_eq.symm ▸ hm)
  | inline =>
    obtain ⟨t', hthreads, htrails⟩ := h.trails hm
    obtain ⟨-, rfl⟩ := only_thread hthreads ht
    cases hstep with
    | join => exact htrails.ended (fun h => nomatch h) rfl

end SharedPool

end NativeBuild
