import NativeBuild.Proofs.Pool.Drop
import NativeBuild.Proofs.Shared.Barrier
import NativeBuild.Proofs.Shared.Run

/-!
What a single thread that submits and reports comes to know.  A task that has not ended is in the
list of running tasks, or the thread waits for it or is just submitting it, or a task before it is
about to put it into the list.  So when the thread reports, nothing is on its way any more, and a task
without an outcome is one that was given up before a worker had begun with it.
-/

namespace NativeBuild

/-- The task that a thread is submitting. -/
def Thread.submitting {σ : Type} : Thread σ → Option TaskId
  | .listed _ id _ | .spawned id _ => some id
  | _ => none

/-- A task that was given up, or left behind by a submission that panicked, before a worker had begun
with it. -/
def Task.Unbegun {σ : Type} (t : Task σ) : Prop :=
  t.Lost ∨ t.stage = .listed

namespace SharedPool

variable {σ : Type} {s s' : SharedPool σ} {t u : Thread σ} {p q : Pool σ} {ids : List TaskId}
  {e : Event σ} {config : PoolConfig} {here : Path} {world : σ}

/-- What a single thread can bring about.  A panic that leaves a submission ends a plan, and whoever
catches it goes on with another one.  A task that the workers have may be given up at any time, but
not by a task that is just about to record it as running. -/
inductive Single (config : PoolConfig) (here : Path) (world : σ) : SharedPool σ → Prop where
  | start (plan : Plan σ) : Single config here world (start config here world [plan])
  | step {s s' : SharedPool σ} (hs : Single config here world s) (h : Step s s') :
    Single config here world s'
  | resume {p : Pool σ} {returned : List TaskId}
    (hs : Single config here world (alone p (.free .stop) returned)) (plan : Plan σ) :
    Single config here world (alone p (.free plan) returned)
  | drop {s : SharedPool σ} {i : TaskId} {task : Task σ} (hs : Single config here world s)
    (htask : s.pool.tasks[i]? = some task) (hspawned : task.isSpawned = true)
    (hended : task.isEnded = false) (htracking : ∀ k w, task.stage ≠ .tracking k w) :
    Single config here world { s with pool := s.pool.drop i task }

/-- Everything that a single thread brings about without a panic or a loss is among that. -/
theorem Reachable.single {plan : Plan σ} (h : Reachable config here world [plan] s) :
    Single config here world s := by
  induction h with
  | start => exact .start plan
  | step _ h ih => exact ih.step h

theorem Single.listing (h : Single config here world s) : s.Listing := by
  induction h with
  | start plan =>
    have started : Reachable config here world [plan] (SharedPool.start config here world [plan]) :=
      .start
    exact started.listing
  | step _ h ih => exact ih.step h
  | resume _ plan _ =>
    refine ⟨fun c id t ht hid => ?_, fun c d id t u ht _ hid _ => ?_⟩
    · rw [List.mem_singleton.1 (List.mem_of_getElem? ht)] at hid
      exact nomatch hid
    · rw [List.mem_singleton.1 (List.mem_of_getElem? ht)] at hid
      exact nomatch hid
  | @drop s i task _ htask hspawned _ _ ih =>
    refine ⟨fun c id t ht hid => ?_, ih.alone⟩
    obtain ⟨other, hother, hs⟩ := ih.listed c id t ht hid
    have hne : i ≠ id := by
      rintro rfl
      obtain rfl := Option.some.inj (htask.symm.trans hother)
      simp [Task.isSpawned, hs] at hspawned
    exact ⟨other, by rw [Pool.drop_tasks, List.getElem?_set_ne hne]; exact hother, hs⟩

theorem Single.becomes (h : Single config here world s) :
    (Pool.start config here world).Becomes s.pool := by
  induction h with
  | start plan => exact .refl
  | step hs h ih => exact ih.tail (.move (h.move hs.listing))
  | resume _ _ ih => exact ih
  | drop _ htask _ hended _ ih => exact ih.tail (.drop htask hended rfl)

end SharedPool

namespace Pool

variable {σ : Type} {p q : Pool σ}

/-- Whether no task can go on: each has ended, or is one that in inline mode no worker gets. -/
def AtRest (p : Pool σ) : Prop :=
  p.Each fun _ task => task.isEnded = true ∨ task.stage = .listed ∧ p.config.mode = .inline

theorem AtRest.step? (h : p.AtRest) (i : TaskId) : p.step? i = none := by
  cases hstep : p.step? i with
  | none => rfl
  | some q =>
    obtain ⟨task, htask, hkind⟩ := taskStep_of_step? hstep
    rcases h i task htask with hended | ⟨hs, _⟩
    · obtain ⟨u, hnext, _⟩ := hkind.tasks_eq
      rw [hnext.not_ended] at hended
      exact nomatch hended
    · rw [step?_listed htask hs] at hstep
      exact nomatch hstep

end Pool

namespace Thread

variable {σ : Type} {p q : Pool σ} {t u : Thread σ}

/-- Where a task is, as the one thread `t` of a pool finds it. -/
inductive Minds (p : Pool σ) (t : Thread σ) (k : TaskId) : Prop where
  | ended (h : (p.ending? k).isSome = true)
  | listed {task : Task σ} (htask : p.tasks[k]? = some task) (hs : task.stage = .listed)
    (hm : p.config.mode = .inline)
  | running (h : k ∈ p.running)
  | batch (h : k ∈ t.batch)
  | submitting (h : t.submitting = some k)
  | tracked {j : TaskId} {task : Task σ} {w : Work σ} (hj : j < k)
    (htask : p.tasks[j]? = some task) (hs : task.stage = .tracking k w)

/-- What a thread knows while it reads the tasks: none of them can go on, and what it has seen of
them is as they are. -/
def Reads (p : Pool σ) : Thread σ → Prop
  | .reading _ _ count seen _ =>
    p.AtRest ∧ count = p.tasks.length ∧ seen.length ≤ count ∧ seen = p.tasks.take seen.length
  | _ => True

/-- What holds of a pool and of the one thread that has it. -/
structure Tends (p : Pool σ) (t : Thread σ) : Prop where
  minds : ∀ k < p.tasks.length, t.Minds p k
  reads : t.Reads p

/-- When the thread is not submitting, waits for no task and finds no task running, no task can go on. -/
theorem Tends.atRest (h : t.Tends p) (hr : p.running = []) (hb : t.batch = [])
    (hs : t.submitting = none) : p.AtRest := by
  intro k task htask
  induction k using Nat.strongRecOn generalizing task with
  | ind k ih =>
  cases h.minds k (List.getElem?_eq_some_iff.1 htask).1 with
  | ended hended =>
    obtain ⟨task', htask', hended⟩ := Pool.exists_of_ending? hended
    obtain rfl := Option.some.inj (htask.symm.trans htask')
    exact .inl hended
  | listed htask' hstage hm =>
    obtain rfl := Option.some.inj (htask.symm.trans htask')
    exact .inr ⟨hstage, hm⟩
  | running hk => rw [hr] at hk; cases hk
  | batch hk => rw [hb] at hk; cases hk
  | submitting hk => rw [hs] at hk; cases hk
  | tracked hj htask' hstage =>
    -- The task that is about to record `k` would be at work, but those before `k` are at rest.
    rcases ih _ hj _ htask' with hended | ⟨hlisted, _⟩
    · simp [Task.isEnded, hstage] at hended
    · rw [hlisted] at hstage
      cases hstage

/-- What a thread minds depends on what it waits for and on what it submits. -/
theorem Minds.of_eq {k : TaskId} (h : t.Minds p k) (hb : t.batch = u.batch)
    (hs : t.submitting = u.submitting) : u.Minds p k := by
  cases h with
  | ended h => exact .ended h
  | listed htask hs hm => exact .listed htask hs hm
  | running h => exact .running h
  | batch h => exact .batch (hb ▸ h)
  | submitting h => exact .submitting (hs ▸ h)
  | tracked hj htask hs => exact .tracked hj htask hs

/-- A thread still minds a task when the pool has changed, if the tasks that no worker has and those
that are about to record another one have stayed as they were. -/
theorem Minds.grows {k : TaskId} (h : t.Minds p k) (hg : p.Grows q)
    (hm : q.config = p.config) (hrunning : p.running ⊆ q.running)
    (hlisted : ∀ task, p.tasks[k]? = some task → task.stage = .listed → q.tasks[k]? = some task)
    (htracking : ∀ (j : TaskId) task w, p.tasks[j]? = some task → task.stage = .tracking k w →
      q.tasks[j]? = some task ∨ k ∈ q.running) : t.Minds q k := by
  cases h with
  | ended h => exact .ended (hg.ending?_isSome h)
  | listed htask hs hmode => exact .listed (hlisted _ htask hs) hs (hm ▸ hmode)
  | running h => exact .running (hrunning h)
  | batch h => exact .batch h
  | submitting h => exact .submitting h
  | tracked hj htask hs =>
    rcases htracking _ _ _ htask hs with htask' | hrunning
    · exact .tracked hj htask' hs
    · exact .running hrunning

/-- A step of a task leaves a thread with what it minds. -/
theorem Tends.task (h : t.Tends p) {i : TaskId} (hstep : p.step? i = some q) : t.Tends q := by
  obtain ⟨task, htask, hkind⟩ := Pool.taskStep_of_step? hstep
  have hold (k : TaskId) (hk : k < p.tasks.length) : t.Minds q k := by
    refine (h.minds k hk).grows (hkind.grows htask) hkind.config_eq (Pool.step?_running hstep)
      (fun other hother hs => ?_) fun j other w hother hs => ?_
    · refine Pool.getElem?_step? hstep ?_ hother
      rintro rfl
      rw [Pool.step?_listed hother hs] at hstep
      exact nomatch hstep
    · by_cases hij : i = j
      · subst hij
        obtain rfl := Option.some.inj (htask.symm.trans hother)
        exact .inr (Pool.step?_returning hstep (by simp [SharedPool.returning, htask, hs]))
      · exact .inl (Pool.getElem?_step? hstep hij hother)
  have hi := (List.getElem?_eq_some_iff.1 htask).1
  refine ⟨fun k hk => ?_, ?_⟩
  · by_cases hlt : k < p.tasks.length
    · exact hold k hlt
    · -- A new task is about to be recorded by the one that has submitted it, or is left behind.
      have hge := Nat.le_of_not_lt hlt
      cases hkind with
      | @submit spec body next hs hm =>
        have hk' : k = p.tasks.length := by simp at hk; omega
        subst hk'
        have hu := Pool.getElem?_setTask_self htask
          { task with stage := .tracking p.tasks.length (next p.tasks.length) }
        exact .tracked hi (Pool.getElem?_enlist hu _) rfl
      | @abandon spec body _ hs hm =>
        have hk' : k = p.tasks.length := by simp at hk; omega
        subst hk'
        have hnew := Pool.getElem?_enlist_new (p.release.setTask i (task.close true))
          (Task.fresh spec body)
        simp only [Pool.setTask_tasks, Pool.release_tasks, List.length_set] at hnew
        exact .listed hnew rfl hm
      | start _ | find _ _ | refuse _ _ | call _ _ | finish _ | unwind _ | act _ | await _ _ | ask _
      | track _ =>
        simp at hk
        omega
  · cases t with
    | reading due late count seen next =>
      rw [h.reads.1.step?] at hstep
      exact nomatch hstep
    | free _ | listed _ _ _ | spawned _ _ | waiting _ _ _ => trivial

/-- A thread that has submitted a task minds it when the submission is over, and while it goes on. -/
theorem minds_of_submitting {s : SharedPool σ} {ids : List TaskId} {e : Event σ} (hl : s.Listing)
    {c : Nat} (ht : s.threads[c]? = some t) (hstep : SharedPool.ThreadStep s t q u ids e)
    {k : TaskId} (hk : t.submitting = some k) : u.Minds q k := by
  cases hstep with
  | panic hm =>
    obtain ⟨task, htask, hs⟩ := hl.listed c k _ ht hk
    exact .listed htask hs hm
  | spawn _ => exact .submitting hk
  | track _ =>
    obtain rfl := Option.some.inj hk
    exact .running (List.mem_append_right _ (List.mem_singleton.2 rfl))
  | conclude _ he | unwind _ he =>
    obtain rfl := Option.some.inj hk
    exact .ended (by rw [he]; rfl)
  | act | enlist | refuseIdle _ | refuseJoin _ | beginIdle _ | beginJoin _ | pass _ | take _ | idle _
  | read _ | look _ _ | join => exact nomatch hk

/-- A step of the thread leaves it with what it minds. -/
theorem Tends.act {s : SharedPool σ} {ids : List TaskId} {e : Event σ} (hl : s.Listing) {c : Nat}
    (ht : s.threads[c]? = some t) (h : t.Tends s.pool)
    (hstep : SharedPool.ThreadStep s t q u ids e) : u.Tends q := by
  have htouch := hstep.touch hl ht
  have hconfig : q.config = s.pool.config := (Pool.Move.touch htouch).config_eq
  refine ⟨fun k hk => ?_, ?_⟩
  · by_cases hlt : k < s.pool.tasks.length
    · -- A task is minded in the way it was, or in the next one: listed, submitted, in the list, taken.
      cases h.minds k hlt with
      | ended he => exact .ended (htouch.grows.ending?_isSome he)
      | @listed task htask hs hm =>
        by_cases hlisting : t.listing = some k
        · refine minds_of_submitting hl ht hstep ?_
          cases t with
          | listed caller id next => exact hlisting
          | free _ | spawned _ _ | waiting _ _ _ | reading _ _ _ _ _ => exact nomatch hlisting
        · exact .listed (hstep.still_listed hlisting htask) hs (hconfig ▸ hm)
      | running hr => exact (hstep.of_running hr).elim .running .batch
      | batch hb =>
        exact (hstep.of_batch hb).elim (fun he => .ended (htouch.grows.ending?_isSome he)) .batch
      | submitting hs => exact minds_of_submitting hl ht hstep hs
      | @tracked j task w hj htask hs =>
        refine .tracked hj (hstep.still_listed (fun hlisting => ?_) htask) hs
        obtain ⟨task', htask', hs'⟩ := hl.listed c j t ht hlisting
        obtain rfl := Option.some.inj (htask.symm.trans htask')
        rw [hs] at hs'
        exact nomatch hs'
    · cases hstep with
      | enlist =>
        have hk' : k = s.pool.tasks.length := by simp at hk; omega
        exact .submitting (congrArg some hk'.symm)
      | spawn _ => exact absurd (by rwa [Pool.length_spawn] at hk) hlt
      | act | panic _ | track _ | conclude _ _ | unwind _ _ | refuseIdle _ | refuseJoin _
      | beginIdle _ | beginJoin _ | pass _ | take _ | idle _ | read _ | look _ _ | join =>
        exact absurd hk hlt
  · cases hstep with
    | read hr => exact ⟨h.atRest hr rfl rfl, rfl, Nat.zero_le _, rfl⟩
    | @look due late count seen read next hlt hread =>
      obtain ⟨hrest, rfl, _, hseen⟩ := h.reads
      refine ⟨hrest, rfl, by rw [List.length_append]; exact hlt, ?_⟩
      rw [List.length_append, List.length_singleton, List.take_add_one, ← hseen, hread]
      rfl
    | act | enlist | panic _ | spawn _ | track _ | conclude _ _ | unwind _ _ | refuseIdle _
    | refuseJoin _ | beginIdle _ | beginJoin _ | pass _ | take _ | idle _ | join => trivial

/-- When the thread reports, no task can go on, and the report is on all tasks as they are. -/
theorem Tends.joined {s : SharedPool σ} {ids due late : List TaskId} {seen : List (Task σ)}
    {answer : Except Failure Report} (h : t.Tends s.pool)
    (hstep : SharedPool.ThreadStep s t q u ids (.joined due late seen answer)) :
    s.pool.AtRest ∧ seen = s.pool.tasks ∧ answer = s.pool.verdict := by
  cases hstep with
  | join =>
    obtain ⟨hrest, hcount, _, hseen⟩ := h.reads
    rw [hcount, List.take_length] at hseen
    exact ⟨hrest, hseen, by rw [hseen]⟩

theorem Tends.start (plan : Plan σ) (config : PoolConfig) (here : Path) (world : σ) :
    (Thread.free plan).Tends (Pool.start config here world) :=
  ⟨fun _ hk => absurd hk (Nat.not_lt_zero _), trivial⟩

/-- A task that the workers had and that is given up is one that has ended. -/
theorem Tends.drop (h : t.Tends p) {i : TaskId} {task : Task σ} (htask : p.tasks[i]? = some task)
    (hspawned : task.isSpawned = true) (hended : task.isEnded = false)
    (htracking : ∀ k w, task.stage ≠ .tracking k w) : t.Tends (p.drop i task) := by
  have hchange : Pool.Change p (p.drop i task) := .drop htask hended rfl
  have hlen : (p.drop i task).tasks.length = p.tasks.length := by simp
  have hother {j : TaskId} {other : Task σ} (hne : i ≠ j) (hj : p.tasks[j]? = some other) :
      (p.drop i task).tasks[j]? = some other := by
    rw [Pool.drop_tasks, List.getElem?_set_ne hne, hj]
  have hrunning : (p.drop i task).running = p.running := by
    unfold Pool.drop
    split <;> rfl
  refine ⟨fun k hk => ?_, ?_⟩
  · refine (h.minds k (hlen ▸ hk)).grows hchange.grows hchange.config_eq
      (by rw [hrunning]; exact List.Subset.refl _) (fun other ho hs => hother ?_ ho)
      fun j other w ho hs => .inl (hother ?_ ho)
    · rintro rfl
      obtain rfl := Option.some.inj (htask.symm.trans ho)
      simp [Task.isSpawned, hs] at hspawned
    · rintro rfl
      obtain rfl := Option.some.inj (htask.symm.trans ho)
      exact htracking _ _ hs
  · cases t with
    | reading due late count seen next =>
      rcases h.reads.1 i task htask with he | ⟨hs, _⟩
      · rw [he] at hended
        cases hended
      · simp [Task.isSpawned, hs] at hspawned
    | free _ | listed _ _ _ | spawned _ _ | waiting _ _ _ => trivial

end Thread

namespace SharedPool

variable {σ : Type} {s s' : SharedPool σ} {t u : Thread σ} {q : Pool σ} {ids : List TaskId}
  {e : Event σ} {config : PoolConfig} {here : Path} {world : σ}

theorem Single.tends (h : Single config here world s) :
    ∃ t, s.threads = [t] ∧ t.Tends s.pool := by
  induction h with
  | start plan => exact ⟨.free plan, rfl, .start plan config here world⟩
  | @step s s' hs h ih =>
    obtain ⟨t, hthreads, htends⟩ := ih
    cases h with
    | task h => exact ⟨t, hthreads, htends.task h⟩
    | @thread c t' u q ids e ht h =>
      obtain rfl : t' = t := by
        have hmem := List.mem_of_getElem? ht
        rw [hthreads] at hmem
        exact List.mem_singleton.1 hmem
      have hc : c < 1 := by
        have := (List.getElem?_eq_some_iff.1 ht).1
        rwa [hthreads] at this
      obtain rfl : c = 0 := by omega
      exact ⟨u, by rw [hthreads]; rfl, htends.act hs.listing ht h⟩
  | resume _ plan ih =>
    obtain ⟨t, hthreads, htends⟩ := ih
    obtain rfl := List.singleton_inj.1 hthreads
    exact ⟨.free plan, rfl, fun k hk => (htends.minds k hk).of_eq rfl rfl, trivial⟩
  | drop _ htask hspawned hended htracking ih =>
    obtain ⟨t, hthreads, htends⟩ := ih
    exact ⟨t, hthreads, htends.drop htask hspawned hended htracking⟩

end SharedPool

end NativeBuild
