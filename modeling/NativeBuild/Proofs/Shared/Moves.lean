import NativeBuild.Proofs.Pool.Progress
import NativeBuild.Proofs.Shared.Basic

/-!
What the steps of threads do to the pool that they share.  A thread that hands a task to the workers
is the only one that can, so every step is a move of the pool.
-/

namespace NativeBuild

/-- The task that a thread has listed and is about to hand to the workers. -/
def Thread.listing {σ : Type} : Thread σ → Option TaskId
  | .listed _ id _ => some id
  | _ => none

namespace SharedPool

variable {σ : Type} {s s' : SharedPool σ}

/-- A task that a thread has listed is with no worker, and no other thread has listed it. -/
structure Listing (s : SharedPool σ) : Prop where
  listed : ∀ (c id : Nat) t, s.threads[c]? = some t → t.listing = some id →
    ∃ task, s.pool.tasks[id]? = some task ∧ task.stage = .listed
  alone : ∀ (c d id : Nat) t u, s.threads[c]? = some t → s.threads[d]? = some u →
    t.listing = some id → u.listing = some id → c = d

/-- Only a thread that lists a task has a task listed after its step. -/
theorem ThreadStep.listing {t u : Thread σ} {q : Pool σ} {ids : List TaskId} {e : Event σ}
    (h : ThreadStep s t q u ids e) {id : TaskId} (hid : u.listing = some id) :
    id = s.pool.tasks.length ∧
      ∃ task, q.tasks[id]? = some task ∧ task.stage = .listed := by
  cases h with
  | enlist =>
    obtain rfl := Option.some.inj hid
    exact ⟨rfl, _, by rw [Pool.enlist_tasks, List.getElem?_concat_length], rfl⟩
  | act | panic _ | spawn _ | track _ | conclude _ _ | unwind _ _ | refuseIdle _ | refuseJoin _
  | beginIdle _ | beginJoin _ | pass _ | take _ | idle _ | read _ | look _ _ | join =>
    exact nomatch hid

/-- A thread's step leaves a task that another thread has listed. -/
theorem ThreadStep.still_listed {t u : Thread σ} {q : Pool σ} {ids : List TaskId} {e : Event σ}
    (h : ThreadStep s t q u ids e) {id : Nat} (hne : t.listing ≠ some id) {task : Task σ}
    (htask : s.pool.tasks[id]? = some task) : q.tasks[id]? = some task := by
  cases h with
  | enlist => exact Pool.getElem?_enlist htask _
  | @spawn _ other _ _ =>
    have hne : other ≠ id := fun heq => hne (congrArg some heq)
    cases ho : s.pool.tasks[other]? with
    | none => rw [Pool.spawn, ho]; exact htask
    | some t =>
      rw [Pool.spawn_eq_setTask ho, Pool.setTask_tasks, List.getElem?_set_ne hne]
      exact htask
  | act | panic _ | track _ | conclude _ _ | unwind _ _ | refuseIdle _ | refuseJoin _
  | beginIdle _ | beginJoin _ | pass _ | take _ | idle _ | read _ | look _ _ | join =>
    exact htask

theorem Listing.step (hl : s.Listing) (h : Step s s') : s'.Listing := by
  cases h with
  | task h =>
    refine ⟨fun c id t ht hid => ?_, hl.alone⟩
    obtain ⟨task, htask, hs⟩ := hl.listed c id t ht hid
    refine ⟨task, Pool.getElem?_step? h ?_ htask, hs⟩
    rintro rfl
    rw [Pool.step?_listed htask hs] at h
    exact nomatch h
  | @thread c t u q ids e ht h =>
    -- A task that another thread has listed is an old one, and this thread has not listed it.
    have other {d id : Nat} {v : Thread σ} (hd : c ≠ d) (hv : s.threads[d]? = some v)
        (hid : v.listing = some id) :
        id < s.pool.tasks.length ∧ ∃ task, q.tasks[id]? = some task ∧ task.stage = .listed := by
      obtain ⟨task, htask, hs⟩ := hl.listed d id v hv hid
      refine ⟨(List.getElem?_eq_some_iff.1 htask).1, task, h.still_listed ?_ htask, hs⟩
      exact fun htid => hd (hl.alone c d id t v ht hv htid hid)
    constructor
    · intro d id v hv hid
      rcases getElem?_set_cases hv with ⟨rfl, rfl⟩ | ⟨hd, hv⟩
      · exact (h.listing hid).2
      · exact (other hd hv hid).2
    · intro d d' id v v' hv hv' hid hid'
      rcases getElem?_set_cases hv with ⟨rfl, rfl⟩ | ⟨hd, hv⟩
      · rcases getElem?_set_cases hv' with ⟨hd', _⟩ | ⟨hd', hv'⟩
        · exact hd'
        · exact absurd (h.listing hid).1 (Nat.ne_of_lt (other hd' hv' hid').1)
      · rcases getElem?_set_cases hv' with ⟨rfl, rfl⟩ | ⟨_, hv'⟩
        · exact absurd (h.listing hid').1 (Nat.ne_of_lt (other hd hv hid).1)
        · exact hl.alone d d' id v v' hv hv' hid hid'

theorem Reachable.listing {config : PoolConfig} {here : Path} {world : σ} {plans : List (Plan σ)}
    (h : Reachable config here world plans s) : s.Listing := by
  induction h with
  | start =>
    have none (c : Nat) (t : Thread σ) (ht : (plans.map Thread.free)[c]? = some t) :
        t.listing = none := by
      obtain ⟨plan, _, rfl⟩ := List.mem_map.1 (List.mem_of_getElem? ht)
      rfl
    refine ⟨fun c id t ht hid => ?_, fun c d id t u ht _ hid _ => ?_⟩
    · rw [none c t ht] at hid; exact nomatch hid
    · rw [none c t ht] at hid; exact nomatch hid
  | step _ h ih => exact ih.step h

/-- What a thread does to the pool is what a thread outside may do. -/
theorem ThreadStep.touch (hl : s.Listing) {c : Nat} {t u : Thread σ} {q : Pool σ}
    {ids : List TaskId} {e : Event σ} (ht : s.threads[c]? = some t)
    (h : ThreadStep s t q u ids e) : Pool.Touch s.pool q := by
  cases h with
  | act => exact .world _
  | enlist => exact .enlist _ _
  | spawn _ =>
    obtain ⟨task, htask, hs⟩ := hl.listed c _ _ ht rfl
    rw [Pool.spawn_eq_setTask htask]
    exact .spawn htask hs
  | track _ => exact .track _
  | take _ => exact .take
  | panic _ | conclude _ _ | unwind _ _ | refuseIdle _ | refuseJoin _ | beginIdle _ | beginJoin _
  | pass _ | idle _ | read _ | look _ _ | join => exact .pass

theorem Step.move (hl : s.Listing) (h : Step s s') : Pool.Move s.pool s'.pool := by
  cases h with
  | task h => exact .step h
  | thread ht h => exact .touch (h.touch hl ht)

theorem Reachable.sound {config : PoolConfig} {here : Path} {world : σ} {plans : List (Plan σ)}
    (h : Reachable config here world plans s) : s.pool.Each fun _ t => t.Sound := by
  induction h with
  | start => exact .start config here world
  | step hs h ih => exact (h.move hs.listing).sound ih

theorem Reachable.config_eq {config : PoolConfig} {here : Path} {world : σ}
    {plans : List (Plan σ)} (h : Reachable config here world plans s) : s.pool.config = config := by
  induction h with
  | start => rfl
  | step hs h ih => exact (h.move hs.listing).config_eq.trans ih

theorem Reachable.here_eq {config : PoolConfig} {here : Path} {world : σ} {plans : List (Plan σ)}
    (h : Reachable config here world plans s) : s.pool.here = here := by
  induction h with
  | start => rfl
  | step hs h ih => exact (h.move hs.listing).here_eq.trans ih

end SharedPool

end NativeBuild
