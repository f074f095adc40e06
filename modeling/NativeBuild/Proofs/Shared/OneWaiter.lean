import NativeBuild.Proofs.Shared.Barrier

/-!
Pools on which only one thread waits from outside.  The waits that others ask for are made inside
the runtime and refused, and a refused wait takes nothing from the list of running tasks; so where
the one thread ceases to wait, all has ended that it had to wait for.
-/

namespace NativeBuild

/-- Whether all of the waits for all tasks that a thread asks for are made inside the runtime. -/
inductive Plan.NeverWaits {σ : Type} : Plan σ → Prop where
  | stop : NeverWaits .stop
  | act {effect : σ → σ} {next : Plan σ} (h : NeverWaits next) : NeverWaits (.act effect next)
  | submit {caller : Caller} {spec : TaskSpec} {body : List Path → Work σ} {next : TaskId → Plan σ}
    (h : ∀ id, NeverWaits (next id)) : NeverWaits (.submit caller spec body next)
  | waitIdle {next : Except Failure Unit → Plan σ} (h : ∀ r, NeverWaits (next r)) :
    NeverWaits (.waitIdle .inside next)
  | joinAll {next : Except Failure Report → Plan σ} (h : ∀ r, NeverWaits (next r)) :
    NeverWaits (.joinAll .inside next)

/-- Whether a thread neither waits nor reads, and never will. -/
def Thread.NeverWaits {σ : Type} : Thread σ → Prop
  | .free plan => plan.NeverWaits
  | .listed _ _ next | .spawned _ next => ∀ id, (next id).NeverWaits
  | .waiting _ _ _ | .reading _ _ _ _ _ => False

/-- What the end of a wait is to mean in the pool `p`: that every task in `due` has finished, and
that a report tells of each of them the outcome that it has. -/
def Event.IsComplete {σ : Type} (p : Pool σ) : Event σ → Prop
  | .quiet => True
  | .idled due _ => ∀ k ∈ due, (p.outcome? k).isSome = true
  | .joined due _ seen answer => answer = { p with tasks := seen }.verdict ∧
    ∀ k ∈ due, ∃ task o, p.tasks[k]? = some task ∧ seen[k]? = some task ∧ task.outcome? = some o

namespace SharedPool

variable {σ : Type} {s s' : SharedPool σ} {c : Nat} {t u : Thread σ} {q : Pool σ} {ids : List TaskId}
  {e : Event σ} {config : PoolConfig} {here : Path} {world : σ} {plans : List (Plan σ)}

theorem ThreadStep.neverWaits (h : ThreadStep s t q u ids e) (ht : t.NeverWaits) :
    u.NeverWaits := by
  cases h with
  | act =>
    cases ht with
    | act h => exact h
  | enlist =>
    cases ht with
    | submit h => exact h
  | panic _ | unwind _ _ => exact .stop
  | spawn _ => exact ht
  | track _ | conclude _ _ => exact ht _
  | refuseIdle _ =>
    cases ht with
    | waitIdle h => exact h _
  | refuseJoin _ =>
    cases ht with
    | joinAll h => exact h _
  | beginIdle h | beginJoin h =>
    cases ht
    exact nomatch h
  | pass _ | take _ | idle _ | read _ | look _ _ | join => exact ht.elim

theorem batch_of_neverWaits (ht : t.NeverWaits) : t.batch = [] := by
  cases t with
  | free _ | listed _ _ _ | spawned _ _ => rfl
  | waiting _ _ _ | reading _ _ _ _ _ => exact ht.elim

/-- The thread `c` is the only one that waits, and when it ceased to wait it found nothing late. -/
structure OneWaiter (s : SharedPool σ) (c : Nat) : Prop where
  others : ∀ d t, d ≠ c → s.threads[d]? = some t → t.NeverWaits
  punctual : ∀ due late count seen next,
    s.threads[c]? = some (.reading due late count seen next) → late = []

namespace OneWaiter

/-- When the only thread that waits has no task left to wait for, no thread has one. -/
theorem batch_eq_nil (h : s.OneWaiter c) (ht : s.threads[c]? = some t) (hb : t.batch = []) :
    ∀ v ∈ s.threads, v.batch = [] := by
  intro v hv
  obtain ⟨d, hv⟩ := List.mem_iff_getElem?.1 hv
  by_cases hd : d = c
  · subst hd
    obtain rfl := Option.some.inj (ht.symm.trans hv)
    exact hb
  · exact batch_of_neverWaits (h.others d v hd hv)

theorem step (h : s.OneWaiter c) (hstep : Step s s') : s'.OneWaiter c := by
  cases hstep with
  | task _ => exact ⟨h.others, h.punctual⟩
  | @thread d t u q ids e ht hstep =>
    constructor
    · intro d' v hd' hv
      rcases getElem?_set_cases hv with ⟨rfl, rfl⟩ | ⟨_, hv⟩
      · exact hstep.neverWaits (h.others _ t hd' ht)
      · exact h.others d' v hd' hv
    · intro due late count seen next hv
      rcases getElem?_set_cases hv with ⟨rfl, rfl⟩ | ⟨_, hv⟩
      · cases hstep with
        | read _ => exact late_eq_nil (h.batch_eq_nil ht rfl) due
        | look _ _ => exact h.punctual _ _ _ _ _ ht
      · exact h.punctual _ _ _ _ _ hv

end OneWaiter

theorem exists_plan_of_start {d : Nat} (ht : (start config here world plans).threads[d]? = some t) :
    ∃ plan, plans[d]? = some plan ∧ .free plan = t := by
  rw [start, List.getElem?_map] at ht
  exact Option.map_eq_some_iff.1 ht

theorem Reachable.oneWaiter (h : Reachable config here world plans s)
    (hothers : ∀ d plan, d ≠ c → plans[d]? = some plan → plan.NeverWaits) : s.OneWaiter c := by
  induction h with
  | start =>
    constructor
    · intro d t hd ht
      obtain ⟨plan, hplan, rfl⟩ := exists_plan_of_start ht
      exact hothers d plan hd hplan
    · intro due late count seen next ht
      obtain ⟨plan, _, hfree⟩ := exists_plan_of_start ht
      exact nomatch hfree
  | step _ hstep ih => exact ih.step hstep

/-- What a thread concludes when it ceases to wait holds if no other thread waits: all that had been
submitted before its call has finished, and a report counts it with the outcome that it has. -/
theorem Reachable.complete (h : Reachable config here world plans s)
    (hothers : ∀ d plan, d ≠ c → plans[d]? = some plan → plan.NeverWaits)
    (ht : s.threads[c]? = some t) (hstep : ThreadStep s t q u ids e) : e.IsComplete s.pool := by
  have hone := h.oneWaiter hothers
  have hrelies := h.relies c t ht
  cases hstep with
  | idle hr =>
    have hbatch := hone.batch_eq_nil ht rfl
    exact (h.finished_iff fun k hk => h.kept hr (hrelies hk)).2 (late_eq_nil hbatch _)
  | join =>
    -- Nothing was late when the thread began to read, so each task was read after it had ended.
    refine ⟨rfl, fun k hk => ?_⟩
    obtain rfl := hone.punctual _ _ _ _ _ ht
    obtain ⟨hlt, task, htask, hended, hseen⟩ := (hrelies k hk).2 List.not_mem_nil
    obtain ⟨o, ho⟩ := Option.isSome_iff_exists.1
      ((h.sound k task htask).outcome?_isSome.trans hended)
    have hread := List.getElem?_eq_getElem hlt
    exact ⟨task, o, htask, hseen _ hread ▸ hread, ho⟩
  | act | enlist | panic _ | spawn _ | track _ | conclude _ _ | unwind _ _ | refuseIdle _
  | refuseJoin _ | beginIdle _ | beginJoin _ | pass _ | take _ | read _ | look _ _ => trivial

end SharedPool

end NativeBuild
