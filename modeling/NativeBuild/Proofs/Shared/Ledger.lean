import Mathlib
import NativeBuild.Proofs.Pool.Inputs
import NativeBuild.Proofs.Pool.Permits
import NativeBuild.Proofs.Shared.Moves

/-!
Who has had the permits.  Beside a pool a ledger is kept, in which the number of free permits is the
only thing that is looked at: when a step of a task makes it smaller, the task has taken permits,
and when it makes it greater, the task has given permits back.  It then shows that the work of a task is
called with one permit, that the permit comes back when the work returns or unwinds or is given up,
and that a task whose work is not called has never had one.
-/

namespace NativeBuild

/-- How many permits each task has taken, and how many it has given back. -/
structure Ledger where
  taken : TaskId → Nat
  given : TaskId → Nat

namespace Ledger

/-- A ledger without an entry. -/
def blank : Ledger :=
  ⟨fun _ => 0, fun _ => 0⟩

/-- Enter under the number of a task that there were `before` free permits and are `after` now. -/
def enter (l : Ledger) (i : TaskId) (before after : Nat) : Ledger where
  taken := Function.update l.taken i (l.taken i + (before - after))
  given := Function.update l.given i (l.given i + (after - before))

/-- The number of permits that a task holds. -/
def holds (l : Ledger) (i : TaskId) : Nat :=
  l.taken i - l.given i

end Ledger

namespace Task

variable {σ : Type} {p : Pool σ} {t u : Task σ}

/-- Whether the work of a task has been called and has not come to its end. -/
def isCalled (t : Task σ) : Bool :=
  !t.calls.isEmpty && !t.isEnded

/-- The number of calls of a task's work that have come to their end. -/
def returned (t : Task σ) : Nat :=
  if t.isEnded then t.calls.length else 0

/-- A task is at work during the calls that have not come to their end. -/
theorem Accounted.length_calls (h : t.Accounted) :
    t.calls.length = t.returned + t.isWorking.toNat := by
  rcases h with h | h
  · unfold Sound at h
    unfold returned isEnded isWorking
    split at h <;> rename_i hs
    · simp [hs, h.2]
    · simp [hs, h.2]
    · simp [hs, h.2]
    · obtain ⟨-, inputs, hcalls⟩ := h
      simp [hs, hcalls]
    · obtain ⟨-, inputs, hcalls⟩ := h
      simp [hs, hcalls]
    · simp [hs]
  · simp [returned, isWorking, h.stage, h.calls]

theorem Accounted.isCalled_eq (h : t.Accounted) : t.isCalled = t.isWorking := by
  have hcalls := h.length_calls
  cases hw : t.isWorking with
  | true =>
    have hended : t.isEnded = false := by
      unfold isWorking at hw
      unfold isEnded
      split at hw <;> simp_all
    have hne : t.calls ≠ [] := by
      intro hnil
      simp [hnil, hw] at hcalls
    simp [isCalled, hended, hne]
  | false =>
    simp only [isCalled, returned, hw, Bool.toNat_false, Nat.add_zero] at hcalls ⊢
    cases he : t.isEnded with
    | true => simp
    | false => simp_all

theorem Next.calls_cases (h : t.Next p u) :
    u.calls = t.calls ∨ t.isWorking = false ∧ u.isWorking = true := by
  rcases h.called with hcalls | ⟨found, hs, rfl⟩
  · exact .inl hcalls
  · exact .inr ⟨by simp [isWorking, hs], rfl⟩

@[simp] theorem isWorking_drop (t : Task σ) : t.drop.isWorking = false := by
  unfold drop
  split <;> rfl

theorem IsNew.isWorking_eq (h : t.IsNew) : t.isWorking = false := by
  rcases h.stage with hs | hs <;> simp [isWorking, hs]

end Task

/-- A sum over the places of a list that counts some of its members. -/
theorem sum_range_eq_countP {α : Type} {f : Nat → Nat} {g : α → Bool} {xs : List α}
    (h : ∀ (i : Nat) a, xs[i]? = some a → f i = (g a).toNat) :
    ((List.range xs.length).map f).sum = xs.countP g := by
  induction xs using List.reverseRecOn with
  | nil => rfl
  | append_singleton xs a ih =>
    have hlast := h xs.length a List.getElem?_concat_length
    have hrest := ih fun i b hb => h i b (by
      rw [List.getElem?_append_left (List.getElem?_eq_some_iff.1 hb).1, hb])
    simp only [List.length_append, List.length_singleton, List.range_succ, List.map_append,
      List.sum_append, hrest, List.countP_append, List.map_singleton, List.sum_singleton, hlast,
      List.countP_singleton]
    cases g a <;> rfl

namespace Pool

variable {σ : Type} {config : PoolConfig} {here : Path} {world : σ} {p q : Pool σ} {l : Ledger}
  {i j : TaskId} {t u v : Task σ}

/-- What may become of a pool, with the ledger that has been kept.  A thread outside has no number
and enters nothing. -/
inductive History (config : PoolConfig) (here : Path) (world : σ) : Pool σ → Ledger → Prop where
  | start : History config here world (Pool.start config here world) .blank
  | step {p q : Pool σ} {l : Ledger} {i : TaskId} (h : History config here world p l)
    (hq : p.step? i = some q) : History config here world q (l.enter i p.free q.free)
  | drop {p : Pool σ} {l : Ledger} {i : TaskId} {t : Task σ} (h : History config here world p l)
    (ht : p.tasks[i]? = some t) (hs : t.isEnded = false) :
    History config here world (p.drop i t) (l.enter i p.free (p.drop i t).free)
  | touch {p q : Pool σ} {l : Ledger} (h : History config here world p l) (hq : Touch p q) :
    History config here world q l

theorem History.becomes (h : History config here world p l) :
    (Pool.start config here world).Becomes p := by
  induction h with
  | start => exact .refl
  | step _ hq ih => exact ih.tail (.move (.step hq))
  | drop _ ht hs ih => exact ih.tail (.drop ht hs rfl)
  | touch _ hq ih => exact ih.tail (.move (.touch hq))

/-- A ledger can be kept beside every pool in use. -/
theorem Becomes.exists_history (h : (Pool.start config here world).Becomes p) :
    ∃ l, History config here world p l := by
  induction h with
  | refl => exact ⟨_, .start⟩
  | tail _ h ih =>
    obtain ⟨l, hl⟩ := ih
    cases h with
    | move h =>
      cases h with
      | step h => exact ⟨_, hl.step h⟩
      | touch h => exact ⟨_, hl.touch h⟩
    | drop ht hs hq =>
      subst hq
      exact ⟨_, hl.drop ht hs⟩

/-! ### What a change does to the free permits -/

/-- A step makes the free permits fewer by the one that its task comes to hold, or more by the one
that its task ceases to hold. -/
theorem TaskStep.free_eq (h : TaskStep p i t q) (ht : p.tasks[i]? = some t)
    (hu : q.tasks[i]? = some u) :
    q.free + u.isWorking.toNat = p.free + t.isWorking.toNat := by
  have hfree := h.free_add_held ht
  have hcount := countP_set_add Task.isWorking (b := u) ht
  have hi := (List.getElem?_eq_some_iff.1 ht).1
  obtain ⟨v, -, htasks | ⟨new, _, -, hnew, htasks⟩⟩ := h.tasks_eq
  · rw [htasks, List.getElem?_set_self hi] at hu
    cases hu
    rw [held, htasks, held] at hfree
    omega
  · rw [htasks, List.getElem?_append_left (by simpa using hi), List.getElem?_set_self hi] at hu
    cases hu
    rw [held, htasks, List.countP_append, List.countP_singleton, hnew.isWorking_eq, held] at hfree
    simp only [Bool.false_eq_true, if_false] at hfree
    omega

theorem drop_free (p : Pool σ) (i : TaskId) (t : Task σ) :
    (p.drop i t).free = p.free + t.isWorking.toNat := by
  unfold drop
  cases t.isWorking <;> simp

theorem Change.free_add_held (h : Change p q) : q.free + q.held = p.free + p.held := by
  cases h with
  | move h => exact h.free_add_held
  | @drop i t ht _ hq =>
    have hcount := countP_set_add Task.isWorking (b := t.drop) ht
    rw [Task.isWorking_drop, Bool.toNat_false, Nat.add_zero] at hcount
    rw [hq, drop_free, held, drop_tasks, held]
    omega

theorem Becomes.free_add_held (h : (Pool.start config here world).Becomes p) :
    p.free + p.held = config.permits := by
  induction h with
  | refl => rfl
  | tail _ h ih => rw [h.free_add_held, ih]

/-- Any other task is as it was before a step, or it is new. -/
theorem TaskStep.origin_of_ne (h : TaskStep p i t q) (hj : i ≠ j) (hv : q.tasks[j]? = some v) :
    p.tasks[j]? = some v ∨ v.IsNew ∧ p.tasks.length ≤ j := by
  obtain ⟨u, -, htasks | ⟨new, _, -, hnew, htasks⟩⟩ := h.tasks_eq
  · rw [htasks, List.getElem?_set_ne hj] at hv
    exact .inl hv
  · rw [htasks] at hv
    rcases getElem?_concat_cases hv with hv | ⟨rfl, rfl⟩
    · exact .inl (by rwa [List.getElem?_set_ne hj] at hv)
    · exact .inr ⟨hnew, by simp⟩

/-- The number of calls of a task's work that have come to their end; none if there is no such task.
-/
def returned (p : Pool σ) (i : TaskId) : Nat :=
  match p.tasks[i]? with
  | some t => t.returned
  | none => 0

theorem returned_eq (ht : p.tasks[i]? = some t) : p.returned i = t.returned := by
  rw [returned, ht]

theorem returned_eq_zero (ht : p.tasks[i]? = none) : p.returned i = 0 := by
  rw [returned, ht]

/-- Nothing has been called or returned of a task that is as it was, or that is new. -/
theorem books_eq (hlen : p.tasks.length ≤ q.tasks.length)
    (h : ∀ v, q.tasks[j]? = some v → p.tasks[j]? = some v ∨ v.IsNew ∧ p.tasks.length ≤ j) :
    q.calls j = p.calls j ∧ q.returned j = p.returned j := by
  cases hv : q.tasks[j]? with
  | none =>
    have ht : p.tasks[j]? = none := by
      rw [List.getElem?_eq_none_iff] at hv ⊢
      omega
    rw [calls_eq_nil hv, calls_eq_nil ht, returned_eq_zero hv, returned_eq_zero ht]
    exact ⟨rfl, rfl⟩
  | some v =>
    rcases h v hv with ht | ⟨hnew, hj⟩
    · rw [calls_eq hv, calls_eq ht, returned_eq hv, returned_eq ht]
      exact ⟨rfl, rfl⟩
    · have ht : p.tasks[j]? = none := List.getElem?_eq_none_iff.2 hj
      rw [calls_eq hv, calls_eq_nil ht, returned_eq hv, returned_eq_zero ht, Task.returned,
        hnew.calls]
      exact ⟨rfl, ite_self 0⟩

/-- Whether a ledger says of each task how often its work was called, and how often it has come to
its end. -/
def Booked (p : Pool σ) (l : Ledger) : Prop :=
  ∀ i, l.taken i = (p.calls i).length ∧ l.given i = p.returned i

/-- The entry of a change that one task has made, or that has ended it, keeps the ledger right. -/
theorem Booked.enter (h : p.Booked l) (ht : p.tasks[i]? = some t) (hu : q.tasks[i]? = some u)
    (hta : t.Accounted) (hua : u.Accounted) (hs : t.isEnded = false)
    (hcalls : u.calls = t.calls ∨ t.isWorking = false ∧ u.isWorking = true)
    (hfree : q.free + u.isWorking.toNat = p.free + t.isWorking.toNat)
    (hother : ∀ j, i ≠ j → q.calls j = p.calls j ∧ q.returned j = p.returned j) :
    q.Booked (l.enter i p.free q.free) := by
  intro j
  by_cases hij : i = j
  · subst hij
    have hbooks := h i
    have htcalls := hta.length_calls
    have hucalls := hua.length_calls
    have hone := hua.length_calls_le
    have hnone : t.returned = 0 := by simp [Task.returned, hs]
    rw [calls_eq ht, returned_eq ht] at hbooks
    rw [calls_eq hu, returned_eq hu]
    simp only [Ledger.enter, Function.update_self]
    rcases hcalls with hcalls | ⟨htw, huw⟩
    · rw [hcalls] at hucalls ⊢
      omega
    · rw [htw, Bool.toNat_false] at htcalls hfree
      rw [huw, Bool.toNat_true] at hucalls hfree
      omega
  · obtain ⟨hcalls, hreturned⟩ := hother j hij
    simp only [Ledger.enter, Function.update_of_ne (Ne.symm hij), hcalls, hreturned]
    exact h j

theorem Touch.books_eq (h : Touch p q) (j : TaskId) :
    q.calls j = p.calls j ∧ q.returned j = p.returned j := by
  cases h with
  | pass | world _ | track _ | take => exact ⟨rfl, rfl⟩
  | enlist spec body =>
    refine Pool.books_eq (by simp) fun v hv => ?_
    rw [enlist_tasks] at hv
    rcases getElem?_concat_cases hv with hv | ⟨hj, rfl⟩
    · exact .inl hv
    · exact .inr ⟨Task.isNew_fresh spec body, Nat.le_of_eq hj.symm⟩
  | @spawn i t ht hs =>
    by_cases hij : i = j
    · subst hij
      have hu := getElem?_setTask_self ht { t with stage := .created }
      rw [calls_eq hu, calls_eq ht, returned_eq hu, returned_eq ht]
      exact ⟨rfl, by simp [Task.returned, Task.isEnded, hs]⟩
    · refine Pool.books_eq (by simp) fun v hv => .inl ?_
      rwa [setTask_tasks, List.getElem?_set_ne hij] at hv

theorem History.booked (h : History config here world p l) : p.Booked l := by
  induction h with
  | start => exact fun i => ⟨rfl, rfl⟩
  | @step p q l i h hq ih =>
    obtain ⟨t, ht, hstep⟩ := taskStep_of_step? hq
    obtain ⟨u, hu, hnext, -⟩ := hstep.next_at ht
    have hta := h.becomes.of_start i t ht
    refine ih.enter ht hu hta (.inl (hnext.sound (hnext.sound_of_accounted hta))) hnext.not_ended
      hnext.calls_cases (hstep.free_eq ht hu) fun j hij => ?_
    exact Pool.books_eq (hstep.grows ht).length_le fun v => hstep.origin_of_ne hij
  | @drop p l i t h ht hs ih =>
    have hta := h.becomes.of_start i t ht
    have hu : (p.drop i t).tasks[i]? = some t.drop := by
      rw [drop_tasks, List.getElem?_set_self (List.getElem?_eq_some_iff.1 ht).1]
    refine ih.enter ht hu hta (Task.drop_accounted hta hs) hs (.inl (Task.calls_drop t))
      (by simp [drop_free]) fun j hij => Pool.books_eq (by simp) fun v hv => ?_
    rw [drop_tasks, List.getElem?_set_ne hij] at hv
    exact .inl hv
  | @touch p q l h hq ih =>
    intro i
    obtain ⟨hcalls, hreturned⟩ := hq.books_eq i
    rw [hcalls, hreturned]
    exact ih i

/-- The permits that tasks hold by the ledger are those of the tasks at work. -/
theorem Booked.sum_holds (h : p.Booked l) (hp : p.Each fun _ t => t.Accounted) :
    ((List.range p.tasks.length).map l.holds).sum = p.held := by
  refine sum_range_eq_countP fun k t ht => ?_
  obtain ⟨htaken, hgiven⟩ := h k
  have hcalls := (hp k t ht).length_calls
  rw [calls_eq ht] at htaken
  rw [returned_eq ht] at hgiven
  rw [Ledger.holds, htaken, hgiven]
  omega

/-! ### Inputs that are not to be had -/

/-- What a reference gives is what a task that looks for it finds. -/
theorem Gives.pathNow? {ref : PathRef} {path : Path} (h : p.Gives ref path)
    (hp : p.Each fun _ t => t.NamesOutput) : p.pathNow? ref = some (.ok path) := by
  cases h with
  | literal path => rfl
  | @task k t o output ht ho houtput hstrict =>
    have hpath := (hp k t ht o ho).trans houtput
    simp only [Pool.pathNow?, outcome?_eq ht, ho, Option.map_some, outcomePath]
    cases o with
    | completed out =>
      cases hpath
      rfl
    | failed nominal message =>
      cases hpath
      cases hpolicy : p.config.policy with
      | bestEffort => rfl
      | strict => cases hstrict hpolicy

/-- The work of a task is not called before each of its inputs has given a path. -/
theorem Becomes.calls_eq_nil (h : (Pool.start config here world).Becomes p)
    (ht : p.tasks[i]? = some t) {ref : PathRef} (href : ref ∈ t.spec.inputs)
    (hnone : ∀ path, p.pathNow? ref ≠ some (.ok path)) : t.calls = [] := by
  cases hcalls : t.calls with
  | nil => rfl
  | cons inputs rest =>
    have hfed := (h.fed i t ht).calls inputs (by simp [hcalls])
    obtain ⟨k, hk, hkth⟩ := List.getElem_of_mem href
    have hgives := (List.forall₂_iff_get.1 hfed).2 k hk ((List.Forall₂.length_eq hfed) ▸ hk)
    rw [List.get_eq_getElem, hkth] at hgives
    exact absurd (hgives.pathNow? h.namesOutput) (hnone _)

end Pool

namespace SharedPool

variable {σ : Type} {config : PoolConfig} {here : Path} {world : σ} {plans : List (Plan σ)}
  {s : SharedPool σ}

theorem Reachable.becomes (h : Reachable config here world plans s) :
    (Pool.start config here world).Becomes s.pool := by
  induction h with
  | start => exact .refl
  | step hs h ih => exact ih.tail (.move (h.move hs.listing))

end SharedPool

namespace Pool

/-- A ledger can be kept beside every pool in use, whatever threads share it.  In every state, no
more works have been called and have not come to their end than there are permits, and the free
permits and those that tasks hold by the ledger are all the permits there are.  A task has taken one
permit if its work was called, and given it back if the work has returned, unwound or been given up;
it has taken none if its work was not called.  So a task that waits for an input holds none, and one
with an input that is not to be had has never taken one. -/
theorem permits_conserved {σ : Type} (config : PoolConfig) (here : Path) (world : σ) :
    (∀ p, (Pool.start config here world).Becomes p → ∃ l, History config here world p l) ∧
    (∀ plans s, SharedPool.Reachable config here world plans s →
      ∃ l, History config here world s.pool l) ∧
    ∀ p l, History config here world p l →
      p.tasks.countP Task.isCalled ≤ max 1 config.parallelism ∧
      p.free + ((List.range p.tasks.length).map l.holds).sum = max 1 config.parallelism ∧
      ∀ (i : TaskId) t, p.tasks[i]? = some t →
        (t.isCalled = true → l.taken i = 1 ∧ l.given i = 0) ∧
        (t.calls ≠ [] → t.isEnded = true → l.taken i = 1 ∧ l.given i = 1) ∧
        (t.calls = [] → l.taken i = 0 ∧ l.given i = 0) ∧
        (∀ ref ∈ t.spec.inputs, p.pathNow? ref = none → l.holds i = 0) ∧
        ∀ ref ∈ t.spec.inputs, ∀ e, p.pathNow? ref = some (.error e) → l.taken i = 0 := by
  refine ⟨fun p => Becomes.exists_history, fun plans s h => h.becomes.exists_history,
    fun p l h => ?_⟩
  have hp := h.becomes
  have hbound : p.free + p.held = max 1 config.parallelism := hp.free_add_held
  have hcalled : p.tasks.countP Task.isCalled = p.held := by
    refine List.countP_congr fun t ht => ?_
    obtain ⟨i, hi⟩ := List.getElem?_of_mem ht
    rw [(hp.of_start i t hi).isCalled_eq]
  refine ⟨by omega, by rw [h.booked.sum_holds hp.of_start, hbound], fun i t ht => ?_⟩
  obtain ⟨htaken, hgiven⟩ := h.booked i
  rw [calls_eq ht] at htaken
  rw [returned_eq ht] at hgiven
  have hle := (hp.of_start i t ht).length_calls_le
  have hnone (hcalls : t.calls = []) : l.taken i = 0 ∧ l.given i = 0 := by
    simp [htaken, hgiven, Task.returned, hcalls]
  refine ⟨fun hcall => ?_, fun hne hended => ?_, hnone, fun ref href hwait => ?_,
    fun ref href e he => ?_⟩
  · simp only [Task.isCalled, Bool.and_eq_true, Bool.not_eq_true', List.isEmpty_eq_false_iff]
      at hcall
    have := List.length_pos_iff.2 hcall.1
    simp only [Task.returned, hcall.2, Bool.false_eq_true, if_false] at hgiven
    omega
  · have := List.length_pos_iff.2 hne
    simp only [Task.returned, hended, if_true] at hgiven
    omega
  · obtain ⟨h0, -⟩ := hnone (hp.calls_eq_nil ht href fun path => by simp [hwait])
    simp [Ledger.holds, h0]
  · exact (hnone (hp.calls_eq_nil ht href fun path => by simp [he])).1

/-- A task that unwinds, and a task that needs its output. -/
def brokenTasks : List (Task Unit) :=
  [⟨⟨"make", some ⟨['a']⟩, []⟩, fun _ => .unwind,
    .finished (.failed (some ⟨['a']⟩) "task abandoned before finishing"), .ended true, [[]]⟩,
   ⟨⟨"use", none, [.task 0]⟩, fun _ => .done (.ok ()),
    .finished (.failed none
      "input unavailable: task 'make' failed: task abandoned before finishing"), .ended false, []⟩]

/-- The one task takes the only permit and gives it back, and the other one never has it. -/
theorem permits_conserved_broken : ∃ l, History ⟨1, .pooled, .strict⟩ ⟨['/']⟩ ()
      ⟨⟨1, .pooled, .strict⟩, ⟨['/']⟩, 1, (), brokenTasks, []⟩ l ∧
    1 + ((List.range 2).map l.holds).sum = 1 ∧ (l.taken 0 = 1 ∧ l.given 0 = 1) ∧ l.taken 1 = 0 := by
  have listed : History ⟨1, .pooled, .strict⟩ ⟨['/']⟩ () _ _ :=
    .touch .start (.enlist ⟨"make", some ⟨['a']⟩, []⟩ fun _ => .unwind)
  have spawned := listed.touch (.spawn (i := 0) rfl rfl)
  have listed' := spawned.touch (.enlist ⟨"use", none, [.task 0]⟩ fun _ => .done (.ok ()))
  have spawned' := listed'.touch (.spawn (i := 1) rfl rfl)
  have begun := spawned'.step (i := 0) rfl
  have called := begun.step (i := 0) rfl
  have unwound := called.step (i := 0) rfl
  have begun' := unwound.step (i := 1) rfl
  have refused : History ⟨1, .pooled, .strict⟩ ⟨['/']⟩ ()
      ⟨⟨1, .pooled, .strict⟩, ⟨['/']⟩, 1, (), brokenTasks, []⟩ _ := begun'.step (i := 1) rfl
  obtain ⟨-, hsum, htasks⟩ := (permits_conserved ⟨1, .pooled, .strict⟩ ⟨['/']⟩ ()).2.2 _ _ refused
  obtain ⟨-, hmade, -⟩ := htasks 0 _ rfl
  obtain ⟨-, -, -, -, hused⟩ := htasks 1 _ rfl
  exact ⟨_, refused, hsum, hmade (by simp) rfl, hused (.task 0) (by simp) _ rfl⟩

end Pool

end NativeBuild
