import Mathlib.Logic.Relation
import NativeBuild.Proofs.Pool.Moves

/-!
Tasks that the workers give up.  What guards a task comes to be when a worker first takes it up, and
records a loss when the task is given up; a task that is given up before that leaves no outcome.
-/

namespace NativeBuild

namespace Task

variable {σ : Type} {p : Pool σ} {t u : Task σ}

/-- Whether a worker has begun with a task and not ended it.  The task's guard exists just then. -/
def isGuarded (t : Task σ) : Bool :=
  match t.stage with
  | .gathering _ _ | .working _ | .tracking _ _ => true
  | _ => false

/-- A task that is given up.  Its guard, if there is one, records the loss. -/
def drop (t : Task σ) : Task σ :=
  if t.isGuarded then t.close true else { t with stage := .ended true }

/-- A task that was given up before a worker had begun with it. -/
structure Lost (t : Task σ) : Prop where
  stage : t.stage = .ended true
  state : t.state = .pending
  calls : t.calls = []

/-- A task whose parts agree, or that was given up too early for that. -/
def Accounted (t : Task σ) : Prop :=
  t.Sound ∨ t.Lost

theorem Lost.outcome? (h : t.Lost) : t.outcome? = none := by
  rw [Task.outcome?, h.state]
  rfl

/-- A task that has ended makes no step. -/
theorem Next.not_ended (h : t.Next p u) : t.isEnded = false := by
  cases h with
  | spawn hs | start hs | find hs _ | refuse hs _ | call hs | finish hs | unwind hs | act hs _
  | await hs | ask hs _ | submit hs _ | abandon hs | track hs => simp [isEnded, hs]

theorem Lost.isEnded (h : t.Lost) : t.isEnded = true := by
  simp [Task.isEnded, h.stage]

theorem Next.sound_of_accounted (h : t.Next p u) (ht : t.Accounted) : t.Sound := by
  rcases ht with ht | ht
  · exact ht
  · have := h.not_ended
    rw [ht.isEnded] at this
    exact nomatch this

/-- A guard's record is the outcome of a task that was given up at work or on the way there, and a
task that no worker had begun with is lost. -/
theorem drop_cases (ht : t.Sound) (hs : t.isEnded = false) :
    t.isGuarded = true ∧ t.drop = t.close true ∧ t.drop.Sound ∧
        t.drop.state = .finished t.abandonment ∨
      t.isGuarded = false ∧ t.drop.Lost := by
  cases hstage : t.stage with
  | listed | created =>
    simp only [Sound, hstage] at ht
    have hg : t.isGuarded = false := by simp [isGuarded, hstage]
    exact .inr ⟨hg, by simp [drop, hg], by simp [drop, hg, ht], by simp [drop, hg, ht]⟩
  | gathering found rest =>
    simp only [Sound, hstage] at ht
    have hg : t.isGuarded = true := by simp [isGuarded, hstage]
    have hd : t.drop = t.close true := by simp [drop, hg]
    refine .inl ⟨hg, hd, ?_, ?_⟩
    · simp [hd, Sound, close, outcome?, TaskState.finish, TaskState.outcome?, ht]
    · simp [hd, close, TaskState.finish, ht]
  | working w | tracking k w =>
    simp only [Sound, hstage] at ht
    obtain ⟨hstate, inputs, hcalls⟩ := ht
    have hg : t.isGuarded = true := by simp [isGuarded, hstage]
    have hd : t.drop = t.close true := by simp [drop, hg]
    refine .inl ⟨hg, hd, ?_, ?_⟩
    · simp [hd, Sound, close, outcome?, TaskState.finish, TaskState.outcome?, hstate, hcalls]
    · simp [hd, close, TaskState.finish, hstate]
  | ended unwound => simp [isEnded, hstage] at hs

theorem later_drop (hs : t.isEnded = false) : t.Later t.drop := by
  unfold drop
  split
  · exact ⟨rfl, rfl, fun _ => rfl, by simp [hs]⟩
  · exact ⟨rfl, rfl, fun _ => rfl, by simp [hs]⟩

theorem drop_accounted (ht : t.Accounted) (hs : t.isEnded = false) : t.drop.Accounted := by
  rcases ht with ht | ht
  · rcases drop_cases ht hs with ⟨_, _, hd, _⟩ | ⟨_, hd⟩
    · exact .inl hd
    · exact .inr hd
  · rw [ht.isEnded] at hs
    exact nomatch hs

/-- A task that has an outcome has ended. -/
theorem Accounted.isEnded_of_outcome? (h : t.Accounted) {o : Outcome} (ho : t.outcome? = some o) :
    t.isEnded = true := by
  rcases h with h | h
  · rw [← h.outcome?_isSome, ho, Option.isSome_some]
  · exact h.isEnded

end Task

namespace Pool

variable {σ : Type} {config : PoolConfig} {here : Path} {world : σ} {p q r : Pool σ}

/-- Give up the task `t`, which is task `id`.  A permit that it holds is given back. -/
def drop (p : Pool σ) (id : TaskId) (t : Task σ) : Pool σ :=
  (if t.isWorking then p.release else p).setTask id t.drop

@[simp] theorem drop_tasks (p : Pool σ) (id : TaskId) (t : Task σ) :
    (p.drop id t).tasks = p.tasks.set id t.drop := by
  unfold drop
  split <;> rfl

/-- A pool changes by a move, or when a task is given up. -/
inductive Change (p q : Pool σ) : Prop where
  | move (h : Move p q)
  | drop {i : TaskId} {t : Task σ} (ht : p.tasks[i]? = some t) (hs : t.isEnded = false)
    (hq : q = p.drop i t)

/-- What may become of a pool. -/
def Becomes : Pool σ → Pool σ → Prop :=
  Relation.ReflTransGen Change

theorem Change.config_eq (h : Change p q) : q.config = p.config := by
  cases h with
  | move h => exact h.config_eq
  | @drop i t _ _ hq =>
    rw [hq, Pool.drop]
    split <;> rfl

theorem Change.here_eq (h : Change p q) : q.here = p.here := by
  cases h with
  | move h => exact h.here_eq
  | @drop i t _ _ hq =>
    rw [hq, Pool.drop]
    split <;> rfl

theorem Becomes.config_eq (h : p.Becomes q) : q.config = p.config := by
  induction h with
  | refl => rfl
  | tail _ h ih => exact h.config_eq.trans ih

theorem Becomes.here_eq (h : p.Becomes q) : q.here = p.here := by
  induction h with
  | refl => rfl
  | tail _ h ih => exact h.here_eq.trans ih

/-- What holds of every task, of its next forms, of a task that is given up and of every new task
holds after a change. -/
theorem Change.each {P : Nat → Task σ → Prop} (h : Change p q) (hp : p.Each P)
    (hu : ∀ (i : Nat) t u, p.tasks[i]? = some t → t.Next p u → P i u)
    (hd : ∀ (i : Nat) t, p.tasks[i]? = some t → t.isEnded = false → P i t.drop)
    (hn : ∀ t, t.IsNew → P p.tasks.length t) : q.Each P := by
  cases h with
  | move h => exact h.each hp hu hn
  | @drop i t ht hs hq =>
    intro j u hj
    rw [hq, drop_tasks] at hj
    rcases getElem?_set_cases hj with ⟨rfl, rfl⟩ | ⟨_, hj⟩
    · exact hd i t ht hs
    · exact hp j u hj

theorem Change.grows (h : Change p q) : p.Grows q := by
  cases h with
  | move h => exact h.grows
  | @drop i t ht hs hq =>
    intro j u hj
    obtain ⟨v, hv, hl⟩ := grows_setTask ht (Task.later_drop hs) j u hj
    refine ⟨v, ?_, hl⟩
    rw [hq, drop_tasks]
    exact hv

theorem Becomes.grows (h : p.Becomes q) : p.Grows q := by
  induction h with
  | refl => exact .refl p
  | tail _ h ih => exact ih.trans h.grows

/-- Every task of a pool in use is accounted for. -/
theorem Becomes.accounted (h : p.Becomes q) (hp : p.Each fun _ t => t.Accounted) :
    q.Each fun _ t => t.Accounted := by
  induction h with
  | refl => exact hp
  | tail _ h ih =>
    refine h.each ih (fun i t u ht hn => ?_) (fun i t ht hs => Task.drop_accounted (ih i t ht) hs)
      fun t ht => .inl ht.sound
    exact .inl (hn.sound (hn.sound_of_accounted (ih i t ht)))

/-- The outcome of a task stays. -/
theorem Grows.outcome? (hg : p.Grows q) (hp : p.Each fun _ t => t.Accounted) {i : TaskId}
    {o : Outcome} (h : p.outcome? i = some o) :
    q.outcome? i = some o ∧ q.label i = p.label i := by
  obtain ⟨t, ht, ho⟩ := exists_of_outcome? h
  have hq := hg.ended ht ((hp i t ht).isEnded_of_outcome? ho)
  exact ⟨(outcome?_eq hq).trans ho, by rw [label, label, ht, hq]⟩

theorem becomes_settle (p : Pool σ) : p.Becomes p.settle := by
  fun_induction settle p with
  | case1 p h => exact .refl
  | case2 p q h ih =>
    obtain ⟨i, hstep⟩ := step_of_advance? h
    exact .head (.move (.step hstep)) ih

/-- What a submission does once it has listed its task. -/
theorem becomes_submit_of_enlist (p : Pool σ) (caller : Caller) (spec : TaskSpec)
    (body : List Path → Work σ) :
    (p.submit caller spec body).2.1 = p.tasks.length ∧
      Becomes (p.enlist (Task.fresh spec body)).1 (p.submit caller spec body).1 := by
  have hnew := getElem?_enlist_new p (Task.fresh spec body)
  have spawned : Becomes (p.enlist (Task.fresh spec body)).1
      ((p.enlist (Task.fresh spec body)).1.spawn p.tasks.length) := by
    rw [spawn_eq_setTask hnew]
    exact .single (.move (.touch (.spawn hnew rfl)))
  unfold submit
  cases hm : p.config.mode with
  | pooled =>
    simp only [enlist_config, hm]
    exact ⟨rfl, spawned.tail (.move (.touch (.track _)))⟩
  | inline =>
    simp only [enlist_config, hm]
    cases caller with
    | inside => exact ⟨rfl, .refl⟩
    | outside =>
      dsimp only
      split <;> exact ⟨rfl, spawned.trans (becomes_settle _)⟩

/-- A submission lists a task, whether it returns or not. -/
theorem becomes_submit (p : Pool σ) (caller : Caller) (spec : TaskSpec)
    (body : List Path → Work σ) :
    p.Becomes (p.submit caller spec body).1 ∧
      ∃ t, (p.submit caller spec body).1.tasks[(p.submit caller spec body).2.1]? = some t ∧
        t.spec = spec := by
  have listed : p.Becomes (p.enlist (Task.fresh spec body)).1 :=
    .single (.move (.touch (.enlist spec body)))
  obtain ⟨hid, hsubmit⟩ := p.becomes_submit_of_enlist caller spec body
  -- What the list holds from then on is the task or a later form of it.
  obtain ⟨t, ht, hl⟩ := hsubmit.grows _ _ (getElem?_enlist_new p (Task.fresh spec body))
  exact ⟨listed.trans hsubmit, t, hid ▸ ht, hl.spec⟩

end Pool

end NativeBuild
