import NativeBuild.Proofs.Pool.Step

/-!
The moves of a pool in use: the steps of its tasks, and what threads outside do to it.  A pool is
reached when moves lead to it from the start and every task that was listed on the way named only
tasks that there were.
-/

namespace NativeBuild

namespace Task

variable {σ : Type}

/-- How the parts of a task agree.  Before its work is called nothing is known of it; its work has
been called once when it is at work; and it has an outcome when it has ended. -/
def Sound (t : Task σ) : Prop :=
  match t.stage with
  | .listed | .created | .gathering _ _ => t.state = .pending ∧ t.calls = []
  | .working _ | .tracking _ _ => t.state = .running ∧ ∃ inputs, t.calls = [inputs]
  | .ended _ => t.outcome?.isSome ∧ t.calls.length ≤ 1

end Task

namespace Pool

variable {σ : Type}

/-- What a thread outside makes of a pool at one go. -/
inductive Touch (p : Pool σ) : Pool σ → Prop where
  | pass : Touch p p
  | world (w : σ) : Touch p { p with world := w }
  | enlist (spec : TaskSpec) (body : List Path → Work σ) :
    Touch p (p.enlist (Task.fresh spec body)).1
  | spawn {i : TaskId} {t : Task σ} (ht : p.tasks[i]? = some t) (hs : t.stage = .listed) :
    Touch p (p.setTask i { t with stage := .created })
  | track (id : TaskId) : Touch p (p.track id)
  | take : Touch p { p with running := [] }

/-- A pool moves by a step of a task or by what a thread outside makes of it. -/
inductive Move (p q : Pool σ) : Prop where
  | step {i : TaskId} (h : p.step? i = some q)
  | touch (h : Touch p q)

/-- Whether the tasks that a task needs have all been handed to the workers.  Only then can somebody
have got hold of them. -/
def Knows (p : Pool σ) (spec : TaskSpec) : Prop :=
  ∀ k, .task k ∈ spec.inputs → ∃ t, p.tasks[k]? = some t ∧ t.isSpawned = true

/-- The pools that moves lead to from the start. -/
inductive Reached (config : PoolConfig) (here : Path) (world : σ) : Pool σ → Prop where
  | start : Reached config here world (Pool.start config here world)
  | move {p q : Pool σ} (hp : Reached config here world p) (h : Move p q)
    (hk : ∀ (i : Nat) t, q.tasks[i]? = some t → p.tasks.length ≤ i → p.Knows t.spec) :
    Reached config here world q

/-- A move that lists no task leads on from a pool. -/
theorem Reached.still {config : PoolConfig} {here : Path} {world : σ} {p q : Pool σ}
    (hp : Reached config here world p) (h : Move p q) (hlen : q.tasks.length ≤ p.tasks.length) :
    Reached config here world q :=
  hp.move h fun _ _ ht hi =>
    absurd (List.getElem?_eq_some_iff.1 ht).1 (Nat.not_lt_of_le (Nat.le_trans hlen hi))

/-- A thread outside may list a task if the workers have what the task needs. -/
theorem Reached.enlist {config : PoolConfig} {here : Path} {world : σ} {p : Pool σ}
    (hp : Reached config here world p) (spec : TaskSpec) (body : List Path → Work σ)
    (hk : p.Knows spec) :
    Reached config here world (p.enlist (Task.fresh spec body)).1 := by
  refine hp.move (.touch (.enlist spec body)) fun i t ht hi => ?_
  rw [enlist_tasks, List.getElem?_append_right hi] at ht
  obtain rfl : Task.fresh spec body = t := by
    have hmem := List.mem_of_getElem? ht
    exact (List.mem_singleton.1 hmem).symm
  exact hk

theorem Move.config_eq {p q : Pool σ} (h : Move p q) : q.config = p.config := by
  cases h with
  | step h => obtain ⟨t, _, h⟩ := taskStep_of_step? h; exact h.config_eq
  | touch h => cases h <;> rfl

theorem Move.here_eq {p q : Pool σ} (h : Move p q) : q.here = p.here := by
  cases h with
  | step h => obtain ⟨t, _, h⟩ := taskStep_of_step? h; exact h.here_eq
  | touch h => cases h <;> rfl

theorem Reached.config_eq {config : PoolConfig} {here : Path} {world : σ} {p : Pool σ}
    (h : Reached config here world p) : p.config = config := by
  induction h with
  | start => rfl
  | move _ h _ ih => exact h.config_eq.trans ih

/-! ### What every move keeps of each task -/

theorem Touch.each {P : Nat → Task σ → Prop} {p q : Pool σ} (h : Touch p q) (hp : p.Each P)
    (hu : ∀ (i : Nat) t u, p.tasks[i]? = some t → t.Next p u → P i u)
    (hn : ∀ t, t.IsNew → P p.tasks.length t) : q.Each P := by
  cases h with
  | pass | world _ | track _ | take => exact hp
  | enlist spec body => exact hp.enlist (hn _ (Task.isNew_fresh spec body))
  | spawn ht hs => exact hp.setTask (hu _ _ _ ht (.spawn hs))

/-- What holds of every task, of its next forms and of every new task holds after a move. -/
theorem Move.each {P : Nat → Task σ → Prop} {p q : Pool σ} (h : Move p q) (hp : p.Each P)
    (hu : ∀ (i : Nat) t u, p.tasks[i]? = some t → t.Next p u → P i u)
    (hn : ∀ t, t.IsNew → P p.tasks.length t) : q.Each P := by
  cases h with
  | step h =>
    obtain ⟨t, ht, h⟩ := taskStep_of_step? h
    exact h.each hp (hu _ t · ht) fun new _ _ => hn new
  | touch h => exact h.each hp hu hn

end Pool

namespace Task

variable {σ : Type}

theorem IsNew.sound {t : Task σ} (h : t.IsNew) : t.Sound := by
  rcases h.stage with hs | hs <;> simp [Sound, hs, h.state, h.calls]

theorem Next.sound {p : Pool σ} {t u : Task σ} (h : t.Next p u) (ht : t.Sound) : u.Sound := by
  cases h with
  | spawn hs | start hs | find hs _ | act hs _ | await hs | ask hs _ | submit hs _ | track hs =>
    simpa [Sound, hs] using ht
  | refuse hs _ =>
    simp only [Sound, hs] at ht
    simp [Sound, Task.refuse, Task.close, outcome?, TaskState.finish, TaskState.outcome?, ht]
  | call hs =>
    simp only [Sound, hs] at ht
    simp [Sound, Task.call, ht]
  | finish hs =>
    simp only [Sound, hs] at ht
    obtain ⟨hstate, inputs, hcalls⟩ := ht
    simp [Sound, Task.finish, Task.close, outcome?, TaskState.finish, TaskState.outcome?, hstate,
      hcalls]
  | unwind hs | abandon hs =>
    simp only [Sound, hs] at ht
    obtain ⟨hstate, inputs, hcalls⟩ := ht
    simp [Sound, Task.close, outcome?, TaskState.finish, TaskState.outcome?, hstate, hcalls]

/-- A task has an outcome exactly when it has ended. -/
theorem Sound.outcome?_isSome {t : Task σ} (h : t.Sound) : t.outcome?.isSome = t.isEnded := by
  unfold Sound at h
  unfold isEnded
  split at h
  · next hs => simp [hs, outcome?, TaskState.outcome?, h]
  · next hs => simp [hs, outcome?, TaskState.outcome?, h]
  · next hs => simp [hs, outcome?, TaskState.outcome?, h]
  · next hs => simp [hs, outcome?, TaskState.outcome?, h]
  · next hs => simp [hs, outcome?, TaskState.outcome?, h]
  · next hs => simp [hs, h]

/-- A task and a later form of it.  What it is called, needs and does stays, it is not taken back
from the workers, and when it has ended it changes no more. -/
structure Later (t u : Task σ) : Prop where
  spec : u.spec = t.spec
  body : u.body = t.body
  spawned : t.isSpawned = true → u.isSpawned = true
  ended : t.isEnded = true → u = t

theorem Later.refl (t : Task σ) : t.Later t :=
  ⟨rfl, rfl, id, fun _ => rfl⟩

theorem Later.trans {t u v : Task σ} (h : t.Later u) (h' : u.Later v) : t.Later v where
  spec := h'.spec.trans h.spec
  body := h'.body.trans h.body
  spawned ht := h'.spawned (h.spawned ht)
  ended ht := by
    obtain rfl := h.ended ht
    exact h'.ended ht

theorem Next.later {p : Pool σ} {t u : Task σ} (h : t.Next p u) : t.Later u := by
  cases h with
  | spawn hs | start hs | find hs _ | act hs _ | await hs | ask hs _ | submit hs _ | track hs =>
    exact ⟨rfl, rfl, fun _ => rfl, by simp [isEnded, hs]⟩
  | refuse hs _ | call hs | finish hs | unwind hs | abandon hs =>
    exact ⟨rfl, rfl, fun _ => rfl, by simp [isEnded, hs]⟩

end Task

namespace Pool

variable {σ : Type}

theorem Move.sound {p q : Pool σ} (h : Move p q) (hp : p.Each fun _ t => t.Sound) :
    q.Each fun _ t => t.Sound :=
  h.each hp (fun i t _ ht hn => hn.sound (hp i t ht)) fun _ ht => ht.sound

theorem Reached.sound {config : PoolConfig} {here : Path} {world : σ} {p : Pool σ}
    (h : Reached config here world p) : p.Each fun _ t => t.Sound := by
  induction h with
  | start => exact .start config here world
  | move _ h _ ih => exact h.sound ih

/-- A pool and what has become of it: every task is still there, in a later form. -/
def Grows (p q : Pool σ) : Prop :=
  ∀ (i : Nat) t, p.tasks[i]? = some t → ∃ u, q.tasks[i]? = some u ∧ t.Later u

theorem Grows.refl (p : Pool σ) : p.Grows p :=
  fun _ t ht => ⟨t, ht, .refl t⟩

theorem Grows.trans {p q r : Pool σ} (h : p.Grows q) (h' : q.Grows r) : p.Grows r := by
  intro i t ht
  obtain ⟨u, hu, htu⟩ := h i t ht
  obtain ⟨v, hv, huv⟩ := h' i u hu
  exact ⟨v, hv, htu.trans huv⟩

/-- The earlier form of a task that was there before. -/
theorem Grows.earlier {p q : Pool σ} (h : p.Grows q) {i : Nat} {u : Task σ}
    (hu : q.tasks[i]? = some u) (hi : i < p.tasks.length) :
    ∃ t, p.tasks[i]? = some t ∧ t.Later u := by
  obtain ⟨u', hu', hl⟩ := h i _ (List.getElem?_eq_getElem hi)
  rw [hu] at hu'
  cases hu'
  exact ⟨_, List.getElem?_eq_getElem hi, hl⟩

theorem Grows.length_le {p q : Pool σ} (h : p.Grows q) : p.tasks.length ≤ q.tasks.length := by
  refine Nat.le_of_not_lt fun hlt => ?_
  obtain ⟨u, hu, _⟩ := h _ _ (List.getElem?_eq_getElem hlt)
  exact absurd (List.getElem?_eq_some_iff.1 hu).1 (Nat.lt_irrefl _)

/-- A task that has ended stays as it is. -/
theorem Grows.ended {p q : Pool σ} (h : p.Grows q) {i : Nat} {t : Task σ} (ht : p.tasks[i]? = some t)
    (he : t.isEnded = true) : q.tasks[i]? = some t := by
  obtain ⟨u, hu, hl⟩ := h i t ht
  rw [hu, hl.ended he]

theorem grows_setTask {p : Pool σ} {id : TaskId} {t u : Task σ} (ht : p.tasks[id]? = some t)
    (h : t.Later u) : p.Grows (p.setTask id u) := by
  intro i x hx
  rw [setTask_tasks, List.getElem?_set]
  split
  · next heq =>
    subst heq
    rw [ht] at hx
    cases hx
    exact ⟨u, if_pos (List.getElem?_eq_some_iff.1 ht).1, h⟩
  · exact ⟨x, hx, .refl x⟩

theorem grows_append {p q : Pool σ} {l : List (Task σ)} (h : q.tasks = p.tasks ++ l) :
    p.Grows q := by
  intro i x hx
  refine ⟨x, ?_, .refl x⟩
  rw [h, List.getElem?_append_left (List.getElem?_eq_some_iff.1 hx).1]
  exact hx

theorem TaskStep.grows {p q : Pool σ} {id : TaskId} {t : Task σ} (ht : p.tasks[id]? = some t)
    (h : TaskStep p id t q) : p.Grows q := by
  obtain ⟨u, hnext, htasks⟩ := h.tasks_eq
  refine (grows_setTask ht hnext.later).trans ?_
  rcases htasks with htasks | ⟨new, _, _, _, htasks⟩
  · exact grows_append (l := []) (by rw [htasks, setTask_tasks, List.append_nil])
  · exact grows_append htasks

theorem Touch.grows {p q : Pool σ} (h : Touch p q) : p.Grows q := by
  cases h with
  | pass | world _ | track _ | take => exact .refl p
  | enlist spec body => exact grows_append rfl
  | spawn ht hs => exact grows_setTask ht (Task.Next.later (p := p) (.spawn hs))

theorem Move.grows {p q : Pool σ} (h : Move p q) : p.Grows q := by
  cases h with
  | step h => obtain ⟨t, ht, h⟩ := taskStep_of_step? h; exact h.grows ht
  | touch h => exact h.grows

end Pool

end NativeBuild
