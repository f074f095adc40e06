import NativeBuild.Proofs.Pool.Moves

/-!
Permits.  A task holds a permit exactly while it is at work, and no move makes or loses one.
-/

namespace NativeBuild

/-- What becomes of a count when one member of a list is replaced. -/
theorem countP_set_add {α : Type} (f : α → Bool) {l : List α} {i : Nat} {a b : α}
    (h : l[i]? = some a) :
    (l.set i b).countP f + (f a).toNat = l.countP f + (f b).toNat := by
  induction l generalizing i with
  | nil => simp at h
  | cons x l ih =>
    cases i with
    | zero =>
      obtain rfl : x = a := by simpa using h
      simp only [List.set_cons_zero, List.countP_cons]
      cases f x <;> cases f b <;> simp
    | succ i =>
      have := ih (i := i) (by simpa using h)
      simp only [List.set_cons_succ, List.countP_cons]
      omega

namespace Pool

variable {σ : Type}

/-- The number of permits that tasks hold. -/
def held (p : Pool σ) : Nat :=
  p.tasks.countP Task.isWorking

theorem held_setTask {p : Pool σ} {id : TaskId} {t : Task σ} (ht : p.tasks[id]? = some t)
    (u : Task σ) :
    (p.setTask id u).held + t.isWorking.toNat = p.held + u.isWorking.toNat :=
  countP_set_add Task.isWorking ht

/-- A task that goes on with its work, or that does not begin it, keeps what it holds. -/
theorem held_same {p : Pool σ} {id : TaskId} {t u : Task σ} (ht : p.tasks[id]? = some t)
    (h : u.isWorking = t.isWorking) : (p.setTask id u).held = p.held := by
  have := held_setTask ht u
  rw [h] at this
  omega

theorem held_taken {p : Pool σ} {id : TaskId} {t u : Task σ} (ht : p.tasks[id]? = some t)
    (h : t.isWorking = false) (hu : u.isWorking = true) :
    (p.setTask id u).held = p.held + 1 := by
  have := held_setTask ht u
  rw [h, hu] at this
  simpa using this

theorem held_given {p : Pool σ} {id : TaskId} {t u : Task σ} (ht : p.tasks[id]? = some t)
    (h : t.isWorking = true) (hu : u.isWorking = false) :
    (p.setTask id u).held + 1 = p.held := by
  have := held_setTask ht u
  rw [h, hu] at this
  simpa using this

theorem held_enlist (p : Pool σ) (t : Task σ) :
    (p.enlist t).1.held = p.held + t.isWorking.toNat := by
  cases h : t.isWorking <;> simp [held, List.countP_append, h]

@[simp] theorem held_release (p : Pool σ) : p.release.held = p.held := rfl

@[simp] theorem held_track (p : Pool σ) (id : TaskId) : (p.track id).held = p.held := rfl

theorem TaskStep.free_add_held {p q : Pool σ} {id : TaskId} {t : Task σ}
    (ht : p.tasks[id]? = some t) (h : TaskStep p id t q) :
    q.free + q.held = p.free + p.held := by
  -- A permit is taken when work is called, and given back when it comes to its end in any way.
  cases h with
  | start hs | find hs _ | await hs _ | ask hs =>
    rw [held_same ht (by simp [Task.isWorking, hs]), setTask_free]
  | refuse hs _ =>
    rw [held_same ht (by simp [Task.isWorking, Task.refuse, Task.close, hs]), setTask_free]
  | track hs =>
    rw [held_track, track_free, held_same ht (by simp [Task.isWorking, hs]), setTask_free]
  | @call found hs hf =>
    have := held_taken (p := { p with free := p.free - 1 }) (u := t.call found) ht
      (by simp [Task.isWorking, hs]) rfl
    rw [this, setTask_free]
    show p.free - 1 + (p.held + 1) = p.free + p.held
    omega
  | @finish result hs =>
    have := held_given (p := p.release) (u := t.finish result) ht
      (by simp [Task.isWorking, hs]) rfl
    rw [held_release] at this
    rw [setTask_free, release_free]
    omega
  | unwind hs =>
    have := held_given (p := p.release) (u := t.close true) ht
      (by simp [Task.isWorking, hs]) rfl
    rw [held_release] at this
    rw [setTask_free, release_free]
    omega
  | @act effect next hs =>
    have := held_same (p := { p with world := (effect p.world).1 })
      (u := { t with stage := .working (next (effect p.world).2) }) ht
      (by simp [Task.isWorking, hs])
    rw [this]
    rfl
  | submit hs _ =>
    rw [held_enlist, enlist_free, held_same ht (by simp [Task.isWorking, hs]), setTask_free]
    rfl
  | abandon hs _ =>
    have := held_given (p := p.release) (u := t.close true) ht
      (by simp [Task.isWorking, hs]) rfl
    rw [held_release] at this
    rw [held_enlist, enlist_free, setTask_free, release_free]
    simp only [Task.isWorking, Task.fresh, Bool.toNat_false]
    omega

theorem Touch.free_add_held {p q : Pool σ} (h : Touch p q) :
    q.free + q.held = p.free + p.held := by
  cases h with
  | pass | world _ | track _ | take => rfl
  | enlist spec body => simp [held_enlist, Task.isWorking, Task.fresh]
  | spawn ht hs => rw [held_same ht (by simp [Task.isWorking, hs]), setTask_free]

theorem Move.free_add_held {p q : Pool σ} (h : Move p q) :
    q.free + q.held = p.free + p.held := by
  cases h with
  | step h => obtain ⟨t, ht, h⟩ := taskStep_of_step? h; exact h.free_add_held ht
  | touch h => exact h.free_add_held

/-- The permits that are free and those that tasks hold are all the permits there are. -/
theorem Reached.free_add_held {config : PoolConfig} {here : Path} {world : σ} {p : Pool σ}
    (h : Reached config here world p) : p.free + p.held = config.permits := by
  induction h with
  | start => rfl
  | move _ h _ ih => rw [h.free_add_held, ih]

theorem permits_pos (config : PoolConfig) : 0 < config.permits :=
  Nat.lt_of_lt_of_le Nat.zero_lt_one (Nat.le_max_left 1 config.parallelism)

end Pool

end NativeBuild
