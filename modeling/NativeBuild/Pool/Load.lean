import NativeBuild.Pool.Basic

/-!
Why a pool comes to rest.  What is left of a task is its load; a step replaces one load by lighter
ones, and nothing can be replaced by lighter things for ever.
-/

namespace NativeBuild

/-- What a step does to a collection: some member gives way to members that are all smaller.  The
order of the members does not count. -/
def Replaces {α : Type} (smaller : α → α → Prop) (after before : List α) : Prop :=
  ∃ x rest new, before.Perm (x :: rest) ∧ after.Perm (new ++ rest) ∧ ∀ y ∈ new, smaller y x

namespace Replaces

variable {α : Type} {smaller : α → α → Prop}

theorem of_perm {after before before' : List α} (h : Replaces smaller after before)
    (hp : before.Perm before') : Replaces smaller after before' := by
  obtain ⟨x, rest, new, h1, h2, h3⟩ := h
  exact ⟨x, rest, new, hp.symm.trans h1, h2, h3⟩

theorem acc_perm {l l' : List α} (h : Acc (Replaces smaller) l) (hp : l.Perm l') :
    Acc (Replaces smaller) l' :=
  ⟨l', fun _ hm => h.inv (hm.of_perm hp.symm)⟩

theorem acc_nil : Acc (Replaces smaller) ([] : List α) := by
  refine ⟨[], fun _ h => ?_⟩
  obtain ⟨x, rest, _, h, _, _⟩ := h
  exact absurd h.length_eq (by simp)

/-- A collection stays accessible when an accessible member joins it. -/
theorem acc_cons {x : α} (hx : Acc smaller x) {l : List α} (hl : Acc (Replaces smaller) l) :
    Acc (Replaces smaller) (x :: l) := by
  induction hx generalizing l with
  | intro x _ ihx =>
  induction hl with
  | intro l hl ihl =>
  refine ⟨_, fun after h => ?_⟩
  obtain ⟨z, rest, new, h1, h2, h3⟩ := h
  have hmem : x ∈ z :: rest := h1.mem_iff.1 List.mem_cons_self
  rcases List.mem_cons.1 hmem with rfl | hrest
  · have hlr : l.Perm rest := h1.cons_inv
    have grow : ∀ ys : List α, (∀ y ∈ ys, smaller y x) → Acc (Replaces smaller) (ys ++ rest) := by
      intro ys
      induction ys with
      | nil => exact fun _ => acc_perm ⟨l, hl⟩ hlr
      | cons y ys ih =>
        intro hys
        exact ihx y (hys y List.mem_cons_self)
          (ih fun y' hy' => hys y' (List.mem_cons_of_mem _ hy'))
    exact acc_perm (grow new h3) h2.symm
  · obtain ⟨s, t, rfl⟩ := List.append_of_mem hrest
    have h4 : l.Perm (z :: (s ++ t)) := by
      have : (x :: l).Perm (x :: z :: (s ++ t)) :=
        h1.trans ((List.perm_middle.cons z).trans (List.Perm.swap x z (s ++ t)))
      exact this.cons_inv
    have h5 : Acc (Replaces smaller) (x :: (new ++ (s ++ t))) :=
      ihl _ ⟨z, s ++ t, new, h4, .refl _, h3⟩
    refine acc_perm h5 (List.Perm.trans ?_ h2.symm)
    have : (new ++ (s ++ x :: t)).Perm (x :: (new ++ (s ++ t))) := by
      rw [← List.append_assoc, ← List.append_assoc]
      exact List.perm_middle
    exact this.symm

/-- If nothing gets smaller for ever, nothing is replaced by smaller members for ever. -/
theorem wf (h : WellFounded smaller) : WellFounded (Replaces smaller) := by
  refine ⟨fun l => ?_⟩
  induction l with
  | nil => exact acc_nil
  | cons x l ih => exact acc_cons (h.apply x) ih

/-- A member of a list gives way in its place, and further smaller members join at the end. -/
theorem of_set {l : List α} {i : Nat} {x y : α} {new : List α} (hx : l[i]? = some x)
    (hy : smaller y x) (hnew : ∀ z ∈ new, smaller z x) :
    Replaces smaller (l.set i y ++ new) l := by
  obtain ⟨hi, rfl⟩ := List.getElem?_eq_some_iff.1 hx
  refine ⟨l[i], l.take i ++ l.drop (i + 1), y :: new, ?_, ?_, ?_⟩
  · have h := List.take_append_drop i l
    rw [List.drop_eq_getElem_cons hi] at h
    exact (List.Perm.of_eq h.symm).trans List.perm_middle
  · rw [List.set_eq_take_append_cons_drop, if_pos hi, List.append_assoc]
    refine List.perm_middle.trans (List.Perm.cons y ?_)
    have h : (l.take i ++ l.drop (i + 1) ++ new).Perm (new ++ (l.take i ++ l.drop (i + 1))) :=
      List.perm_append_comm
    simpa [List.append_assoc] using h
  · intro z hz
    rcases List.mem_cons.1 hz with rfl | hz
    · exact hy
    · exact hnew z hz

end Replaces

/-- What is left of a task: a number of steps and then its work, its work, or nothing. -/
inductive Load (σ : Type) where
  | waiting (steps : Nat) (body : List Path → Work σ)
  | tracking (work : Work σ)
  | working (work : Work σ)
  | none

namespace Load

variable {σ : Type}

/-- What may be left after a step, and what a step may leave for others. -/
inductive Lighter : Load σ → Load σ → Prop where
  | wait {m n : Nat} {body : List Path → Work σ} : m < n → Lighter (waiting m body) (waiting n body)
  | call {n : Nat} {body : List Path → Work σ} {inputs : List Path} :
    Lighter (working (body inputs)) (waiting n body)
  | refuse {n : Nat} {body : List Path → Work σ} : Lighter none (waiting n body)
  | track {work : Work σ} : Lighter (working work) (tracking work)
  | stop {work : Work σ} : Lighter none (working work)
  | act {effect next} {r : Except Failure String} :
    Lighter (working (next r)) (working (.act effect next : Work σ))
  | await {ready next} : Lighter (working next) (working (.await ready next : Work σ))
  | ask {id next} {r : Except Failure Outcome} :
    Lighter (working (next r)) (working (.ask id next : Work σ))
  | submit {spec body next} {id : TaskId} :
    Lighter (tracking (next id)) (working (.submit spec body next : Work σ))
  | submitted {n : Nat} {spec body next} :
    Lighter (waiting n body) (working (.submit spec body next : Work σ))

theorem acc_none : Acc Lighter (none : Load σ) :=
  ⟨_, fun _ h => nomatch h⟩

theorem acc_tracking {w : Work σ} (h : Acc Lighter (working w)) : Acc Lighter (tracking w) :=
  ⟨_, fun _ hy => match hy with | .track => h⟩

theorem acc_waiting {body : List Path → Work σ}
    (h : ∀ inputs, Acc Lighter (working (body inputs))) (n : Nat) :
    Acc Lighter (waiting n body) := by
  induction n using Nat.strongRecOn with
  | ind n ih =>
  refine ⟨_, fun y hy => ?_⟩
  cases hy with
  | wait hlt => exact ih _ hlt
  | call => exact h _
  | refuse => exact acc_none

theorem acc_working (w : Work σ) : Acc Lighter (working w) := by
  induction w with
  | done _ => exact ⟨_, fun _ h => match h with | .stop => acc_none⟩
  | unwind => exact ⟨_, fun _ h => match h with | .stop => acc_none⟩
  | act _ _ ih =>
    exact ⟨_, fun _ h => match h with
      | .stop => acc_none
      | .act => ih _⟩
  | await _ _ ih =>
    exact ⟨_, fun _ h => match h with
      | .stop => acc_none
      | .await => ih⟩
  | ask _ _ ih =>
    exact ⟨_, fun _ h => match h with
      | .stop => acc_none
      | .ask => ih _⟩
  | submit _ _ _ ihBody ihNext =>
    exact ⟨_, fun _ h => match h with
      | .stop => acc_none
      | .submit => acc_tracking (ihNext _)
      | .submitted => acc_waiting ihBody _⟩

theorem wf : WellFounded (Lighter (σ := σ)) := by
  refine ⟨fun l => ?_⟩
  cases l with
  | waiting n body => exact acc_waiting (fun inputs => acc_working (body inputs)) n
  | tracking w => exact acc_tracking (acc_working w)
  | working w => exact acc_working w
  | none => exact acc_none

end Load

/-- What is left of a task. -/
def Task.load {σ : Type} (t : Task σ) : Load σ :=
  match t.stage with
  | .listed => .none
  | .created => .waiting (t.spec.inputs.length + 1) t.body
  | .gathering _ rest => .waiting rest.length t.body
  | .working w => .working w
  | .tracking _ w => .tracking w
  | .ended _ => .none

namespace Pool

variable {σ : Type}

/-- What is left of each task of a pool. -/
def loads (p : Pool σ) : List (Load σ) :=
  p.tasks.map Task.load

@[simp] theorem loads_setTask (p : Pool σ) (id : TaskId) (t : Task σ) :
    (p.setTask id t).loads = p.loads.set id t.load := by
  simp [loads, setTask, List.map_set]

theorem loads_enlist (p : Pool σ) (t : Task σ) : (p.enlist t).1.loads = p.loads ++ [t.load] := by
  simp [loads, enlist]

theorem loads_getElem? {p : Pool σ} {id : TaskId} {t : Task σ} (h : p.tasks[id]? = some t) :
    p.loads[id]? = some t.load := by
  simp [loads, h]

private theorem set_replaces {p : Pool σ} {id : TaskId} {t u : Task σ} (ht : p.tasks[id]? = some t)
    (h : Load.Lighter u.load t.load) : Replaces Load.Lighter (p.loads.set id u.load) p.loads := by
  have := Replaces.of_set (loads_getElem? ht) h (fun (z : Load σ) (hz : z ∈ []) => nomatch hz)
  simpa using this

/-- A step of a pool replaces one load by lighter ones. -/
theorem loads_step {p q : Pool σ} {id : TaskId} (h : p.step? id = some q) :
    Replaces Load.Lighter q.loads p.loads := by
  unfold step? at h
  split at h
  · simp at h
  next t ht =>
  have put (p' : Pool σ) (hp' : p'.loads = p.loads) (u : Task σ)
      (hu : Load.Lighter u.load t.load) :
      Replaces Load.Lighter (p'.setTask id u).loads p.loads := by
    rw [loads_setTask, hp']
    exact set_replaces ht hu
  split at h
  · simp at h
  next hs =>
    cases h
    exact put p rfl _ (by simp only [Task.load, hs]; exact .wait (by omega))
  next found ref rest hs =>
    split at h
    · simp at h
    · cases h
      exact put p rfl _ (by simp only [Task.load, hs]; exact .wait (by simp))
    · cases h
      exact put p rfl _ (by
        simp only [Task.load, Task.refuse, Task.close, hs]; exact .refuse)
  next found hs =>
    split at h
    · simp at h
    · cases h
      exact put _ rfl _ (by simp only [Task.load, Task.call, hs]; exact .call)
  next w hs =>
    unfold workStep? at h
    split at h
    · cases h
      exact put p.release rfl _ (by
        simp only [Task.load, Task.finish, Task.close, hs]; exact .stop)
    · cases h
      exact put p.release rfl _ (by simp only [Task.load, Task.close, hs]; exact .stop)
    · cases h
      exact put _ rfl _ (by simp only [Task.load, hs]; exact .act)
    · split at h
      · cases h
        exact put p rfl _ (by simp only [Task.load, hs]; exact .await)
      · simp at h
    · cases h
      exact put p rfl _ (by simp only [Task.load, hs]; exact .ask)
    · split at h
      · cases h
        rw [loads_enlist, loads_setTask]
        refine Replaces.of_set (loads_getElem? ht) ?_ ?_
        · simp only [Task.load, hs]; exact .submit
        · intro z hz
          simp only [List.mem_singleton] at hz
          subst hz
          simp only [Task.load, Task.fresh, hs]
          exact .submitted
      · cases h
        rw [loads_enlist, loads_setTask]
        refine Replaces.of_set (loads_getElem? ht) ?_ ?_
        · simp only [Task.load, Task.close, hs]; exact .stop
        · intro z hz
          simp only [List.mem_singleton] at hz
          subst hz
          simp only [Task.load, Task.fresh, hs]
          exact .stop
  next other w hs =>
    cases h
    have := put p rfl { t with stage := .working w } (by simp only [Task.load, hs]; exact .track)
    simpa [track, loads] using this
  · simp at h

end Pool

end NativeBuild
