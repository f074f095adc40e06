import NativeBuild.Pool.Settle

/-!
What one step of a task does to its pool, kind by kind.  Everything that holds of all pools in use
is proved from these kinds, one case for each.
-/

namespace NativeBuild

theorem getElem?_set_cases {α : Type} {l : List α} {i j : Nat} {a b : α}
    (h : (l.set i a)[j]? = some b) : i = j ∧ a = b ∨ i ≠ j ∧ l[j]? = some b := by
  rw [List.getElem?_set] at h
  split at h
  · next heq =>
    split at h
    · exact .inl ⟨heq, Option.some.inj h⟩
    · exact nomatch h
  · next hne => exact .inr ⟨hne, h⟩

theorem getElem?_concat_cases {α : Type} {l : List α} {i : Nat} {a b : α}
    (h : (l ++ [a])[i]? = some b) : l[i]? = some b ∨ i = l.length ∧ a = b := by
  rw [List.getElem?_append] at h
  split at h
  · exact .inl h
  · next hi =>
    have hlt : i - l.length < 1 := (List.getElem?_eq_some_iff.1 h).1
    obtain rfl : i = l.length := by omega
    exact .inr ⟨rfl, by simpa using h⟩

namespace Task

variable {σ : Type}

/-- The outcome of a task, if it has finished. -/
def outcome? (t : Task σ) : Option Outcome :=
  t.state.outcome?

/-- Whether a task is at work.  A task at work holds a permit. -/
def isWorking (t : Task σ) : Bool :=
  match t.stage with
  | .working _ | .tracking _ _ => true
  | _ => false

/-- Whether a worker has ended a task. -/
def isEnded (t : Task σ) : Bool :=
  match t.stage with
  | .ended _ => true
  | _ => false

/-- Whether a task has been handed to the workers. -/
def isSpawned (t : Task σ) : Bool :=
  match t.stage with
  | .listed => false
  | _ => true

end Task

namespace Pool

variable {σ : Type}

@[simp] theorem setTask_tasks (p : Pool σ) (id : TaskId) (t : Task σ) :
    (p.setTask id t).tasks = p.tasks.set id t := rfl

@[simp] theorem setTask_free (p : Pool σ) (id : TaskId) (t : Task σ) :
    (p.setTask id t).free = p.free := rfl

@[simp] theorem setTask_config (p : Pool σ) (id : TaskId) (t : Task σ) :
    (p.setTask id t).config = p.config := rfl

@[simp] theorem setTask_here (p : Pool σ) (id : TaskId) (t : Task σ) :
    (p.setTask id t).here = p.here := rfl

@[simp] theorem setTask_running (p : Pool σ) (id : TaskId) (t : Task σ) :
    (p.setTask id t).running = p.running := rfl

@[simp] theorem enlist_tasks (p : Pool σ) (t : Task σ) :
    (p.enlist t).1.tasks = p.tasks ++ [t] := rfl

@[simp] theorem enlist_free (p : Pool σ) (t : Task σ) : (p.enlist t).1.free = p.free := rfl

@[simp] theorem enlist_config (p : Pool σ) (t : Task σ) : (p.enlist t).1.config = p.config := rfl

@[simp] theorem enlist_here (p : Pool σ) (t : Task σ) : (p.enlist t).1.here = p.here := rfl

@[simp] theorem enlist_running (p : Pool σ) (t : Task σ) : (p.enlist t).1.running = p.running := rfl

@[simp] theorem release_tasks (p : Pool σ) : p.release.tasks = p.tasks := rfl

@[simp] theorem release_free (p : Pool σ) : p.release.free = p.free + 1 := rfl

@[simp] theorem release_config (p : Pool σ) : p.release.config = p.config := rfl

@[simp] theorem release_here (p : Pool σ) : p.release.here = p.here := rfl

@[simp] theorem release_running (p : Pool σ) : p.release.running = p.running := rfl

@[simp] theorem track_tasks (p : Pool σ) (id : TaskId) : (p.track id).tasks = p.tasks := rfl

@[simp] theorem track_free (p : Pool σ) (id : TaskId) : (p.track id).free = p.free := rfl

@[simp] theorem track_config (p : Pool σ) (id : TaskId) : (p.track id).config = p.config := rfl

@[simp] theorem track_here (p : Pool σ) (id : TaskId) : (p.track id).here = p.here := rfl

@[simp] theorem track_running (p : Pool σ) (id : TaskId) :
    (p.track id).running = p.running ++ [id] := rfl

@[simp] theorem spawn_config (p : Pool σ) (id : TaskId) : (p.spawn id).config = p.config := by
  unfold spawn
  split <;> rfl

@[simp] theorem length_spawn (p : Pool σ) (id : TaskId) :
    (p.spawn id).tasks.length = p.tasks.length := by
  unfold spawn
  split
  · exact List.length_set
  · rfl

theorem spawn_eq_setTask {p : Pool σ} {id : TaskId} {t : Task σ} (ht : p.tasks[id]? = some t) :
    p.spawn id = p.setTask id { t with stage := .created } := by
  simp [spawn, ht]

theorem outcome?_eq {p : Pool σ} {id : TaskId} {t : Task σ} (ht : p.tasks[id]? = some t) :
    p.outcome? id = t.outcome? := by
  simp [outcome?, state, ht, Task.outcome?]

theorem outcome?_eq_none {p : Pool σ} {id : TaskId} (h : p.tasks[id]? = none) :
    p.outcome? id = none := by
  simp [outcome?, state, h, TaskState.outcome?]

/-- A task that is known to have an outcome is in the pool. -/
theorem exists_of_outcome? {p : Pool σ} {id : TaskId} {o : Outcome} (h : p.outcome? id = some o) :
    ∃ t, p.tasks[id]? = some t ∧ t.outcome? = some o := by
  cases ht : p.tasks[id]? with
  | none => rw [outcome?_eq_none ht] at h; exact nomatch h
  | some t => exact ⟨t, rfl, (outcome?_eq ht).symm.trans h⟩

@[simp] theorem spawn_running (p : Pool σ) (id : TaskId) : (p.spawn id).running = p.running := by
  unfold spawn
  split <;> rfl

theorem getElem?_setTask_self {p : Pool σ} {id : TaskId} {t : Task σ} (ht : p.tasks[id]? = some t)
    (u : Task σ) : (p.setTask id u).tasks[id]? = some u :=
  List.getElem?_set_self (List.getElem?_eq_some_iff.1 ht).1

theorem getElem?_enlist {p : Pool σ} {i : Nat} {t : Task σ} (ht : p.tasks[i]? = some t) (new : Task σ) :
    (p.enlist new).1.tasks[i]? = some t := by
  rw [enlist_tasks, List.getElem?_append_left (List.getElem?_eq_some_iff.1 ht).1, ht]

theorem getElem?_enlist_new (p : Pool σ) (t : Task σ) :
    (p.enlist t).1.tasks[p.tasks.length]? = some t := by
  rw [enlist_tasks, List.getElem?_concat_length]

theorem ending?_eq {p : Pool σ} {id : TaskId} {t : Task σ} (ht : p.tasks[id]? = some t) {unwound : Bool}
    (hs : t.stage = .ended unwound) : p.ending? id = some unwound := by
  simp [ending?, ht, hs]

theorem exists_of_ending? {p : Pool σ} {i : TaskId} (h : (p.ending? i).isSome = true) :
    ∃ t, p.tasks[i]? = some t ∧ t.isEnded = true := by
  unfold ending? at h
  split at h
  · next t ht =>
    split at h
    · next hs => exact ⟨t, ht, by simp [Task.isEnded, hs]⟩
    · simp at h
  · simp at h

theorem ending?_isSome {p : Pool σ} {i : TaskId} {t : Task σ} (ht : p.tasks[i]? = some t)
    (he : t.isEnded = true) : (p.ending? i).isSome = true := by
  cases hs : t.stage with
  | ended unwound => rw [ending?_eq ht hs, Option.isSome_some]
  | listed | created | gathering _ _ | working _ | tracking _ _ => simp [Task.isEnded, hs] at he

/-- A task that no worker has makes no step. -/
theorem step?_listed {p : Pool σ} {i : TaskId} {t : Task σ} (ht : p.tasks[i]? = some t)
    (hs : t.stage = .listed) : p.step? i = none := by
  simp [step?, ht, hs]

/-- How a submission comes to return: the task is listed and handed to the workers; in pooled mode it
is recorded as running, and in inline mode it is run to its end. -/
theorem submit_returned {p q : Pool σ} {caller : Caller} {spec : TaskSpec}
    {body : List Path → Work σ} {id : TaskId} (h : p.submit caller spec body = (q, id, .returned)) :
    id = p.tasks.length ∧
      (p.config.mode = .pooled ∧ q = ((p.enlist (Task.fresh spec body)).1.spawn id).track id ∨
        p.config.mode = .inline ∧ caller = .outside ∧
          q = ((p.enlist (Task.fresh spec body)).1.spawn id).settle ∧ q.ending? id = some false) := by
  unfold submit at h
  cases hm : p.config.mode with
  | pooled =>
    simp only [enlist_config, hm, Prod.mk.injEq, and_true] at h
    obtain ⟨rfl, rfl⟩ := h
    exact ⟨rfl, .inl ⟨rfl, rfl⟩⟩
  | inline =>
    cases caller with
    | inside => simp [enlist_config, hm] at h
    | outside =>
      simp only [enlist_config, hm] at h
      split at h
      · next he =>
        obtain ⟨rfl, rfl, -⟩ := h
        exact ⟨rfl, .inr ⟨rfl, rfl, rfl, he⟩⟩
      · simp at h
      · simp at h

/-- How an inline submission ends that has driven its task to this end. -/
def submissionOf : Option Bool → Submission
  | some false => .returned
  | some true => .unwound
  | none => .stuck

/-- What an inline submission from outside comes to when the pool rests as `q`. -/
theorem submit_eq_of_settle {p q : Pool σ} {spec : TaskSpec} {body : List Path → Work σ}
    (hm : p.config.mode = .inline)
    (hq : ((p.enlist (Task.fresh spec body)).1.spawn p.tasks.length).settle = q) :
    p.submit .outside spec body =
      (q, p.tasks.length, submissionOf (q.ending? p.tasks.length)) := by
  subst hq
  simp only [submit, enlist_config, hm]
  rw [show (p.enlist (Task.fresh spec body)).2 = p.tasks.length from rfl]
  split <;> rename_i he <;> rw [he, submissionOf]

/-- What holds of every task of a pool, by its number. -/
def Each (P : Nat → Task σ → Prop) (p : Pool σ) : Prop :=
  ∀ i t, p.tasks[i]? = some t → P i t

theorem Each.start {P : Nat → Task σ → Prop} (config : PoolConfig) (here : Path) (world : σ) :
    Each P (Pool.start config here world) := by
  intro i t h
  simp [Pool.start] at h

theorem Each.setTask {P : Nat → Task σ → Prop} {p : Pool σ} (h : p.Each P) {id : TaskId}
    {t : Task σ} (ht : P id t) : (p.setTask id t).Each P := by
  intro i u hu
  rw [setTask_tasks] at hu
  rcases getElem?_set_cases hu with ⟨rfl, rfl⟩ | ⟨_, hu⟩
  · exact ht
  · exact h i u hu

theorem Each.enlist {P : Nat → Task σ → Prop} {p : Pool σ} (h : p.Each P) {t : Task σ}
    (ht : P p.tasks.length t) : (p.enlist t).1.Each P := by
  intro i u hu
  rw [enlist_tasks] at hu
  rcases getElem?_concat_cases hu with hu | ⟨rfl, rfl⟩
  · exact h i u hu
  · exact ht

/-- What a step of the task `id`, which is `t`, makes of a pool. -/
inductive TaskStep (p : Pool σ) (id : TaskId) (t : Task σ) : Pool σ → Prop where
  | start (hs : t.stage = .created) :
    TaskStep p id t (p.setTask id { t with stage := .gathering [] t.spec.inputs })
  | find {found : List Path} {ref : PathRef} {rest : List PathRef} {path : Path}
    (hs : t.stage = .gathering found (ref :: rest)) (h : p.pathNow? ref = some (.ok path)) :
    TaskStep p id t (p.setTask id { t with stage := .gathering (found ++ [path]) rest })
  | refuse {found : List Path} {ref : PathRef} {rest : List PathRef} {e : Failure}
    (hs : t.stage = .gathering found (ref :: rest)) (h : p.pathNow? ref = some (.error e)) :
    TaskStep p id t (p.setTask id (t.refuse e))
  | call {found : List Path} (hs : t.stage = .gathering found []) (h : 0 < p.free) :
    TaskStep p id t ({ p with free := p.free - 1 }.setTask id (t.call found))
  | finish {result : Except Failure Unit} (hs : t.stage = .working (.done result)) :
    TaskStep p id t (p.release.setTask id (t.finish result))
  | unwind (hs : t.stage = .working .unwind) :
    TaskStep p id t (p.release.setTask id (t.close true))
  | act {effect : σ → σ × Except Failure String} {next : Except Failure String → Work σ}
    (hs : t.stage = .working (.act effect next)) :
    TaskStep p id t ({ p with world := (effect p.world).1 }.setTask id
      { t with stage := .working (next (effect p.world).2) })
  | await {ready : σ → Bool} {next : Work σ} (hs : t.stage = .working (.await ready next))
    (h : ready p.world = true) :
    TaskStep p id t (p.setTask id { t with stage := .working next })
  | ask {other : TaskId} {next : Except Failure Outcome → Work σ}
    (hs : t.stage = .working (.ask other next)) :
    TaskStep p id t (p.setTask id { t with stage := .working (next (p.answerInside other)) })
  | submit {spec : TaskSpec} {body : List Path → Work σ} {next : TaskId → Work σ}
    (hs : t.stage = .working (.submit spec body next)) (hm : p.config.mode = .pooled) :
    TaskStep p id t
      ((p.setTask id { t with stage := .tracking p.tasks.length (next p.tasks.length) }).enlist
        { Task.fresh spec body with stage := .created }).1
  | abandon {spec : TaskSpec} {body : List Path → Work σ} {next : TaskId → Work σ}
    (hs : t.stage = .working (.submit spec body next)) (hm : p.config.mode = .inline) :
    TaskStep p id t ((p.release.setTask id (t.close true)).enlist (Task.fresh spec body)).1
  | track {other : TaskId} {work : Work σ} (hs : t.stage = .tracking other work) :
    TaskStep p id t ((p.setTask id { t with stage := .working work }).track other)

theorem taskStep_of_workStep? {p q : Pool σ} {id : TaskId} {t : Task σ} {w : Work σ}
    (hs : t.stage = .working w) (h : p.workStep? id t w = some q) : TaskStep p id t q := by
  unfold workStep? at h
  split at h
  · cases h; exact .finish hs
  · cases h; exact .unwind hs
  · cases h; exact .act hs
  · split at h
    · next hr => cases h; exact .await hs hr
    · exact nomatch h
  · cases h; exact .ask hs
  · split at h
    · next hm => cases h; exact .submit hs hm
    · next hm => cases h; exact .abandon hs hm

/-- A step is of one of the kinds. -/
theorem taskStep_of_step? {p q : Pool σ} {id : TaskId} (h : p.step? id = some q) :
    ∃ t, p.tasks[id]? = some t ∧ TaskStep p id t q := by
  unfold step? at h
  split at h
  · exact nomatch h
  next t ht =>
  refine ⟨t, ht, ?_⟩
  split at h
  · exact nomatch h
  · next hs => cases h; exact .start hs
  · next hs =>
    split at h
    · exact nomatch h
    · next hp => cases h; exact .find hs hp
    · next hp => cases h; exact .refuse hs hp
  · next hs =>
    split at h
    · exact nomatch h
    · next hf => cases h; exact .call hs (Nat.pos_of_ne_zero hf)
  · next hs => exact taskStep_of_workStep? hs h
  · next hs => cases h; exact .track hs
  · exact nomatch h

/-- A step of each kind is one that the pool makes. -/
theorem TaskStep.step? {p q : Pool σ} {id : TaskId} {t : Task σ} (ht : p.tasks[id]? = some t)
    (h : TaskStep p id t q) : p.step? id = some q := by
  cases h with
  | start hs | track hs => simp [Pool.step?, ht, hs]
  | find hs hp | refuse hs hp => simp [Pool.step?, ht, hs, hp]
  | call hs hf => simp [Pool.step?, ht, hs, Nat.ne_of_gt hf]
  | finish hs | unwind hs | act hs | ask hs => simp [Pool.step?, workStep?, ht, hs]
  | await hs hr => simp [Pool.step?, workStep?, ht, hs, hr]
  | submit hs hm | abandon hs hm => simp [Pool.step?, workStep?, ht, hs, hm]

theorem TaskStep.config_eq {p q : Pool σ} {id : TaskId} {t : Task σ} (h : TaskStep p id t q) :
    q.config = p.config := by
  cases h <;> rfl

/-- A pool that can go on comes to rest where its first step leads. -/
theorem settle_eq_of_advance? {p q : Pool σ} (h : p.advance? = some q) : p.settle = q.settle := by
  rw [settle]
  split
  next hnone => rw [h] at hnone; cases hnone
  next r hr =>
    obtain rfl := Option.some.inj (h.symm.trans hr)
    rfl

/-- The pool after `n` steps, if there are so many. -/
def advances (p : Pool σ) : Nat → Option (Pool σ)
  | 0 => some p
  | n + 1 => p.advance?.bind fun q => q.advances n

/-- A pool comes to rest after any number of steps that leave none. -/
theorem settle_eq_of_advances {n : Nat} {p q : Pool σ} (h : p.advances n = some q)
    (hq : q.advance? = none) : p.settle = q := by
  induction n generalizing p with
  | zero =>
    obtain rfl := Option.some.inj h
    exact settle_eq_self hq
  | succ n ih =>
    obtain ⟨r, hr, h⟩ := Option.bind_eq_some_iff.1 h
    rw [settle_eq_of_advance? hr, ih h]

theorem settle_config (p : Pool σ) : p.settle.config = p.config := by
  fun_induction settle p with
  | case1 p h => rfl
  | case2 p q h ih =>
    obtain ⟨i, hstep⟩ := step_of_advance? h
    obtain ⟨t, _, hstep⟩ := taskStep_of_step? hstep
    exact ih.trans hstep.config_eq

theorem TaskStep.here_eq {p q : Pool σ} {id : TaskId} {t : Task σ} (h : TaskStep p id t q) :
    q.here = p.here := by
  cases h <;> rfl

end Pool

namespace Task

variable {σ : Type}

/-- What a task of the pool `p` may become next: by a step of its own, or, when it is only listed,
by being handed to the workers. -/
inductive Next (p : Pool σ) (t : Task σ) : Task σ → Prop where
  | spawn (hs : t.stage = .listed) : Next p t { t with stage := .created }
  | start (hs : t.stage = .created) : Next p t { t with stage := .gathering [] t.spec.inputs }
  | find {found : List Path} {ref : PathRef} {rest : List PathRef} {path : Path}
    (hs : t.stage = .gathering found (ref :: rest)) (h : p.pathNow? ref = some (.ok path)) :
    Next p t { t with stage := .gathering (found ++ [path]) rest }
  | refuse {found : List Path} {ref : PathRef} {rest : List PathRef} {e : Failure}
    (hs : t.stage = .gathering found (ref :: rest)) (h : p.pathNow? ref = some (.error e)) :
    Next p t (t.refuse e)
  | call {found : List Path} (hs : t.stage = .gathering found []) : Next p t (t.call found)
  | finish {result : Except Failure Unit} (hs : t.stage = .working (.done result)) :
    Next p t (t.finish result)
  | unwind (hs : t.stage = .working .unwind) : Next p t (t.close true)
  | act {effect : σ → σ × Except Failure String} {next : Except Failure String → Work σ}
    (hs : t.stage = .working (.act effect next)) (r : Except Failure String) :
    Next p t { t with stage := .working (next r) }
  | await {ready : σ → Bool} {next : Work σ} (hs : t.stage = .working (.await ready next)) :
    Next p t { t with stage := .working next }
  | ask {other : TaskId} {next : Except Failure Outcome → Work σ}
    (hs : t.stage = .working (.ask other next)) (r : Except Failure Outcome) :
    Next p t { t with stage := .working (next r) }
  | submit {spec : TaskSpec} {body : List Path → Work σ} {next : TaskId → Work σ}
    (hs : t.stage = .working (.submit spec body next)) (id : TaskId) :
    Next p t { t with stage := .tracking id (next id) }
  | abandon {spec : TaskSpec} {body : List Path → Work σ} {next : TaskId → Work σ}
    (hs : t.stage = .working (.submit spec body next)) : Next p t (t.close true)
  | track {other : TaskId} {work : Work σ} (hs : t.stage = .tracking other work) :
    Next p t { t with stage := .working work }

/-- A task that nobody has taken up yet. -/
structure IsNew (t : Task σ) : Prop where
  state : t.state = .pending
  stage : t.stage = .listed ∨ t.stage = .created
  calls : t.calls = []

theorem isNew_fresh (spec : TaskSpec) (body : List Path → Work σ) : (fresh spec body).IsNew :=
  ⟨rfl, .inl rfl, rfl⟩

end Task

namespace Pool

variable {σ : Type}

/-- A step gives one task its next form, and lists at most one task, which is new and which the work
of the first one has submitted. -/
theorem TaskStep.tasks_eq {p q : Pool σ} {id : TaskId} {t : Task σ} (h : TaskStep p id t q) :
    ∃ u, t.Next p u ∧ (q.tasks = p.tasks.set id u ∨
      ∃ new next, t.stage = .working (.submit new.spec new.body next) ∧ new.IsNew ∧
        q.tasks = p.tasks.set id u ++ [new]) := by
  cases h with
  | start hs => exact ⟨_, .start hs, .inl rfl⟩
  | find hs h => exact ⟨_, .find hs h, .inl rfl⟩
  | refuse hs h => exact ⟨_, .refuse hs h, .inl rfl⟩
  | call hs _ => exact ⟨_, .call hs, .inl rfl⟩
  | finish hs => exact ⟨_, .finish hs, .inl rfl⟩
  | unwind hs => exact ⟨_, .unwind hs, .inl rfl⟩
  | act hs => exact ⟨_, .act hs _, .inl rfl⟩
  | await hs _ => exact ⟨_, .await hs, .inl rfl⟩
  | ask hs => exact ⟨_, .ask hs _, .inl rfl⟩
  | submit hs _ => exact ⟨_, .submit hs _, .inr ⟨_, _, hs, ⟨rfl, .inr rfl, rfl⟩, rfl⟩⟩
  | @abandon spec body _ hs _ =>
    exact ⟨_, .abandon hs, .inr ⟨Task.fresh spec body, _, hs, Task.isNew_fresh spec body, rfl⟩⟩
  | track hs => exact ⟨_, .track hs, .inl rfl⟩

/-- What holds of every task holds after a step if it holds of the next form of the task that made
the step and of what its work has submitted. -/
theorem TaskStep.each {P : Nat → Task σ → Prop} {p q : Pool σ} {id : TaskId} {t : Task σ}
    (h : TaskStep p id t q) (hp : p.Each P) (hu : ∀ u, t.Next p u → P id u)
    (hn : ∀ new next, t.stage = .working (.submit new.spec new.body next) → new.IsNew →
      P p.tasks.length new) : q.Each P := by
  obtain ⟨u, hnext, htasks | ⟨new, next, hs, hnew, htasks⟩⟩ := h.tasks_eq
  · intro i x hx
    rw [htasks] at hx
    exact hp.setTask (hu u hnext) i x hx
  · intro i x hx
    rw [htasks] at hx
    refine Each.enlist (hp.setTask (hu u hnext)) ?_ i x hx
    rw [setTask_tasks, List.length_set]
    exact hn new next hs hnew

end Pool

end NativeBuild
