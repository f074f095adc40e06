import Mathlib.Data.List.Forall2
import NativeBuild.Proofs.Shared.Basic

/-!
Programs that differ in the calls they make, and pools that differ in the programs they run.  Where
a call from inside the runtime is refused nothing changes but the program that made it; so a program
without the call finds the pool as it would find it after the call.
-/

namespace NativeBuild

/-! ### Lists that are related place by place -/

section

variable {α β γ : Type} {R : α → β → Prop} {l : List α} {l' : List β} {a : α} {b : β} {i : Nat}

theorem exists_getElem?_of_forall₂ (h : List.Forall₂ R l l') (ha : l[i]? = some a) :
    ∃ b, l'[i]? = some b ∧ R a b := by
  induction h generalizing i with
  | nil => simp at ha
  | cons hab _ ih =>
    cases i with
    | zero =>
      obtain rfl := Option.some.inj ha
      exact ⟨_, rfl, hab⟩
    | succ i => exact ih ha

theorem forall₂_set (h : List.Forall₂ R l l') (hab : R a b) (i : Nat) :
    List.Forall₂ R (l.set i a) (l'.set i b) := by
  induction h generalizing i with
  | nil => exact .nil
  | cons hhead htail ih =>
    cases i with
    | zero => exact .cons hab htail
    | succ i => exact .cons hhead (ih i)

/-- What was set in the first list may be taken back, if the second list is changed with it. -/
theorem forall₂_set_back {x : α} (h : List.Forall₂ R (l.set i x) l') (ha : l[i]? = some a)
    (hab : R a b) : List.Forall₂ R l (l'.set i b) := by
  have hback := forall₂_set h hab i
  obtain ⟨hlt, hget⟩ := List.getElem?_eq_some_iff.1 ha
  rwa [List.set_set, ← hget, List.set_getElem_self] at hback

/-- The same where what was set is related to no more than what was there before. -/
theorem forall₂_of_set {x : α} (h : List.Forall₂ R (l.set i x) l') (ha : l[i]? = some a)
    (hR : ∀ b, R x b → R a b) : List.Forall₂ R l l' := by
  have hx : (l.set i x)[i]? = some x := List.getElem?_set_self (List.getElem?_eq_some_iff.1 ha).1
  obtain ⟨b, hb, hxb⟩ := exists_getElem?_of_forall₂ h hx
  obtain ⟨hlt, hget⟩ := List.getElem?_eq_some_iff.1 hb
  have hback := forall₂_set_back h ha (hR b hxb)
  rwa [← hget, List.set_getElem_self] at hback

theorem forall₂_trans {S : β → γ → Prop} {T : α → γ → Prop} {l'' : List γ}
    (h : List.Forall₂ R l l') (h' : List.Forall₂ S l' l'') (hT : ∀ a b c, R a b → S b c → T a c) :
    List.Forall₂ T l l'' := by
  induction h generalizing l'' with
  | nil =>
    cases h'
    exact .nil
  | cons hab _ ih =>
    cases h' with
    | cons hbc htail => exact .cons (hT _ _ _ hab hbc) (ih htail)

/-- What is the same of what is related is the same all along the lists. -/
theorem map_eq_of_forall₂ {f : α → γ} {g : β → γ} (h : List.Forall₂ R l l')
    (hfg : ∀ a b, R a b → g b = f a) : l'.map g = l.map f := by
  induction h with
  | nil => rfl
  | cons hab _ ih => rw [List.map_cons, List.map_cons, hfg _ _ hab, ih]

theorem forall₂_append_left {m : List α} (h : List.Forall₂ R (l ++ m) l') :
    ∃ first second, l' = first ++ second ∧ List.Forall₂ R l first ∧ List.Forall₂ R m second := by
  refine ⟨l'.take l.length, l'.drop l.length, (List.take_append_drop _ _).symm, ?_, ?_⟩
  · exact (List.forall₂_take_append l' l m h.flip).flip
  · exact (List.forall₂_drop_append l' l m h.flip).flip

theorem forall₂_singleton (h : List.Forall₂ R [a] l') : ∃ b, l' = [b] ∧ R a b := by
  cases h with
  | cons hab hnil =>
    cases hnil
    exact ⟨_, rfl, hab⟩

end

/-! ### Programs -/

/-- What is left of the work of a task when some of its calls for outcomes are not made.  After such
a call it goes on as if the call had been refused. -/
inductive Work.Spares {σ : Type} : Work σ → Work σ → Prop where
  | refl (w : Work σ) : Spares w w
  | act {effect : σ → σ × Except Failure String} {next next' : Except Failure String → Work σ}
    (h : ∀ r, Spares (next r) (next' r)) : Spares (.act effect next) (.act effect next')
  | await {ready : σ → Bool} {next next' : Work σ} (h : Spares next next') :
    Spares (.await ready next) (.await ready next')
  | ask {id : TaskId} {next next' : Except Failure Outcome → Work σ}
    (h : ∀ r, Spares (next r) (next' r)) : Spares (.ask id next) (.ask id next')
  | submit {spec : TaskSpec} {body body' : List Path → Work σ} {next next' : TaskId → Work σ}
    (hbody : ∀ inputs, Spares (body inputs) (body' inputs))
    (h : ∀ id, Spares (next id) (next' id)) :
    Spares (.submit spec body next) (.submit spec body' next')
  | leave {id : TaskId} {label : String} {next : Except Failure Outcome → Work σ} {w : Work σ}
    (h : Spares (next (.error (.wouldBlock label))) w) : Spares (.ask id next) w

/-- What is left of the calls of a thread when some of its waits from inside the runtime are not
made, and some of the calls for outcomes by the work that it submits. -/
inductive Plan.Spares {σ : Type} : Plan σ → Plan σ → Prop where
  | refl (plan : Plan σ) : Spares plan plan
  | act {effect : σ → σ} {next next' : Plan σ} (h : Spares next next') :
    Spares (.act effect next) (.act effect next')
  | submit {caller : Caller} {spec : TaskSpec} {body body' : List Path → Work σ}
    {next next' : TaskId → Plan σ} (hbody : ∀ inputs, (body inputs).Spares (body' inputs))
    (h : ∀ id, Spares (next id) (next' id)) :
    Spares (.submit caller spec body next) (.submit caller spec body' next')
  | waitIdle {caller : Caller} {next next' : Except Failure Unit → Plan σ}
    (h : ∀ r, Spares (next r) (next' r)) :
    Spares (.waitIdle caller next) (.waitIdle caller next')
  | joinAll {caller : Caller} {next next' : Except Failure Report → Plan σ}
    (h : ∀ r, Spares (next r) (next' r)) : Spares (.joinAll caller next) (.joinAll caller next')
  | leaveIdle {next : Except Failure Unit → Plan σ} {plan : Plan σ}
    (h : Spares (next (.error (.wouldBlock "wait_idle"))) plan) :
    Spares (.waitIdle .inside next) plan
  | leaveJoin {next : Except Failure Report → Plan σ} {plan : Plan σ}
    (h : Spares (next (.error (.wouldBlock "wait_idle"))) plan) :
    Spares (.joinAll .inside next) plan

/-! ### Pools that run them -/

/-- Whether a task has not got so far that its body is called. -/
def Stage.IsEarly {σ : Type} : Stage σ → Prop
  | .listed | .created | .gathering _ _ => True
  | .working _ | .tracking _ _ | .ended _ => False

/-- Stages that agree but for the work, which is related by `W`. -/
inductive Stage.Like {σ : Type} (W : Work σ → Work σ → Prop) : Stage σ → Stage σ → Prop where
  | listed : Like W .listed .listed
  | created : Like W .created .created
  | gathering (found : List Path) (rest : List PathRef) :
    Like W (.gathering found rest) (.gathering found rest)
  | working {w w' : Work σ} (h : W w w') : Like W (.working w) (.working w')
  | tracking {id : TaskId} {w w' : Work σ} (h : W w w') : Like W (.tracking id w) (.tracking id w')
  | ended (unwound : Bool) : Like W (.ended unwound) (.ended unwound)

/-- Tasks that agree but for what they are yet to do, which is related by `W`. -/
structure Task.Like {σ : Type} (W : Work σ → Work σ → Prop) (t t' : Task σ) : Prop where
  spec : t'.spec = t.spec
  state : t'.state = t.state
  calls : t'.calls = t.calls
  stage : t.stage.Like W t'.stage
  body : t.stage.IsEarly → ∀ inputs, W (t.body inputs) (t'.body inputs)

/-- Pools that agree but for what their tasks are yet to do. -/
structure Pool.Like {σ : Type} (W : Work σ → Work σ → Prop) (p p' : Pool σ) : Prop where
  config : p'.config = p.config
  here : p'.here = p.here
  free : p'.free = p.free
  world : p'.world = p.world
  running : p'.running = p.running
  tasks : List.Forall₂ (Task.Like W) p.tasks p'.tasks

/-- What a report reads of a task. -/
def Task.face {σ : Type} (t : Task σ) : TaskSpec × TaskState :=
  (t.spec, t.state)

/-- Aims that agree but for what comes after them, which is related by `P`. -/
inductive Aim.Like {σ : Type} (P : Plan σ → Plan σ → Prop) : Aim σ → Aim σ → Prop where
  | idle {next next' : Except Failure Unit → Plan σ} (h : ∀ r, P (next r) (next' r)) :
    Like P (.idle next) (.idle next')
  | report {next next' : Except Failure Report → Plan σ} (h : ∀ r, P (next r) (next' r)) :
    Like P (.report next) (.report next')

/-- Threads that are equally far, and agree but for what they are yet to do, which is related by
`P`. -/
inductive Thread.Like {σ : Type} (P : Plan σ → Plan σ → Prop) : Thread σ → Thread σ → Prop where
  | free {plan plan' : Plan σ} (h : P plan plan') : Like P (.free plan) (.free plan')
  | listed {caller : Caller} {id : TaskId} {next next' : TaskId → Plan σ}
    (h : ∀ k, P (next k) (next' k)) : Like P (.listed caller id next) (.listed caller id next')
  | spawned {id : TaskId} {next next' : TaskId → Plan σ} (h : ∀ k, P (next k) (next' k)) :
    Like P (.spawned id next) (.spawned id next')
  | waiting {due batch : List TaskId} {aim aim' : Aim σ} (h : aim.Like P aim') :
    Like P (.waiting due batch aim) (.waiting due batch aim')
  | reading {due late : List TaskId} {count : Nat} {seen seen' : List (Task σ)}
    {next next' : Except Failure Report → Plan σ} (hseen : seen'.map Task.face = seen.map Task.face)
    (h : ∀ r, P (next r) (next' r)) :
    Like P (.reading due late count seen next) (.reading due late count seen' next')

/-- Shared pools that agree but for what tasks and threads are yet to do. -/
structure SharedPool.Like {σ : Type} (W : Work σ → Work σ → Prop) (P : Plan σ → Plan σ → Prop)
    (s s' : SharedPool σ) : Prop where
  pool : s.pool.Like W s'.pool
  threads : List.Forall₂ (Thread.Like P) s.threads s'.threads
  returned : s'.returned = s.returned

variable {σ : Type} {W : Work σ → Work σ → Prop} {P : Plan σ → Plan σ → Prop}

namespace Stage

variable {g g' g'' : Stage σ}

theorem Like.refl (hW : ∀ w, W w w) (g : Stage σ) : g.Like W g := by
  cases g with
  | listed => exact .listed
  | created => exact .created
  | gathering found rest => exact .gathering found rest
  | working w => exact .working (hW w)
  | tracking id w => exact .tracking (hW w)
  | ended unwound => exact .ended unwound

theorem Like.eq (h : g.Like Eq g') : g' = g := by
  cases h with
  | working heq | tracking heq => rw [heq]
  | listed | created | gathering _ _ | ended _ => rfl

theorem Like.trans_eq (h : g.Like W g') (h' : g'.Like Eq g'') : g.Like W g'' :=
  h'.eq ▸ h

theorem Like.eq_of_isEarly (h : g.Like W g') (hg : g.IsEarly) : g' = g := by
  cases h with
  | listed | created | gathering _ _ => rfl
  | working _ | tracking _ | ended _ => exact hg.elim

end Stage

namespace Task

variable {t t' t'' : Task σ}

theorem Like.refl (hW : ∀ w, W w w) (t : Task σ) : t.Like W t :=
  ⟨rfl, rfl, rfl, .refl hW t.stage, fun _ inputs => hW (t.body inputs)⟩

theorem Like.trans_eq (h : t.Like W t') (h' : t'.Like Eq t'') : t.Like W t'' where
  spec := h'.spec.trans h.spec
  state := h'.state.trans h.state
  calls := h'.calls.trans h.calls
  stage := h.stage.trans_eq h'.stage
  body hearly inputs :=
    h'.body ((h.stage.eq_of_isEarly hearly).symm ▸ hearly) inputs ▸ h.body hearly inputs

/-- What agrees with a new task is new but for its body. -/
theorem Like.fresh {spec : TaskSpec} {body : List Path → Work σ} {stage : Stage σ}
    (h : Task.Like W { Task.fresh spec body with stage } t) (hstage : stage.IsEarly) :
    t.Like Eq { Task.fresh spec t.body with stage } where
  spec := h.spec.symm
  state := h.state.symm
  calls := h.calls.symm
  stage := h.stage.eq_of_isEarly hstage ▸ .refl (fun _ => rfl) _
  body _ _ := rfl

theorem Like.face_eq (h : t.Like W t') : t'.face = t.face := by
  rw [face, face, h.spec, h.state]

theorem Like.outcome?_eq (h : t.Like W t') : t'.outcome? = t.outcome? := by
  rw [outcome?, outcome?, h.state]

end Task

namespace Pool

variable {p p' p'' : Pool σ} {i : TaskId}

theorem Like.refl (hW : ∀ w, W w w) (p : Pool σ) : p.Like W p :=
  ⟨rfl, rfl, rfl, rfl, rfl, List.forall₂_same.2 fun t _ => .refl hW t⟩

theorem Like.trans_eq (h : p.Like W p') (h' : p'.Like Eq p'') : p.Like W p'' where
  config := h'.config.trans h.config
  here := h'.here.trans h.here
  free := h'.free.trans h.free
  world := h'.world.trans h.world
  running := h'.running.trans h.running
  tasks := forall₂_trans h.tasks h'.tasks fun _ _ _ hab hbc => hab.trans_eq hbc

theorem Like.length_eq (h : p.Like W p') : p'.tasks.length = p.tasks.length :=
  h.tasks.length_eq.symm

/-- What there is to be seen of a task is the same in both pools. -/
theorem Like.getElem? (h : p.Like W p') (i : Nat) :
    p.tasks[i]? = none ∧ p'.tasks[i]? = none ∨
      ∃ t t', p.tasks[i]? = some t ∧ p'.tasks[i]? = some t' ∧ t.Like W t' := by
  cases ht : p.tasks[i]? with
  | none =>
    refine .inl ⟨rfl, List.getElem?_eq_none ?_⟩
    rw [h.length_eq]
    exact List.getElem?_eq_none_iff.1 ht
  | some t =>
    obtain ⟨t', ht', hlike⟩ := exists_getElem?_of_forall₂ h.tasks ht
    exact .inr ⟨t, t', rfl, ht', hlike⟩

theorem Like.state_eq (h : p.Like W p') (i : TaskId) : p'.state i = p.state i := by
  unfold state
  rcases h.getElem? i with ⟨ht, ht'⟩ | ⟨t, t', ht, ht', hlike⟩
  · rw [ht, ht']
  · rw [ht, ht']
    exact hlike.state

theorem Like.outcome?_eq (h : p.Like W p') (i : TaskId) : p'.outcome? i = p.outcome? i := by
  rw [outcome?, outcome?, h.state_eq]

theorem Like.label_eq (h : p.Like W p') (i : TaskId) : p'.label i = p.label i := by
  unfold label
  rcases h.getElem? i with ⟨ht, ht'⟩ | ⟨t, t', ht, ht', hlike⟩
  · rw [ht, ht']
  · rw [ht, ht']
    exact congrArg TaskSpec.label hlike.spec

theorem Like.answerInside_eq (h : p.Like W p') (i : TaskId) :
    p'.answerInside i = p.answerInside i := by
  rw [answerInside, answerInside, h.outcome?_eq, h.label_eq]

theorem Like.pathNow?_eq (h : p.Like W p') (ref : PathRef) : p'.pathNow? ref = p.pathNow? ref := by
  cases ref with
  | literal path => rw [pathNow?, pathNow?, h.here]
  | task id =>
    have hpath : p'.outcomePath id = p.outcomePath id := by
      funext o
      rw [outcomePath, outcomePath, h.here, h.config, h.label_eq]
    rw [pathNow?, pathNow?, h.outcome?_eq, hpath]

theorem Like.ending?_eq (h : p.Like W p') (i : TaskId) : p'.ending? i = p.ending? i := by
  unfold ending?
  rcases h.getElem? i with ⟨ht, ht'⟩ | ⟨t, t', ht, ht', hlike⟩
  · rw [ht, ht']
  · simp only [ht, ht']
    have hstage := hlike.stage
    generalize t.stage = g at hstage ⊢
    generalize t'.stage = g' at hstage ⊢
    cases hstage <;> rfl

theorem Like.returning_eq (h : p.Like W p') (i : TaskId) :
    SharedPool.returning p' i = SharedPool.returning p i := by
  unfold SharedPool.returning
  rcases h.getElem? i with ⟨ht, ht'⟩ | ⟨t, t', ht, ht', hlike⟩
  · rw [ht, ht']
  · simp only [ht, ht']
    have hstage := hlike.stage
    generalize t.stage = g at hstage ⊢
    generalize t'.stage = g' at hstage ⊢
    cases hstage <;> rfl

/-- What a report says of a task that it has read so. -/
def failureOfFace? (f : TaskSpec × TaskState) : Option TaskFailure :=
  match f.2 with
  | .finished (.completed _) => none
  | .finished (.failed _ message) => some ⟨f.1.label, message⟩
  | _ => some ⟨f.1.label, "task never finished"⟩

theorem report_eq_faces (p : Pool σ) : p.report =
    { completed := (p.tasks.map Task.face).countP fun f => (failureOfFace? f).isNone
      failed := (p.tasks.map Task.face).filterMap failureOfFace? } := by
  rw [List.countP_map, List.filterMap_map]
  rfl

/-- A report depends on what it reads of the tasks. -/
theorem verdict_eq_of_face (hconfig : p'.config = p.config)
    (h : p'.tasks.map Task.face = p.tasks.map Task.face) : p'.verdict = p.verdict := by
  rw [verdict, verdict, report_eq_faces, report_eq_faces, h, hconfig]

theorem Like.verdict_eq (h : p.Like W p') : p'.verdict = p.verdict :=
  verdict_eq_of_face h.config (map_eq_of_forall₂ h.tasks fun _ _ hlike => hlike.face_eq)

end Pool

theorem Aim.Like.refl (hP : ∀ plan, P plan plan) (aim : Aim σ) : aim.Like P aim := by
  cases aim with
  | idle next => exact .idle fun r => hP (next r)
  | report next => exact .report fun r => hP (next r)

theorem Aim.Like.trans_eq {aim aim' aim'' : Aim σ} (h : aim.Like P aim') (h' : aim'.Like Eq aim'') :
    aim.Like P aim'' := by
  cases h' with
  | idle heq | report heq => exact (funext heq) ▸ h

namespace Thread

variable {t t' t'' : Thread σ}

theorem Like.refl (hP : ∀ plan, P plan plan) (t : Thread σ) : t.Like P t := by
  cases t with
  | free plan => exact .free (hP plan)
  | listed caller id next => exact .listed fun k => hP (next k)
  | spawned id next => exact .spawned fun k => hP (next k)
  | waiting due batch aim => exact .waiting (.refl hP aim)
  | reading due late count seen next => exact .reading rfl fun r => hP (next r)

theorem Like.trans_eq (h : t.Like P t') (h' : t'.Like Eq t'') : t.Like P t'' := by
  cases h' with
  | free heq => exact heq ▸ h
  | listed heq | spawned heq => exact (funext heq) ▸ h
  | waiting heq =>
    cases h with
    | waiting h => exact .waiting (h.trans_eq heq)
  | reading hseen heq =>
    cases h with
    | reading hseen' h => exact .reading (hseen.trans hseen') fun r => heq r ▸ h r

theorem Like.batch_eq (h : t.Like P t') : t'.batch = t.batch := by
  cases h <;> rfl

end Thread

namespace SharedPool

variable {s s' s'' : SharedPool σ}

theorem Like.refl (hW : ∀ w, W w w) (hP : ∀ plan, P plan plan) (s : SharedPool σ) : s.Like W P s :=
  ⟨.refl hW s.pool, List.forall₂_same.2 fun t _ => .refl hP t, rfl⟩

theorem Like.trans_eq (h : s.Like W P s') (h' : s'.Like Eq Eq s'') : s.Like W P s'' where
  pool := h.pool.trans_eq h'.pool
  threads := forall₂_trans h.threads h'.threads fun _ _ _ hab hbc => hab.trans_eq hbc
  returned := h'.returned.trans h.returned

theorem Like.late_eq (h : s.Like W P s') (due : List TaskId) : s'.late due = s.late due := by
  have hbatches : s'.threads.map Thread.batch = s.threads.map Thread.batch :=
    map_eq_of_forall₂ h.threads fun _ _ hlike => hlike.batch_eq
  have hany : ∀ k, (s'.threads.any fun t => t.batch.contains k) =
      s.threads.any fun t => t.batch.contains k := by
    intro k
    have hmap := congrArg (List.any · fun batch => batch.contains k) hbatches
    rw [List.any_map, List.any_map] at hmap
    exact hmap
  unfold late
  refine List.filter_congr fun k _ => ?_
  rw [h.pool.outcome?_eq, hany]

end SharedPool

end NativeBuild
