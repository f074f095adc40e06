import Mathlib.Data.Option.Basic
import NativeBuild.Proofs.Path.Absolute
import NativeBuild.Proofs.Pool.LifeCycle
import NativeBuild.Proofs.Pool.Steady

/-!
Two pools beside each other, which differ in their worlds and in the directory that paths are made
absolute in.  As long as the worlds cannot be told apart by the work, and all paths are absolute, they go
the same way step by step.
-/

namespace NativeBuild

variable {σ : Type} {R : σ → σ → Prop}

/-- Whether a path is not seen from the current directory. -/
def PathRef.Rooted : PathRef → Prop
  | .literal p => p.isAbsolute = true
  | .task _ => True

/-- Whether none of the paths of a task is seen from the current directory. -/
structure TaskSpec.Rooted (spec : TaskSpec) : Prop where
  output : ∀ p, spec.output = some p → p.isAbsolute = true
  inputs : ∀ ref ∈ spec.inputs, ref.Rooted

/-- An outcome whose path is absolute gives the same path everywhere. -/
theorem Outcome.resolve_elsewhere {o : Outcome} (h : ∀ p, o.path? = some p → p.isAbsolute = true)
    (here here' : Path) (policy : Policy) (label : String) :
    o.resolve here policy label = o.resolve here' policy label := by
  cases o with
  | completed output =>
    cases output with
    | none => rfl
    | some p => exact congrArg Except.ok (Path.absolute_elsewhere (h p rfl) here here')
  | failed nominal message =>
    cases policy with
    | strict => rfl
    | bestEffort =>
      cases nominal with
      | none => rfl
      | some p => exact congrArg Except.ok (Path.absolute_elsewhere (h p rfl) here here')

/-- Whether work goes the same way in worlds that `R` relates, and keeps them related. -/
def Work.Respects (R : σ → σ → Prop) : Work σ → Prop
  | .done _ => True
  | .unwind => True
  | .act effect next =>
    (∀ w w', R w w' → R (effect w).1 (effect w').1 ∧ (effect w).2 = (effect w').2) ∧
      ∀ answer, (next answer).Respects R
  | .await ready next => (∀ w w', R w w' → ready w = ready w') ∧ next.Respects R
  | .ask _ next => ∀ answer, (next answer).Respects R
  | .submit spec body next =>
    spec.Rooted ∧ (∀ inputs, (body inputs).Respects R) ∧ ∀ id, (next id).Respects R

/-- Whether what is left of a task goes the same way in worlds that `R` relates. -/
structure Task.Respects (R : σ → σ → Prop) (t : Task σ) : Prop where
  spec : t.spec.Rooted
  body : ∀ inputs, (t.body inputs).Respects R
  names : t.NamesOutput
  stage : match t.stage with
    | .gathering _ rest => ∀ ref ∈ rest, ref.Rooted
    | .working w | .tracking _ w => w.Respects R
    | .listed | .created | .ended _ => True

namespace Task

variable {p : Pool σ} {t u : Task σ}

theorem IsNew.respects (h : t.IsNew) (hspec : t.spec.Rooted)
    (hbody : ∀ inputs, (t.body inputs).Respects R) : t.Respects R := by
  refine ⟨hspec, hbody, h.namesOutput, ?_⟩
  rcases h.stage with hs | hs <;> simp only [hs]

theorem Next.respects (h : t.Next p u) (ht : t.Respects R) : u.Respects R := by
  have hstage := ht.stage
  refine ⟨?_, ?_, h.namesOutput ht.names, ?_⟩
  · cases h <;> exact ht.spec
  · cases h <;> exact ht.body
  · cases h with
    | spawn hs | refuse hs _ | finish hs | unwind hs | abandon hs => trivial
    | start hs => exact ht.spec.inputs
    | find hs _ =>
      rw [hs] at hstage
      exact fun ref href => hstage ref (List.mem_cons_of_mem _ href)
    | call hs => exact ht.body _
    | act hs answer =>
      rw [hs] at hstage
      exact hstage.2 answer
    | await hs =>
      rw [hs] at hstage
      exact hstage.2
    | ask hs answer =>
      rw [hs] at hstage
      exact hstage answer
    | submit hs id =>
      rw [hs] at hstage
      exact hstage.2.2 id
    | track hs =>
      rw [hs] at hstage
      exact hstage

end Task

namespace Pool

variable {p q : Pool σ}

/-- Whether a pool differs from another one only in its world, which `R` relates to that of the other,
and in its directory. -/
inductive Beside (R : σ → σ → Prop) (p : Pool σ) : Pool σ → Prop where
  | mk {here : Path} {world : σ} (h : R p.world world) : Beside R p { p with here, world }

/-- Whether all tasks of a pool go the same way in worlds that `R` relates. -/
def Respects (R : σ → σ → Prop) (p : Pool σ) : Prop :=
  p.Each fun _ t => t.Respects R

theorem TaskStep.respects {id : TaskId} {t : Task σ} (h : TaskStep p id t q)
    (ht : p.tasks[id]? = some t) (hp : p.Respects R) : q.Respects R := by
  refine h.each hp (fun u hu => hu.respects (hp id t ht)) fun new next hs hnew => ?_
  have hstage := (hp id t ht).stage
  rw [hs] at hstage
  exact hnew.respects hstage.1 hstage.2.1

namespace Beside

theorem tasks_eq (h : p.Beside R q) : q.tasks = p.tasks := by
  obtain ⟨_⟩ := h
  rfl

theorem config_eq (h : p.Beside R q) : q.config = p.config := by
  obtain ⟨_⟩ := h
  rfl

theorem world (h : p.Beside R q) : R p.world q.world := by
  obtain ⟨hw⟩ := h
  exact hw

/-- A path is known in both pools or in neither, and it is the same. -/
theorem pathNow? (h : p.Beside R q) (hp : p.Respects R) {ref : PathRef} (href : ref.Rooted) :
    q.pathNow? ref = p.pathNow? ref := by
  obtain ⟨_⟩ := h
  cases ref with
  | literal path => exact congrArg (some ∘ Except.ok) (Path.absolute_elsewhere href _ _)
  | task id =>
    show (p.outcome? id).map _ = (p.outcome? id).map _
    cases ho : p.outcome? id with
    | none => rfl
    | some o =>
      -- An outcome names the output of its task, which is absolute.
      obtain ⟨t, ht, hto⟩ := exists_of_outcome? ho
      have hnames : o.path? = t.spec.output := (hp id t ht).names o hto
      refine congrArg some (Outcome.resolve_elsewhere (fun path hpath => ?_) ..)
      exact (hp id t ht).spec.output path (hnames.symm.trans hpath)

theorem workStep? (h : p.Beside R q) {id : TaskId} {t : Task σ} {w : Work σ} (hw : w.Respects R) :
    Option.Rel (Beside R) (p.workStep? id t w) (q.workStep? id t w) := by
  obtain ⟨hworld⟩ := h
  cases w with
  | done result => exact .some ⟨hworld⟩
  | unwind => exact .some ⟨hworld⟩
  | act effect next =>
    obtain ⟨hkeep, hanswer⟩ := hw.1 _ _ hworld
    simp only [Pool.workStep?, ← hanswer]
    exact .some ⟨hkeep⟩
  | await ready next =>
    simp only [Pool.workStep?, ← hw.1 _ _ hworld]
    split
    · exact .some ⟨hworld⟩
    · exact .none
  | ask other next => exact .some ⟨hworld⟩
  | submit spec body next =>
    simp only [Pool.workStep?]
    split
    · exact .some ⟨hworld⟩
    · exact .some ⟨hworld⟩

/-- A task makes its step in both pools or in neither, and they stay beside each other. -/
theorem step? (h : p.Beside R q) (hp : p.Respects R) (id : TaskId) :
    Option.Rel (Beside R) (p.step? id) (q.step? id) := by
  unfold Pool.step?
  rw [h.tasks_eq]
  cases ht : p.tasks[id]? with
  | none => exact .none
  | some t =>
    have hstage := (hp id t ht).stage
    cases hs : t.stage with
    | listed | ended _ => simp only [hs]; exact .none
    | created | tracking _ _ =>
      obtain ⟨hworld⟩ := h
      simp only [hs]
      exact .some ⟨hworld⟩
    | working w =>
      rw [hs] at hstage
      simp only [hs]
      exact h.workStep? hstage
    | gathering found rest =>
      rw [hs] at hstage
      cases rest with
      | nil =>
        obtain ⟨hworld⟩ := h
        simp only [hs]
        split
        · exact .none
        · exact .some ⟨hworld⟩
      | cons ref rest =>
        simp only [hs, h.pathNow? hp (hstage ref List.mem_cons_self)]
        obtain ⟨hworld⟩ := h
        split
        · exact .none
        · exact .some ⟨hworld⟩
        · exact .some ⟨hworld⟩

theorem findSome? {β γ : Type} {P : β → γ → Prop} {f : TaskId → Option β} {g : TaskId → Option γ}
    (h : ∀ id, Option.Rel P (f id) (g id)) (ids : List TaskId) :
    Option.Rel P (ids.findSome? f) (ids.findSome? g) := by
  induction ids with
  | nil => exact .none
  | cons id rest ih =>
    rw [List.findSome?_cons, List.findSome?_cons]
    have hid := h id
    generalize f id = x, g id = y at hid ⊢
    cases hid with
    | none => exact ih
    | some hxy => exact .some hxy

theorem advance? (h : p.Beside R q) (hp : p.Respects R) :
    Option.Rel (Beside R) p.advance? q.advance? := by
  unfold Pool.advance?
  rw [h.tasks_eq]
  exact findSome? (h.step? hp) _

/-- Pools beside each other come to rest beside each other. -/
theorem settle (h : p.Beside R q) (hp : p.Respects R) :
    p.settle.Beside R q.settle ∧ p.settle.Respects R := by
  fun_induction Pool.settle p generalizing q with
  | case1 p hrest =>
    have hadvance := h.advance? hp
    rw [hrest] at hadvance
    cases hq : q.advance? with
    | none => rw [settle_eq_self hq]; exact ⟨h, hp⟩
    | some r => rw [hq] at hadvance; cases hadvance
  | case2 p p' hgo ih =>
    have hadvance := h.advance? hp
    rw [hgo] at hadvance
    cases hq : q.advance? with
    | none => rw [hq] at hadvance; cases hadvance
    | some r =>
      rw [hq] at hadvance
      cases hadvance with
      | some hbeside =>
        obtain ⟨id, hstep⟩ := step_of_advance? hgo
        obtain ⟨t, ht, hstep⟩ := taskStep_of_step? hstep
        rw [settle_eq_of_advance? hq]
        exact ih hbeside (hstep.respects ht hp)

theorem track (h : p.Beside R q) (id : TaskId) : (p.track id).Beside R (q.track id) := by
  obtain ⟨hworld⟩ := h
  exact ⟨hworld⟩

theorem enlist (h : p.Beside R q) (t : Task σ) : (p.enlist t).1.Beside R (q.enlist t).1 := by
  obtain ⟨hworld⟩ := h
  exact ⟨hworld⟩

theorem spawn (h : p.Beside R q) (id : TaskId) : (p.spawn id).Beside R (q.spawn id) := by
  obtain ⟨hworld⟩ := h
  unfold Pool.spawn
  dsimp only
  split
  · exact ⟨hworld⟩
  · exact ⟨hworld⟩

end Beside

theorem Respects.spawn (hp : p.Respects R) (id : TaskId) : (p.spawn id).Respects R := by
  unfold Pool.spawn
  split
  · next t ht =>
    obtain ⟨hspec, hbody, hnames, -⟩ := hp id t ht
    exact hp.setTask ⟨hspec, hbody, hnames, trivial⟩
  · exact hp

variable {spec : TaskSpec} {body : List Path → Work σ}

theorem Respects.enlist (hp : p.Respects R) (hspec : spec.Rooted)
    (hbody : ∀ inputs, (body inputs).Respects R) :
    (p.enlist (Task.fresh spec body)).1.Respects R :=
  Each.enlist hp ((Task.isNew_fresh spec body).respects hspec hbody)

theorem Beside.handOver (h : p.Beside R q) :
    (p.handOver spec body).Beside R (q.handOver spec body) := by
  unfold Pool.handOver
  rw [h.tasks_eq]
  exact (h.enlist (Task.fresh spec body)).spawn p.tasks.length

/-- Submitting the same task to both keeps pools beside each other.  In pooled mode nothing is asked of
the work, which does not begin yet. -/
theorem Beside.submit (h : p.Beside R q)
    (hp : p.config.mode = .inline →
      p.Respects R ∧ spec.Rooted ∧ ∀ inputs, (body inputs).Respects R) :
    (p.submit .outside spec body).1.Beside R (q.submit .outside spec body).1 ∧
      (p.submit .outside spec body).2.1 = (q.submit .outside spec body).2.1 ∧
      (p.config.mode = .inline → (p.submit .outside spec body).1.Respects R) := by
  have hlength : q.tasks.length = p.tasks.length := by rw [h.tasks_eq]
  have hmode' := congrArg PoolConfig.mode h.config_eq
  cases hmode : p.config.mode with
  | pooled =>
    rw [hmode] at hmode'
    rw [submit_pooled hmode, submit_pooled hmode', hlength]
    exact ⟨h.handOver.track p.tasks.length, rfl, fun hinline => nomatch hinline⟩
  | inline =>
    rw [hmode] at hmode'
    obtain ⟨hrespects, hspec, hbody⟩ := hp hmode
    obtain ⟨hbeside, hsettled⟩ := h.handOver.settle ((hrespects.enlist hspec hbody).spawn _)
    rw [submit_inline hmode, submit_inline hmode', hlength]
    exact ⟨hbeside, rfl, fun _ => hsettled⟩

theorem submit_config (p : Pool σ) (spec : TaskSpec) (body : List Path → Work σ) :
    (p.submit .outside spec body).1.config = p.config := by
  cases hmode : p.config.mode with
  | pooled => rw [submit_pooled hmode, track_config, handOver_config]
  | inline => rw [submit_inline hmode, settle_config, handOver_config]

end Pool

end NativeBuild
