import Mathlib.Data.List.Forall2
import NativeBuild.Proofs.Pool.Cause
import NativeBuild.Proofs.Pool.LifeCycle

/-!
What the work of a task is called with.  A task finds its inputs one after another, each of them when
the task that is to give it has finished, and its work is called when all of them are there.
-/

namespace NativeBuild

namespace Task

/-- A step calls the work of its task only with what the task has found, when nothing is left to find.
-/
theorem Next.called {σ : Type} {p : Pool σ} {t u : Task σ} (h : t.Next p u) :
    u.calls = t.calls ∨ ∃ found, t.stage = .gathering found [] ∧ u = t.call found := by
  cases h with
  | call hs => exact .inr ⟨_, hs, rfl⟩
  | spawn _ | start _ | find _ _ | refuse _ _ | finish _ | unwind _ | act _ _ | await _ | ask _ _
  | submit _ _ | abandon _ | track _ => exact .inl rfl

end Task

namespace Pool

variable {σ : Type} {config : PoolConfig} {here : Path} {world : σ} {p q : Pool σ} {i k : TaskId}
  {t u : Task σ} {ref : PathRef} {path : Path}

/-- Whether `path` is what a reference gives: the absolute form of the path that is known, or of the
output that a task declared which has finished, and which in a strict pool has completed. -/
inductive Gives (p : Pool σ) : PathRef → Path → Prop where
  | literal (path : Path) : Gives p (.literal path) (path.absolute p.here)
  | task {k : TaskId} {t : Task σ} {o : Outcome} {output : Path} (ht : p.tasks[k]? = some t)
    (ho : t.outcome? = some o) (houtput : t.spec.output = some output)
    (hs : p.config.policy = .strict → o = .completed (some output)) :
    Gives p (.task k) (output.absolute p.here)

/-- What a task has found of its inputs, and what its work has been called with. -/
structure Fed (p : Pool σ) (t : Task σ) : Prop where
  gathering : ∀ found rest, t.stage = .gathering found rest →
    ∃ had, t.spec.inputs = had ++ rest ∧ List.Forall₂ p.Gives had found
  calls : ∀ inputs ∈ t.calls, List.Forall₂ p.Gives t.spec.inputs inputs

/-- What the work of a task has been called with; nothing, if there is no such task. -/
def calls (p : Pool σ) (i : TaskId) : List (List Path) :=
  match p.tasks[i]? with
  | some t => t.calls
  | none => []

theorem calls_eq (ht : p.tasks[i]? = some t) : p.calls i = t.calls := by
  rw [calls, ht]

theorem calls_eq_nil (ht : p.tasks[i]? = none) : p.calls i = [] := by
  rw [calls, ht]

/-! ### What a reference gives -/

/-- The outcome that a reference gives a path by names the output that its task declared. -/
theorem gives_of_pathNow? (hp : p.Each fun _ t => t.NamesOutput)
    (h : p.pathNow? ref = some (.ok path)) : p.Gives ref path := by
  cases ref with
  | literal l =>
    cases h
    exact .literal l
  | task k =>
    obtain ⟨o, ho, hr⟩ := Option.map_eq_some_iff.1 h
    obtain ⟨t, ht, hto⟩ := exists_of_outcome? ho
    have hnames := hp k t ht o hto
    unfold outcomePath Outcome.resolve at hr
    split at hr
    · next output =>
      cases hr
      exact .task ht hto hnames.symm fun _ => rfl
    · exact nomatch hr
    · next nominal message =>
      split at hr
      · next output hpolicy =>
        cases hr
        exact .task ht hto hnames.symm fun hstrict => nomatch hpolicy.symm.trans hstrict
      · exact nomatch hr

/-- A path that has been given stays what it is. -/
theorem Gives.grows (h : p.Gives ref path) (hg : p.Grows q) (hs : p.Each fun _ t => t.Accounted)
    (hhere : q.here = p.here) (hconfig : q.config = p.config) : q.Gives ref path := by
  cases h with
  | literal l =>
    rw [← hhere]
    exact .literal l
  | task ht ho houtput hstrict =>
    rw [← hhere]
    exact .task (hg.ended ht ((hs _ _ ht).isEnded_of_outcome? ho)) ho houtput fun hp =>
      hstrict (hconfig ▸ hp)

theorem Change.gives (h : Change p q) (hs : p.Each fun _ t => t.Accounted) (hg : p.Gives ref path) :
    q.Gives ref path :=
  hg.grows h.grows hs h.here_eq h.config_eq

/-! ### What every change keeps -/

/-- Where a task of a pool comes from that a change has led to. -/
theorem Change.origin (h : Change p q) (hu : q.tasks[i]? = some u) :
    p.tasks[i]? = some u ∨
    (∃ t, p.tasks[i]? = some t ∧ (t.Next p u ∨ t.isEnded = false ∧ u = t.drop)) ∨
    u.IsNew ∧ p.tasks.length ≤ i := by
  cases h with
  | move h =>
    rcases h.origin hu with hu | ⟨t, ht, hnext, -⟩ | hnew
    · exact .inl hu
    · exact .inr (.inl ⟨t, ht, .inl hnext⟩)
    · exact .inr (.inr hnew)
  | drop ht hs hq =>
    rw [hq, drop_tasks] at hu
    rcases getElem?_set_cases hu with ⟨rfl, rfl⟩ | ⟨_, hu⟩
    · exact .inr (.inl ⟨_, ht, .inr ⟨hs, rfl⟩⟩)
    · exact .inl hu

theorem Fed.change (h : Fed p t) (hs : p.Each fun _ t => t.Accounted) (hc : Change p q) :
    Fed q t where
  gathering found rest hstage := by
    obtain ⟨had, hinputs, hfound⟩ := h.gathering found rest hstage
    exact ⟨had, hinputs, hfound.imp fun _ _ => hc.gives hs⟩
  calls inputs hmem := (h.calls inputs hmem).imp fun _ _ => hc.gives hs

theorem fed_of_isNew (h : u.IsNew) : Fed p u where
  gathering found rest hstage := by
    rcases h.stage with hs | hs <;> rw [hs] at hstage <;> cases hstage
  calls inputs hmem := by
    rw [h.calls] at hmem
    cases hmem

/-- A task that has finished, or that is at work, has found what it needs. -/
theorem Fed.of_calls (h : Fed p t) (hspec : u.spec = t.spec) (hcalls : u.calls = t.calls)
    (hstage : ∀ found rest, u.stage ≠ .gathering found rest) : Fed p u where
  gathering found rest hs := absurd hs (hstage found rest)
  calls inputs hmem := by
    rw [hspec]
    exact h.calls inputs (hcalls ▸ hmem)

/-- A step feeds its task one more path at most, and calls its work with what was found. -/
theorem Fed.next (h : Fed p t) (hp : p.Each fun _ t => t.NamesOutput) (hnext : t.Next p u) :
    Fed p u := by
  cases hnext with
  | start _ =>
    refine ⟨fun found rest hstage => ?_, h.calls⟩
    cases hstage
    exact ⟨[], rfl, .nil⟩
  | @find found ref rest path hs hpath =>
    obtain ⟨had, hinputs, hfound⟩ := h.gathering _ _ hs
    refine ⟨fun found' rest' hstage => ?_, h.calls⟩
    cases hstage
    exact ⟨had ++ [ref], by rw [hinputs, List.append_assoc]; rfl,
      List.rel_append hfound (.cons (gives_of_pathNow? hp hpath) .nil)⟩
  | @call found hs =>
    obtain ⟨had, hinputs, hfound⟩ := h.gathering _ _ hs
    rw [List.append_nil] at hinputs
    refine ⟨fun _ _ hstage => (nomatch hstage), fun inputs hmem => ?_⟩
    rcases List.mem_append.1 hmem with hmem | hmem
    · exact h.calls inputs hmem
    · rw [List.mem_singleton.1 hmem]
      exact (hinputs ▸ hfound : List.Forall₂ p.Gives t.spec.inputs found)
  | spawn _ | refuse _ _ | finish _ | unwind _ | act _ _ | await _ | ask _ _ | submit _ _ | abandon _
  | track _ => exact h.of_calls rfl rfl fun _ _ hs => nomatch hs

theorem Fed.drop (h : Fed p t) : Fed p t.drop := by
  have hspec : t.drop.spec = t.spec := by unfold Task.drop; split <;> rfl
  refine h.of_calls hspec (Task.calls_drop t) fun found rest hs => ?_
  unfold Task.drop at hs
  split at hs <;> cases hs

/-- In a pool in use every task has been fed by its inputs. -/
theorem Becomes.fed (h : (Pool.start config here world).Becomes p) : p.Each fun _ t => Fed p t := by
  induction h with
  | refl => exact .start config here world
  | @tail p q hp hc ih =>
    have hs : p.Each fun _ t => t.Accounted := Becomes.of_start hp
    intro i u hu
    rcases hc.origin hu with ht | ⟨t, ht, hnext | ⟨_, rfl⟩⟩ | ⟨hnew, _⟩
    · exact (ih i u ht).change hs hc
    · exact ((ih i t ht).next (Becomes.namesOutput hp) hnext).change hs hc
    · exact (ih i t ht).drop.change hs hc
    · exact fed_of_isNew hnew

/-! ### The call of a task's work -/

/-- A change calls no work, or it calls the work of a task when each of the task's inputs is given, with
the paths that they give in their order. -/
theorem Becomes.called (hp : (Pool.start config here world).Becomes p) (h : Change p q) (i : TaskId) :
    q.calls i = p.calls i ∨ ∃ t inputs, p.tasks[i]? = some t ∧
      q.tasks[i]? = some (t.call inputs) ∧ List.Forall₂ p.Gives t.spec.inputs inputs := by
  cases hu : q.tasks[i]? with
  | none =>
    refine .inl ?_
    cases ht : p.tasks[i]? with
    | none => rw [calls_eq_nil hu, calls_eq_nil ht]
    | some t =>
      obtain ⟨u, hu', _⟩ := h.grows i t ht
      rw [hu] at hu'
      cases hu'
  | some u =>
    rcases h.origin hu with ht | ⟨t, ht, hnext | ⟨_, rfl⟩⟩ | ⟨hnew, hi⟩
    · exact .inl (by rw [calls_eq hu, calls_eq ht])
    · rcases hnext.called with hcalls | ⟨found, hs, rfl⟩
      · exact .inl (by rw [calls_eq hu, calls_eq ht, hcalls])
      · obtain ⟨had, hinputs, hfound⟩ := (hp.fed i t ht).gathering found [] hs
        rw [List.append_nil] at hinputs
        exact .inr ⟨t, found, ht, rfl, hinputs ▸ hfound⟩
    · exact .inl (by rw [calls_eq hu, calls_eq ht, Task.calls_drop])
    · exact .inl (by rw [calls_eq hu, calls_eq_nil (List.getElem?_eq_none_iff.2 hi), hnew.calls])

end Pool

end NativeBuild
