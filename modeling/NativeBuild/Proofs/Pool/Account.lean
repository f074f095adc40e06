import Mathlib.Data.List.Basic
import NativeBuild.Proofs.Pool.Cause

/-!
What a report says of a pool all of whose tasks have finished.  A failed task carries the message of a
failure, of an input that was not to be had, or of a loss, and none of these is what a report says of
a task that never finished.  So the report counts each task as what it is, and once and for all.
-/

namespace NativeBuild

theorem append_ne {a s : String} (rest : String) (h : ¬ a.toList <+: s.toList) : a ++ rest ≠ s := by
  rintro rfl
  exact h (by rw [String.toList_append]; exact List.prefix_append _ _)

theorem append_append_ne {a s : String} (b c : String) (h : ¬ a.toList <+: s.toList) :
    a ++ b ++ c ≠ s := by
  rw [String.append_assoc]
  exact append_ne _ h

/-- What a report says of a task without an outcome is the message of no failure. -/
theorem Failure.message_ne (e : Failure) : e.message ≠ "task never finished" := by
  cases e with
  | commandFailed line code =>
    show _ ++ _ ++ ": " ++ line ≠ _
    rw [String.append_assoc]
    exact append_append_ne _ _ (by decide)
  | notStarted line cause =>
    show _ ++ _ ++ ": " ++ cause.message ≠ _
    rw [String.append_assoc]
    exact append_append_ne _ _ (by decide)
  | io cause => exact append_ne _ (by decide)
  | taskFailed label text =>
    show _ ++ _ ++ "' failed: " ++ text ≠ _
    rw [String.append_assoc]
    exact append_append_ne _ _ (by decide)
  | noOutput label => exact append_append_ne _ _ (by decide)
  | wouldBlock label => exact append_append_ne _ _ (by decide)

theorem Pool.unavailable_ne (e : Failure) : Pool.unavailable e ≠ "task never finished" :=
  append_ne e.message (by decide)

namespace Task

variable {σ : Type} {p : Pool σ} {t u : Task σ}

/-- Where the message of a failed task may come from. -/
inductive Told : String → Prop where
  | own (e : Failure) : Told e.message
  | unavailable (e : Failure) : Told (Pool.unavailable e)
  | abandoned : Told Task.abandoned

theorem Told.ne {message : String} (h : Told message) : message ≠ "task never finished" := by
  cases h with
  | own e => exact e.message_ne
  | unavailable e => exact Pool.unavailable_ne e
  | abandoned => decide

/-- Whether a task, if it failed, has one of the messages for that. -/
def Tells (t : Task σ) : Prop :=
  ∀ nominal message, t.outcome? = some (.failed nominal message) → Told message

theorem tells_of_outcome?_eq_none (h : t.outcome? = none) : t.Tells := by
  intro nominal message ho
  rw [h] at ho
  exact nomatch ho

theorem Next.tells (h : t.Next p u) (ht : t.Sound) : u.Tells := by
  have hu := (h.sound ht).outcome?_isSome
  cases h with
  | refuse hs _ =>
    simp only [Sound, hs] at ht
    intro nominal message ho
    cases (Pool.outcome?_refuse ht.1 _).symm.trans ho
    exact .unavailable _
  | @finish result hs =>
    simp only [Sound, hs] at ht
    intro nominal message ho
    have ho := (Pool.outcome?_finish ht.1 result).symm.trans ho
    cases result with
    | ok _ => cases ho
    | error e =>
      cases ho
      exact .own e
  | unwind hs | abandon hs =>
    simp only [Sound, hs] at ht
    intro nominal message ho
    cases (Pool.outcome?_close ht.1 true).symm.trans ho
    exact .abandoned
  | spawn _ | start _ | find _ _ | call _ | act _ _ | await _ | ask _ _ | submit _ _ | track _ =>
    exact tells_of_outcome?_eq_none (Option.isNone_iff_eq_none.1 (Option.isSome_eq_false_iff.1 hu))

theorem IsNew.tells (h : t.IsNew) : t.Tells :=
  tells_of_outcome?_eq_none (by rw [outcome?, h.state]; rfl)

/-- Whether a task has completed. -/
def isCompleted (t : Task σ) : Bool :=
  match t.outcome? with
  | some (.completed _) => true
  | _ => false

/-- A failed task, with its label and its message. -/
def failure? (t : Task σ) : Option TaskFailure :=
  match t.outcome? with
  | some (.failed _ message) => some ⟨t.spec.label, message⟩
  | _ => none

/-- What a report says of a finished task: that it failed, or nothing if it completed. -/
theorem failureOf?_eq_failure? (h : t.outcome?.isSome = true) :
    Pool.failureOf? t = t.failure? ∧ (Pool.failureOf? t).isNone = t.isCompleted := by
  unfold Pool.failureOf? failure? isCompleted
  unfold outcome? at h ⊢
  cases hs : t.state with
  | pending | running => rw [hs] at h; exact nomatch h
  | finished o => cases o <;> exact ⟨rfl, rfl⟩

end Task

/-- A report that gives an account of finished tasks: how many of them completed, and the failed ones
in their order.  It counts them all, and it knows of none that never finished. -/
structure Report.Accounts {σ : Type} (r : Report) (tasks : List (Task σ)) : Prop where
  completed : r.completed = tasks.countP Task.isCompleted
  failed : r.failed = tasks.filterMap Task.failure?
  total : r.total = tasks.length
  finished : ∀ f ∈ r.failed, f.message ≠ "task never finished"

/-- The account of more tasks begins with the account of the first ones. -/
theorem Report.Accounts.extends {σ : Type} {r r' : Report} {tasks more : List (Task σ)}
    (h : r.Accounts tasks) (h' : r'.Accounts (tasks ++ more)) :
    r'.completed = r.completed + more.countP Task.isCompleted ∧
      r'.failed = r.failed ++ more.filterMap Task.failure? := by
  rw [h'.completed, h'.failed, h.completed, h.failed, List.countP_append, List.filterMap_append]
  exact ⟨rfl, rfl⟩

namespace Pool

variable {σ : Type} {p q : Pool σ}

theorem Move.tells (h : Move p q) (hs : p.Each fun _ t => t.Sound) (hp : p.Each fun _ t => t.Tells) :
    q.Each fun _ t => t.Tells :=
  h.each hp (fun i t _ ht hn => hn.tells (hs i t ht)) fun _ ht => ht.tells

theorem verdict_bestEffort (h : p.config.policy = .bestEffort) : p.verdict = .ok p.report := by
  simp [verdict, h]

/-- The report on finished tasks is an account of them. -/
theorem report_accounts (hfinished : ∀ t ∈ p.tasks, t.outcome?.isSome = true)
    (htells : p.Each fun _ t => t.Tells) : p.report.Accounts p.tasks := by
  have hfailed : p.report.failed = p.tasks.filterMap Task.failure? :=
    List.filterMap_congr fun t ht => (Task.failureOf?_eq_failure? (hfinished t ht)).1
  have hcompleted : p.report.completed = p.tasks.countP Task.isCompleted :=
    List.countP_congr fun t ht => by rw [(Task.failureOf?_eq_failure? (hfinished t ht)).2]
  refine ⟨hcompleted, hfailed, ?_, ?_⟩
  · have hlen := List.length_eq_countP_add_countP (fun t => (failureOf? t).isNone) (l := p.tasks)
    have hrest : (p.tasks.filterMap failureOf?).length =
        p.tasks.countP fun t => ¬ (failureOf? t).isNone = true := by
      rw [List.length_filterMap_eq_countP]
      exact List.countP_congr fun t _ => by cases failureOf? t <;> simp
    exact (congrArg (p.report.completed + ·) hrest).trans hlen.symm
  · intro f hf
    rw [hfailed] at hf
    obtain ⟨t, ht, hft⟩ := List.mem_filterMap.1 hf
    unfold Task.failure? at hft
    split at hft
    · next ho =>
      obtain rfl := Option.some.inj hft
      obtain ⟨i, hi⟩ := List.mem_iff_getElem?.1 ht
      exact (htells i t hi _ _ ho).ne
    · exact nomatch hft

/-- When all tasks have ended, what becomes of a pool is more tasks. -/
theorem Grows.tasks_eq_append (h : p.Grows q) (hended : ∀ t ∈ p.tasks, t.isEnded = true) :
    ∃ more, q.tasks = p.tasks ++ more := by
  have hprefix : p.tasks <+: q.tasks := by
    refine List.prefix_iff_getElem?.2 fun i hi => ?_
    exact h.ended (List.getElem?_eq_getElem hi) (hended _ (List.getElem_mem hi))
  obtain ⟨more, heq⟩ := hprefix
  exact ⟨more, heq.symm⟩

end Pool

end NativeBuild
