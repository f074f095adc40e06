import Mathlib.Data.List.Induction
import NativeBuild.Proofs.Pool.Moves

/-!
What tasks come to when they are evaluated one after another, each from the fates of those before it,
without a pool.
-/

namespace NativeBuild

/-- Whether work comes to the result `r` whatever the world tells it, without submitting tasks or
asking for others. -/
def Work.Yields {σ : Type} (r : Except Failure Unit) : Work σ → Prop
  | .done r' => r' = r
  | .act _ next => ∀ answer, (next answer).Yields r
  | _ => False

/-- A task to be submitted whose work is a function of its inputs. -/
structure PureTask (σ : Type) where
  spec : TaskSpec
  body : List Path → Work σ
  result : List Path → Except Failure Unit
  yields : ∀ inputs, (body inputs).Yields (result inputs)

/-- What became of a task: its outcome, and the paths that its work was called with. -/
structure Fate where
  label : String
  outcome : Outcome
  calls : List (List Path)
  deriving DecidableEq

/-- The fate of a task that has finished. -/
def Task.fate? {σ : Type} (t : Task σ) : Option Fate :=
  t.outcome?.map fun o => ⟨t.spec.label, o, t.calls⟩

/-- The path that a reference gives, after the fates of the tasks so far. -/
def inputPath (here : Path) (policy : Policy) (fates : List Fate) :
    PathRef → Except Failure Path
  | .literal path => .ok (path.absolute here)
  | .task k =>
    match fates[k]? with
    | some f => f.outcome.resolve here policy f.label
    | none => .error (.noOutput "")

namespace PureTask

variable {σ : Type}

/-- The fate of a task when its inputs are these. -/
def ran (t : PureTask σ) (inputs : List Path) : Fate where
  label := t.spec.label
  outcome :=
    match t.result inputs with
    | .ok () => .completed t.spec.output
    | .error e => .failed t.spec.output e.message
  calls := [inputs]

/-- The fate of a task whose input is not to be had. -/
def refused (t : PureTask σ) (e : Failure) : Fate :=
  ⟨t.spec.label, .failed t.spec.output ("input unavailable: " ++ e.message), []⟩

/-- The fate of a task after the fates of those before it. -/
def fate (here : Path) (policy : Policy) (fates : List Fate) (t : PureTask σ) : Fate :=
  match t.spec.inputs.mapM (inputPath here policy fates) with
  | .ok inputs => t.ran inputs
  | .error e => t.refused e

/-- The fates of tasks that are evaluated from left to right. -/
def evaluate (here : Path) (policy : Policy) (tasks : List (PureTask σ)) : List Fate :=
  tasks.foldl (fun fates t => fates ++ [t.fate here policy fates]) []

/-- Whether every task needs only tasks before it. -/
def Ordered (tasks : List (PureTask σ)) : Prop :=
  ∀ (i : Nat) t, tasks[i]? = some t → ∀ k, .task k ∈ t.spec.inputs → k < i

end PureTask

namespace Fate

/-- What a report says of a task with this fate, if it did not complete. -/
def failure? (f : Fate) : Option TaskFailure :=
  match f.outcome with
  | .completed _ => none
  | .failed _ message => some ⟨f.label, message⟩

/-- The account of tasks with these fates. -/
def report (fates : List Fate) : Report where
  completed := fates.countP fun f => f.failure?.isNone
  failed := fates.filterMap failure?

/-- What the account means under a policy. -/
def verdict (policy : Policy) (fates : List Fate) : Except Failure Report :=
  match policy, (report fates).failed with
  | .strict, first :: _ => .error (.taskFailed first.label first.message)
  | _, _ => .ok (report fates)

end Fate

namespace PureTask

variable {σ : Type} {here : Path} {policy : Policy}

theorem evaluate_concat (tasks : List (PureTask σ)) (t : PureTask σ) :
    evaluate here policy (tasks ++ [t]) =
      evaluate here policy tasks ++ [t.fate here policy (evaluate here policy tasks)] := by
  rw [evaluate, List.foldl_append]
  rfl

theorem length_evaluate (here : Path) (policy : Policy) (tasks : List (PureTask σ)) :
    (evaluate here policy tasks).length = tasks.length := by
  induction tasks using List.reverseRecOn with
  | nil => rfl
  | append_singleton tasks t ih => rw [evaluate_concat, List.length_append, List.length_append, ih]; rfl

theorem mapM_congr {look look' : PathRef → Except Failure Path} {refs : List PathRef}
    (h : ∀ ref ∈ refs, look ref = look' ref) : refs.mapM look = refs.mapM look' := by
  induction refs with
  | nil => rfl
  | cons ref refs ih =>
    rw [List.mapM_cons, List.mapM_cons, h ref List.mem_cons_self,
      ih fun r hr => h r (List.mem_cons_of_mem _ hr)]

/-- The fate of a task depends only on the fates of the tasks that it needs. -/
theorem fate_append {fates : List Fate} {t : PureTask σ}
    (h : ∀ k, .task k ∈ t.spec.inputs → k < fates.length) (more : List Fate) :
    t.fate here policy (fates ++ more) = t.fate here policy fates := by
  have hlook : ∀ ref ∈ t.spec.inputs,
      inputPath here policy (fates ++ more) ref = inputPath here policy fates ref := by
    intro ref href
    cases ref with
    | literal path => rfl
    | task k => rw [inputPath, inputPath, List.getElem?_append_left (h k href)]
  rw [fate, mapM_congr hlook, fate]

/-- Each task's fate is the one that follows from all the fates. -/
theorem getElem?_evaluate {tasks : List (PureTask σ)} (hord : Ordered tasks) {i : Nat}
    {t : PureTask σ} (ht : tasks[i]? = some t) :
    (evaluate here policy tasks)[i]? = some (t.fate here policy (evaluate here policy tasks)) := by
  induction tasks using List.reverseRecOn generalizing i t with
  | nil => exact nomatch ht
  | append_singleton tasks last ih =>
    have hlen := length_evaluate here policy tasks
    have hneeds (k : Nat) (hk : .task k ∈ t.spec.inputs) : k < i := hord i t ht k hk
    rw [evaluate_concat]
    rcases getElem?_concat_cases ht with ht | ⟨rfl, rfl⟩
    · have hi := (List.getElem?_eq_some_iff.1 ht).1
      have hord' : Ordered tasks := fun j u hu =>
        hord j u ((List.getElem?_append_left (List.getElem?_eq_some_iff.1 hu).1).trans hu)
      rw [List.getElem?_append_left (hlen ▸ hi), ih hord' ht, fate_append]
      intro k hk
      have := hneeds k hk
      omega
    · rw [fate_append fun k hk => hlen ▸ hneeds k hk]
      rw [← hlen, List.getElem?_concat_length]

end PureTask

end NativeBuild
