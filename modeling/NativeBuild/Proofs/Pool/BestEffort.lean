import NativeBuild.Proofs.Pool.Cause
import NativeBuild.Proofs.Pool.Inputs

/-!
The tasks of a best-effort pool.  A task whose input has failed goes on with the path that the input
declared, so a task is refused its inputs only when one of them declares no output at all, and whatever
else fails, its work is called.
-/

namespace NativeBuild

namespace Pool

variable {σ : Type} {config : PoolConfig} {here : Path} {world : σ} {past : List (Pool σ)}
  {p : Pool σ} {i k : TaskId} {t : Task σ} {output : Path}

/-- Whether a task declares an output. -/
def Declares (p : Pool σ) (k : TaskId) : Prop :=
  ∃ t output, p.tasks[k]? = some t ∧ t.spec.output = some output

/-- Whether all tasks that a task needs declare outputs. -/
def Declared (p : Pool σ) (spec : TaskSpec) : Prop :=
  ∀ k, .task k ∈ spec.inputs → p.Declares k

theorem Run.becomes (h : Run config here world past p) :
    (Pool.start config here world).Becomes p := by
  induction h with
  | start => exact .refl
  | move _ hm _ ih => exact ih.tail (.move hm)

theorem outcomePath_bestEffort (hp : p.config.policy = .bestEffort) (hnames : t.NamesOutput)
    (houtput : t.spec.output = some output) {o : Outcome} (ho : t.outcome? = some o) (k : TaskId) :
    p.outcomePath k o = .ok (output.absolute p.here) := by
  have hpath := (hnames o ho).trans houtput
  cases o with
  | completed made =>
    obtain rfl : made = some output := hpath
    rfl
  | failed nominal message =>
    obtain rfl : nominal = some output := hpath
    rw [outcomePath, hp, Outcome.resolve]

/-- Only a task that declares no output is refused to those that need it. -/
theorem not_declares_of_error (hp : p.config.policy = .bestEffort)
    (hnames : p.Each fun _ t => t.NamesOutput) {e : Failure}
    (h : p.pathNow? (.task k) = some (.error e)) : ¬ p.Declares k := by
  rintro ⟨t, output, ht, houtput⟩
  obtain ⟨o, ho, hr⟩ := Option.map_eq_some_iff.1 h
  rw [outcome?_eq ht] at ho
  rw [outcomePath_bestEffort hp (hnames k t ht) houtput ho] at hr
  exact nomatch hr

theorem declares_of_pathNow? (hnames : p.Each fun _ t => t.NamesOutput) {path : Path}
    (h : p.pathNow? (.task k) = some (.ok path)) : p.Declares k := by
  cases gives_of_pathNow? hnames h with
  | task ht _ houtput _ => exact ⟨_, _, ht, houtput⟩

/-- The inputs of a task that has ended were to be had exactly if they all declare outputs. -/
theorem Cause.passed_iff (h : Cause past p i t) (hp : p.config.policy = .bestEffort)
    (hnames : p.Each fun _ t => t.NamesOutput) : p.Passed t.spec ↔ p.Declared t.spec := by
  -- The work was called, and all inputs were there, or one was refused, which declares nothing then.
  cases h with
  | called _ hin _ _ =>
    refine iff_of_true hin fun k hk => ?_
    obtain ⟨path, hpath⟩ := hin k hk
    exact declares_of_pathNow? hnames hpath
  | refused hk hin _ _ =>
    refine iff_of_false (fun hpassed => ?_) fun hdeclared =>
      not_declares_of_error hp hnames hin (hdeclared _ hk)
    obtain ⟨path, hpath⟩ := hpassed _ hk
    rw [hin] at hpath
    exact nomatch hpath

/-- How a best-effort pool has dealt with the task `t`, which is task `i`. -/
structure Treats (past : List (Pool σ)) (p : Pool σ) (i : TaskId) (t : Task σ) : Prop where
  /-- The work has been called exactly if everything that the task needs declares an output. -/
  called : t.calls ≠ [] ↔ p.Declared t.spec
  /-- The task has failed exactly if its own work has failed or panicked, or if something that it needs
  declares no output. -/
  failed : (∃ nominal message, t.outcome? = some (.failed nominal message)) ↔
    (∃ x, CameTo past p.config.mode i x ∧ x ≠ .result (.ok ())) ∨ ¬ p.Declared t.spec
  /-- Whoever asks for the task's path is told where its output was to be. -/
  path : ∀ output, t.spec.output = some output → ∀ q : Query,
    q = .resolvePathAsync ∨ (∃ caller, q = .resolvePath caller) →
      q.reply? p i = some (.path (.ok (output.absolute p.here)))

/-- So a best-effort pool deals with every task that has ended. -/
theorem Run.treats (h : Run config here world past p) (hp : config.policy = .bestEffort)
    (ht : p.tasks[i]? = some t) (he : t.isEnded = true) : Treats past p i t := by
  obtain ⟨hcause, hheeds⟩ := h.cause ht he
  have hconfig := h.reached.config_eq
  rw [← hconfig] at hheeds hp
  have hnames : p.Each fun _ t => t.NamesOutput := h.becomes.namesOutput
  have hpassed := hcause.passed_iff hp hnames
  refine ⟨hcause.calls_ne_nil_iff.trans hpassed, ?_, fun output houtput q hq => ?_⟩
  · rw [← hpassed]
    exact hcause.failed_iff hheeds he
  · obtain ⟨o, ho⟩ := Option.isSome_iff_exists.1 (((h.reached.sound i t ht).outcome?_isSome).trans he)
    have hreply := Query.reply?_of_outcome? ((outcome?_eq ht).trans ho) q
    have hpath := outcomePath_bestEffort hp (hnames i t ht) houtput ho i
    rw [hreply]
    rcases hq with rfl | ⟨caller, rfl⟩ <;> exact congrArg (some ∘ Reply.path) hpath

end Pool

end NativeBuild
