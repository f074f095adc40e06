import NativeBuild.Proofs.Pool.Evaluate

/-!
How the tasks of a pool follow their evaluation.  At each stage a task has come as far on the way to
its fate as the stage says, and no step leads it off.
-/

namespace NativeBuild

namespace Task

variable {σ : Type} {here : Path} {policy : Policy} {fates : List Fate} {job : PureTask σ}

/-- Whether a task is on the way to the fate of `job`.  What it still waits for gives the rest of its
inputs, its work yields the result that it should, and when it has ended it has met its fate. -/
def Follows (here : Path) (policy : Policy) (fates : List Fate) (job : PureTask σ) (t : Task σ) :
    Prop :=
  t.spec = job.spec ∧ t.body = job.body ∧
    match t.stage with
    | .listed | .created => t.calls = []
    | .gathering found rest =>
      t.calls = [] ∧ job.spec.inputs.mapM (inputPath here policy fates) =
        (rest.mapM (inputPath here policy fates)).map (found ++ ·)
    | .working w =>
      ∃ inputs, job.spec.inputs.mapM (inputPath here policy fates) = .ok inputs ∧
        t.calls = [inputs] ∧ w.Yields (job.result inputs)
    | .tracking _ _ => False
    | .ended unwound => unwound = false ∧ t.fate? = some (job.fate here policy fates)

theorem follows_fresh : (Task.fresh job.spec job.body).Follows here policy fates job :=
  ⟨rfl, rfl, rfl⟩

/-- A task whose work is called with all its inputs has done as its fate says when it finishes. -/
theorem fate?_finish {t : Task σ} (hs : t.spec = job.spec) (hstate : t.state = .running)
    {inputs : List Path} (hcalls : t.calls = [inputs]) :
    (t.finish (job.result inputs)).fate? = some (job.ran inputs) := by
  cases hr : job.result inputs with
  | ok _ =>
    simp [fate?, outcome?, Task.finish, Task.close, TaskState.finish, TaskState.outcome?, outcomeOf,
      PureTask.ran, hstate, hcalls, hs, hr]
  | error e =>
    simp [fate?, outcome?, Task.finish, Task.close, TaskState.finish, TaskState.outcome?, outcomeOf,
      PureTask.ran, hstate, hcalls, hs, hr]

theorem fate?_refuse {t : Task σ} (hs : t.spec = job.spec) (hstate : t.state = .pending)
    (hcalls : t.calls = []) (e : Failure) : (t.refuse e).fate? = some (job.refused e) := by
  simp [fate?, outcome?, Task.refuse, Task.close, TaskState.finish, TaskState.outcome?,
    PureTask.refused, hstate, hcalls, hs]

/-- A step keeps a task on the way to its fate, if the pool gives the paths that the fates give. -/
theorem Next.follows {p : Pool σ} {t u : Task σ} (h : t.Next p u)
    (hp : ∀ ref r, p.pathNow? ref = some r → inputPath here policy fates ref = r)
    (hsound : t.Sound) (ht : t.Follows here policy fates job) :
    u.Follows here policy fates job := by
  obtain ⟨hspec, hbody, hstage⟩ := ht
  -- What a task has found, with what the rest of its inputs gives, stays what its fate says.
  cases h with
  | spawn hs =>
    simp only [hs] at hstage
    exact ⟨hspec, hbody, hstage⟩
  | start hs =>
    simp only [hs] at hstage
    refine ⟨hspec, hbody, hstage, ?_⟩
    rw [hspec]
    cases job.spec.inputs.mapM (inputPath here policy fates) <;> rfl
  | @find found ref rest path hs hpath =>
    simp only [hs, List.mapM_cons, hp ref _ hpath] at hstage
    refine ⟨hspec, hbody, hstage.1, hstage.2.trans ?_⟩
    cases rest.mapM (inputPath here policy fates) with
    | error e => rfl
    | ok paths => exact congrArg Except.ok (List.append_cons found path paths)
  | @refuse found ref rest e hs hpath =>
    simp only [hs, List.mapM_cons, hp ref _ hpath] at hstage
    simp only [Sound, hs] at hsound
    refine ⟨hspec, hbody, rfl, ?_⟩
    rw [fate?_refuse hspec hsound.1 hsound.2, PureTask.fate, hstage.2]
    rfl
  | @call found hs =>
    simp only [hs, List.mapM_nil] at hstage
    refine ⟨hspec, hbody, found, hstage.2.trans ?_, ?_, ?_⟩
    · exact congrArg Except.ok (List.append_nil found)
    · simp [Task.call, hstage.1]
    · rw [hbody]
      exact job.yields found
  | finish hs =>
    simp only [hs] at hstage
    obtain ⟨inputs, hinputs, hcalls, hyields⟩ := hstage
    simp only [Sound, hs] at hsound
    refine ⟨hspec, hbody, rfl, ?_⟩
    rw [show _ = job.result inputs from hyields, fate?_finish hspec hsound.1 hcalls,
      PureTask.fate, hinputs]
  | act hs r =>
    simp only [hs] at hstage
    obtain ⟨inputs, hinputs, hcalls, hyields⟩ := hstage
    exact ⟨hspec, hbody, inputs, hinputs, hcalls, hyields r⟩
  | unwind hs | await hs | ask hs _ | submit hs _ | abandon hs =>
    simp only [hs] at hstage
    obtain ⟨inputs, hinputs, hcalls, hyields⟩ := hstage
    exact absurd hyields id
  | track hs =>
    simp only [hs] at hstage

end Task

namespace Pool

variable {σ : Type} {p q : Pool σ} {jobs : List (PureTask σ)}

/-- The fates that the pool's tasks should meet. -/
def fates (p : Pool σ) (jobs : List (PureTask σ)) : List Fate :=
  PureTask.evaluate p.here p.config.policy jobs

/-- Whether the tasks of a pool are the first of `jobs` and on the way to their fates. -/
def Follows (p : Pool σ) (jobs : List (PureTask σ)) : Prop :=
  p.Each fun i t => ∃ job, jobs[i]? = some job ∧
    t.Follows p.here p.config.policy (p.fates jobs) job

theorem Follows.length_le (hf : p.Follows jobs) : p.tasks.length ≤ jobs.length := by
  by_contra hlt
  obtain ⟨job, hjob, _⟩ :=
    hf _ _ (List.getElem?_eq_getElem (Nat.lt_of_not_le hlt))
  exact absurd (List.getElem?_eq_some_iff.1 hjob).1 (Nat.lt_irrefl _)

/-- A task that has finished has met its fate. -/
theorem Follows.fate (hf : p.Follows jobs) (hord : PureTask.Ordered jobs) {i : Nat} {t : Task σ}
    (ht : p.tasks[i]? = some t) (hended : t.isEnded = true) :
    t.fate?.isSome = true ∧ (p.fates jobs)[i]? = t.fate? := by
  obtain ⟨job, hjob, -, -, hstage⟩ := hf i t ht
  cases hs : t.stage with
  | ended unwound =>
    simp only [hs] at hstage
    rw [hstage.2]
    exact ⟨rfl, PureTask.getElem?_evaluate hord hjob⟩
  | listed | created | gathering _ _ | working _ | tracking _ _ => simp [Task.isEnded, hs] at hended

/-- The paths that a pool gives are those that the fates give. -/
theorem Follows.inputPath_eq (hf : p.Follows jobs) (hsound : p.Each fun _ t => t.Sound)
    (hord : PureTask.Ordered jobs) (ref : PathRef) (r : Except Failure Path)
    (h : p.pathNow? ref = some r) :
    inputPath p.here p.config.policy (p.fates jobs) ref = r := by
  cases ref with
  | literal path => exact Option.some.inj h
  | task k =>
    obtain ⟨o, ho, rfl⟩ := Option.map_eq_some_iff.1 h
    obtain ⟨t, ht, hout⟩ := exists_of_outcome? ho
    have hended : t.isEnded = true := by
      rw [← (hsound k t ht).outcome?_isSome, hout, Option.isSome_some]
    have hfate : (p.fates jobs)[k]? = some ⟨t.spec.label, o, t.calls⟩ := by
      rw [(hf.fate hord ht hended).2, Task.fate?, hout]
      rfl
    simp [inputPath, hfate, outcomePath, label, ht]

/-- A step keeps all tasks on their way, lists no task and records none as running. -/
theorem Follows.step {i : TaskId} (hf : p.Follows jobs) (hsound : p.Each fun _ t => t.Sound)
    (hord : PureTask.Ordered jobs) (h : p.step? i = some q) :
    q.Follows jobs ∧ q.tasks.length = p.tasks.length ∧ q.running = p.running := by
  obtain ⟨t, ht, h⟩ := taskStep_of_step? h
  obtain ⟨job, hjob, htf⟩ := hf i t ht
  have hidle (spec : TaskSpec) (body : List Path → Work σ) (next : TaskId → Work σ) :
      t.stage ≠ .working (.submit spec body next) := by
    intro hs
    obtain ⟨-, -, hstage⟩ := htf
    simp only [hs] at hstage
    obtain ⟨_, _, _, hyields⟩ := hstage
    exact hyields
  refine ⟨?_, ?_, ?_⟩
  · unfold Follows fates
    rw [h.here_eq, h.config_eq]
    refine h.each hf (fun u hu => ⟨job, hjob, ?_⟩) fun new next hs _ => absurd hs (hidle _ _ _)
    exact hu.follows (hf.inputPath_eq hsound hord) (hsound i t ht) htf
  · obtain ⟨u, _, htasks | ⟨new, next, hs, _⟩⟩ := h.tasks_eq
    · rw [htasks, List.length_set]
    · exact absurd hs (hidle _ _ _)
  · cases h with
    | track hs =>
      obtain ⟨-, -, hstage⟩ := htf
      simp only [hs] at hstage
    | submit hs _ | abandon hs _ => exact absurd hs (hidle _ _ _)
    | start _ | find _ _ | refuse _ _ | call _ _ | finish _ | unwind _ | act _ | await _ _
    | ask _ => rfl

/-- What a thread outside does keeps all tasks on their way, if it lists the next job. -/
theorem Follows.touch (hf : p.Follows jobs) (hsound : p.Each fun _ t => t.Sound)
    (hord : PureTask.Ordered jobs) (h : Touch p q)
    (hnew : ∀ t, q.tasks = p.tasks ++ [t] →
      ∃ job, jobs[p.tasks.length]? = some job ∧ t = Task.fresh job.spec job.body) :
    q.Follows jobs := by
  cases h with
  | pass | world _ | track _ | take => exact hf
  | enlist spec body =>
    obtain ⟨job, hjob, heq⟩ := hnew _ rfl
    rw [heq]
    exact Each.enlist hf ⟨job, hjob, Task.follows_fresh⟩
  | @spawn i t ht hs =>
    obtain ⟨job, hjob, htf⟩ := hf i t ht
    refine Each.setTask hf ⟨job, hjob, ?_⟩
    exact Task.Next.follows (p := p) (.spawn hs) (hf.inputPath_eq hsound hord) (hsound i t ht) htf

/-- When all jobs have been submitted and have ended, every task has met its fate. -/
theorem Follows.map_fate? (hf : p.Follows jobs) (hord : PureTask.Ordered jobs)
    (hlen : p.tasks.length = jobs.length) (hended : p.Each fun _ t => t.isEnded = true) :
    p.tasks.map Task.fate? = (p.fates jobs).map some := by
  refine List.ext_getElem? fun i => ?_
  rw [List.getElem?_map, List.getElem?_map]
  cases ht : p.tasks[i]? with
  | some t =>
    obtain ⟨hsome, heq⟩ := hf.fate hord ht (hended i t ht)
    rw [heq]
    obtain ⟨f, hfate⟩ := Option.isSome_iff_exists.1 hsome
    rw [Option.map_some, hfate, Option.map_some]
  | none =>
    have hlen' := PureTask.length_evaluate p.here p.config.policy jobs
    rw [List.getElem?_eq_none_iff] at ht
    rw [List.getElem?_eq_none (by rw [fates, hlen', ← hlen]; exact ht)]
    rfl

theorem failureOf?_eq {t : Task σ} {f : Fate} (h : t.fate? = some f) :
    failureOf? t = f.failure? := by
  obtain ⟨o, ho, rfl⟩ := Option.map_eq_some_iff.1 h
  unfold Task.outcome? TaskState.outcome? at ho
  split at ho
  · next hs =>
    cases ho
    cases o <;> simp [failureOf?, hs, Fate.failure?]
  · exact nomatch ho

theorem map_failureOf?_eq {ts : List (Task σ)} {fs : List Fate}
    (h : ts.map Task.fate? = fs.map some) : ts.map failureOf? = fs.map Fate.failure? := by
  induction ts generalizing fs with
  | nil =>
    cases fs with
    | nil => rfl
    | cons f fs => simp at h
  | cons t ts ih =>
    cases fs with
    | nil => simp at h
    | cons f fs =>
      simp only [List.map_cons, List.cons.injEq] at h ⊢
      exact ⟨failureOf?_eq h.1, ih h.2⟩

/-- The account of tasks that have met their fates is that of the fates. -/
theorem report_eq {fs : List Fate} (h : p.tasks.map Task.fate? = fs.map some) :
    p.report = Fate.report fs := by
  have hmap := map_failureOf?_eq h
  have hcount := congrArg (List.countP Option.isNone) hmap
  have hfailed := congrArg (List.filterMap id) hmap
  rw [List.countP_map, List.countP_map] at hcount
  rw [List.filterMap_map, List.filterMap_map] at hfailed
  unfold report Fate.report
  congr 1

theorem verdict_eq {fs : List Fate} (h : p.tasks.map Task.fate? = fs.map some) :
    p.verdict = Fate.verdict p.config.policy fs := by
  have hreport := report_eq h
  unfold verdict Fate.verdict
  generalize p.report = r at hreport ⊢
  subst hreport
  rfl

end Pool

end NativeBuild
