import NativeBuild.Proofs.Pool.Follow
import NativeBuild.Proofs.Pool.Steady

/-!
Jobs that are submitted one after another come to their end, in either mode.
-/

namespace NativeBuild

namespace Work

variable {σ : Type}

/-- Work that comes to a result by itself does nothing but act. -/
theorem Yields.plain {w : Work σ} {r : Except Failure Unit} (h : w.Yields r) : w.Plain := by
  induction w with
  | done result => exact .done result
  | act effect next ih => exact .act fun answer => ih answer (h answer)
  | unwind | await _ _ _ | ask _ _ _ | submit _ _ _ _ _ => exact absurd h id

end Work

namespace Pool

variable {σ : Type} {config : PoolConfig} {here : Path} {world : σ} {p q : Pool σ}
  {jobs : List (PureTask σ)}

/-- A pool to which the first of `jobs` have been submitted.  The tasks are on the way to their
fates, and the workers have them all. -/
structure Driven (config : PoolConfig) (here : Path) (world : σ) (jobs : List (PureTask σ))
    (p : Pool σ) : Prop where
  reached : Reached config here world p
  follows : p.Follows jobs
  spawned : p.Each fun _ t => t.isSpawned = true

theorem Driven.start : Driven config here world jobs (Pool.start config here world) :=
  ⟨.start, .start config here world, .start config here world⟩

/-- The work of jobs is plain. -/
theorem Driven.steady (h : Driven config here world jobs p) : Steady config here world p := by
  refine ⟨h.reached, h.spawned, fun i t ht inputs => ?_⟩
  obtain ⟨job, _, _, hbody, _⟩ := h.follows i t ht
  rw [hbody]
  exact (job.yields inputs).plain

theorem Driven.settle (hord : PureTask.Ordered jobs) (h : Driven config here world jobs p) :
    Driven config here world jobs p.settle := by
  fun_induction Pool.settle p with
  | case1 p hrest => exact h
  | case2 p q hq ih =>
    obtain ⟨i, hstep⟩ := step_of_advance? hq
    obtain ⟨hs, _, _⟩ := h.steady.step hstep
    exact ih ⟨hs.reached, (h.follows.step h.reached.sound hord hstep).1, hs.spawned⟩

/-- A job is handed to the workers. -/
theorem Driven.handOver (hord : PureTask.Ordered jobs) (h : Driven config here world jobs p)
    {job : PureTask σ} (hjob : jobs[p.tasks.length]? = some job) :
    p.Knows job.spec ∧ Driven config here world jobs (p.handOver job.spec job.body) := by
  have hnew := getElem?_enlist_new p (Task.fresh job.spec job.body)
  have hknows : p.Knows job.spec := h.spawned.knows (hord _ job hjob)
  have hs := h.steady.handOver hknows fun inputs => (job.yields inputs).plain
  refine ⟨hknows, hs.reached, ?_, hs.spawned⟩
  have hlisted := h.reached.enlist job.spec job.body hknows
  have hspawn : Touch (p.enlist (Task.fresh job.spec job.body)).1 (p.handOver job.spec job.body) := by
    rw [Pool.handOver, spawn_eq_setTask hnew]
    exact .spawn hnew rfl
  have hf : (p.enlist (Task.fresh job.spec job.body)).1.Follows jobs :=
    Each.enlist h.follows ⟨job, hjob, Task.follows_fresh⟩
  refine hf.touch hlisted.sound hord hspawn fun t ht => ?_
  rw [handOver_tasks, enlist_tasks] at ht
  have := congrArg List.length ht
  simp at this

/-- A job is submitted: the call returns, and in inline mode the task has ended then. -/
theorem Driven.submit (hord : PureTask.Ordered jobs) (h : Driven config here world jobs p)
    (htracked : p.Tracked) {job : PureTask σ} (hjob : jobs[p.tasks.length]? = some job) :
    ∃ q, p.submit .outside job.spec job.body = (q, p.tasks.length, .returned) ∧
      Driven config here world jobs q ∧ q.Tracked ∧ q.tasks.length = p.tasks.length + 1 := by
  obtain ⟨hknows, hd⟩ := h.handOver hord hjob
  obtain ⟨hsubmit, hs, htracked', hlen⟩ :=
    h.steady.submit htracked hknows fun inputs => (job.yields inputs).plain
  refine ⟨_, hsubmit, ⟨hs.reached, ?_, hs.spawned⟩, htracked', hlen⟩
  unfold accept
  split
  · exact hd.follows
  · exact (hd.settle hord).follows

/-- When all jobs are submitted, a report returns, and then all of them have ended. -/
theorem Driven.joinAll (hord : PureTask.Ordered jobs) (h : Driven config here world jobs p)
    (htracked : p.Tracked) :
    ∃ q, p.joinAll .outside = (q, some q.verdict) ∧ Driven config here world jobs q ∧
      q.tasks.length = p.tasks.length ∧ q.Each fun _ t => t.isEnded = true := by
  obtain ⟨q, hq, hjoin, hs, hlen, hended⟩ := h.steady.joinAll htracked
  refine ⟨q, hjoin, ⟨hs.reached, ?_, hs.spawned⟩, hlen, hended⟩
  rcases hq with rfl | rfl
  · exact h.follows
  · have htaken : Driven config here world jobs { p with running := [] } :=
      ⟨h.reached.still (.touch .take) (Nat.le_refl _), h.follows, h.spawned⟩
    exact (htaken.settle hord).follows

/-- Submit jobs one after another, as long as the calls return. -/
def submitAll (p : Pool σ) : List (PureTask σ) → Option (Pool σ)
  | [] => some p
  | job :: jobs =>
    match p.submit .outside job.spec job.body with
    | (q, _, .returned) => q.submitAll jobs
    | _ => none

end Pool

end NativeBuild
