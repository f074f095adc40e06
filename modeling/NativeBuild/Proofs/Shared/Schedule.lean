import NativeBuild.Proofs.Pool.Complete
import NativeBuild.Proofs.Shared.Barrier
import NativeBuild.Proofs.Shared.Run

/-!
One thread submits jobs and then asks for a report.  Whatever the order in which the tasks and the
thread make their steps, the tasks meet the fates that they have when they are evaluated from left to
right, and the report says so.
-/

namespace NativeBuild

/-- Submit jobs one after another, and then report on them. -/
def Plan.submitAll {σ : Type} : List (PureTask σ) → Plan σ
  | [] => .joinAll .outside fun _ => .stop
  | job :: jobs => .submit .outside job.spec job.body fun _ => submitAll jobs

namespace Plan

variable {σ : Type}

/-- What is left to do when `n` jobs have been submitted. -/
theorem submitAll_drop (jobs : List (PureTask σ)) (n : Nat) :
    (∃ job, jobs[n]? = some job ∧ submitAll (jobs.drop n) =
      .submit .outside job.spec job.body fun _ => submitAll (jobs.drop (n + 1))) ∨
    (jobs.length ≤ n ∧ submitAll (jobs.drop n) = .joinAll .outside fun _ => .stop) := by
  cases hjob : jobs[n]? with
  | some job =>
    obtain ⟨hn, rfl⟩ := List.getElem?_eq_some_iff.1 hjob
    exact .inl ⟨_, rfl, by rw [List.drop_eq_getElem_cons hn, submitAll]⟩
  | none =>
    have hn := List.getElem?_eq_none_iff.1 hjob
    exact .inr ⟨hn, by rw [List.drop_eq_nil_of_le hn, submitAll]⟩

end Plan

/-- How far the one thread that submits `jobs` is. -/
def Thread.Drives {σ : Type} (jobs : List (PureTask σ)) (s : SharedPool σ) : Thread σ → Prop
  | .free plan => plan = .stop ∨ plan = .submitAll (jobs.drop s.pool.tasks.length) ∧
    ∀ k < s.pool.tasks.length, k ∈ s.returned
  | .listed _ id next | .spawned id next => s.pool.tasks.length = id + 1 ∧
    (next = fun _ => .submitAll (jobs.drop (id + 1))) ∧ ∀ k < id, k ∈ s.returned
  | .waiting due _ aim => s.pool.tasks.length = jobs.length ∧ aim = .report (fun _ => .stop) ∧
    ∀ k < jobs.length, k ∈ due
  | .reading due late count _ next => s.pool.tasks.length = jobs.length ∧ next = (fun _ => .stop) ∧
    count = jobs.length ∧ late = [] ∧ ∀ k < jobs.length, k ∈ due

namespace SharedPool

variable {σ : Type} {jobs : List (PureTask σ)} {s s' : SharedPool σ} {config : PoolConfig}
  {here : Path} {world : σ}

/-- The jobs of one thread are on the way to their fates, and the thread is as far as they are. -/
structure Drive (jobs : List (PureTask σ)) (s : SharedPool σ) : Prop where
  follows : s.pool.Follows jobs
  thread : ∃ t, s.threads = [t] ∧ t.Drives jobs s

/-- What a thread between two calls may do next. -/
theorem Drives.free {plan : Plan σ} (h : (Thread.free plan).Drives jobs s) :
    plan = .stop ∨
    (∃ job, jobs[s.pool.tasks.length]? = some job ∧
      (plan = .submit .outside job.spec job.body fun _ =>
        .submitAll (jobs.drop (s.pool.tasks.length + 1))) ∧
      ∀ k < s.pool.tasks.length, k ∈ s.returned) ∨
    jobs.length ≤ s.pool.tasks.length ∧ plan = .joinAll .outside (fun _ => .stop) ∧
      ∀ k < s.pool.tasks.length, k ∈ s.returned := by
  rcases h with rfl | ⟨rfl, hret⟩
  · exact .inl rfl
  · rcases Plan.submitAll_drop jobs s.pool.tasks.length with ⟨job, hjob, heq⟩ | ⟨hn, heq⟩
    · exact .inr (.inl ⟨job, hjob, heq, hret⟩)
    · exact .inr (.inr ⟨hn, heq, hret⟩)

/-- A thread is not moved by the steps of tasks that list no task. -/
theorem Drives.step {t : Thread σ} (h : t.Drives jobs s)
    (hlen : s'.pool.tasks.length = s.pool.tasks.length) (hr : s.returned ⊆ s'.returned) :
    t.Drives jobs s' := by
  cases t with
  | free plan =>
    rcases h with rfl | ⟨rfl, hret⟩
    · exact .inl rfl
    · exact .inr ⟨by rw [hlen], fun k hk => hr (hret k (hlen ▸ hk))⟩
  | listed caller id next | spawned id next =>
    obtain ⟨hid, hnext, hret⟩ := h
    exact ⟨hlen.trans hid, hnext, fun k hk => hr (hret k hk)⟩
  | waiting due batch aim => exact ⟨hlen.trans h.1, h.2⟩
  | reading due late count seen next => exact ⟨hlen.trans h.1, h.2⟩

theorem Drive.task (hord : PureTask.Ordered jobs) (hs : s.pool.Each fun _ t => t.Sound)
    (h : s.Drive jobs) {i : TaskId} {q : Pool σ} (hstep : s.pool.step? i = some q) :
    Drive jobs ⟨q, s.threads, s.returned ++ returning s.pool i⟩ := by
  obtain ⟨hf, hlen, _⟩ := h.follows.step hs hord hstep
  obtain ⟨t, ht, hd⟩ := h.thread
  exact ⟨hf, t, ht, Drives.step hd hlen (List.subset_append_left _ _)⟩

/-- When the submission of the last task returns, that of every task has returned. -/
theorem mem_returned {returned : List TaskId} {id n : Nat} (hn : n = id + 1)
    (h : ∀ k < id, k ∈ returned) : ∀ k < n, k ∈ returned ++ [id] := by
  intro k hk
  rcases Nat.lt_succ_iff_lt_or_eq.1 (hn ▸ hk) with hlt | rfl
  · exact List.mem_append_left _ (h k hlt)
  · exact List.mem_append_right _ (List.mem_singleton.2 rfl)

theorem Drive.act (hord : PureTask.Ordered jobs) (hs : s.pool.Each fun _ t => t.Sound)
    (hl : s.Listing) (h : s.Drive jobs) {c : Nat} {t u : Thread σ} {q : Pool σ} {ids : List TaskId}
    {e : Event σ} (ht : s.threads[c]? = some t) (hstep : ThreadStep s t q u ids e) :
    Drive jobs ⟨q, s.threads.set c u, s.returned ++ ids⟩ := by
  have htouch := hstep.touch hl ht
  obtain ⟨hf, t', hthreads, hd⟩ := h
  have hc : c < 1 := by
    have := (List.getElem?_eq_some_iff.1 ht).1
    rwa [hthreads] at this
  obtain rfl : c = 0 := by omega
  obtain rfl : t' = t := by
    rw [hthreads] at ht
    exact Option.some.inj ht
  rw [hthreads, List.set_cons_zero]
  -- Where the plan is decides which call the thread is in; the other ones do not come up.
  cases hstep with
  | enlist =>
    rcases Drives.free hd with heq | ⟨job, hjob, heq, hret⟩ | ⟨_, heq, _⟩
    · exact nomatch heq
    · cases heq
      refine ⟨Pool.Each.enlist hf ⟨job, hjob, Task.follows_fresh⟩, _, rfl, ?_, rfl, ?_⟩
      · simp
      · exact fun k hk => List.mem_append_left _ (hret k hk)
    · exact nomatch heq
  | @spawn caller id next hm =>
    have hlen : (s.pool.spawn id).tasks.length = s.pool.tasks.length := by simp
    have hf' : (s.pool.spawn id).Follows jobs := by
      refine hf.touch hs hord htouch fun t ht => ?_
      have := congrArg List.length ht
      simp at this
    refine ⟨hf', _, rfl, hlen.trans hd.1, hd.2.1, fun k hk => ?_⟩
    exact List.mem_append_left _ (hd.2.2 k hk)
  | track hm =>
    obtain ⟨hid, rfl, hret⟩ := hd
    exact ⟨hf, _, rfl, .inr ⟨congrArg (fun n => Plan.submitAll (jobs.drop n)) hid.symm,
      mem_returned hid hret⟩⟩
  | conclude hm he =>
    obtain ⟨hid, rfl, hret⟩ := hd
    exact ⟨hf, _, rfl, .inr ⟨congrArg (fun n => Plan.submitAll (jobs.drop n)) hid.symm,
      mem_returned hid hret⟩⟩
  | act | refuseIdle _ | beginIdle _ =>
    rcases Drives.free hd with heq | ⟨_, _, heq, _⟩ | ⟨_, heq, _⟩
    · exact nomatch heq
    · exact nomatch heq
    · exact nomatch heq
  | refuseJoin _ =>
    rcases Drives.free hd with heq | ⟨_, _, heq, _⟩ | ⟨_, heq, _⟩
    · exact nomatch heq
    · exact nomatch heq
    · cases heq
      exact ⟨hf, _, rfl, .inl rfl⟩
  | beginJoin _ =>
    rcases Drives.free hd with heq | ⟨_, _, heq, _⟩ | ⟨hn, heq, hret⟩
    · exact nomatch heq
    · exact nomatch heq
    · cases heq
      exact ⟨hf, _, rfl, Nat.le_antisymm hf.length_le hn, rfl,
        fun k hk => hret k (Nat.lt_of_lt_of_le hk hn)⟩
  | @read due aim hr =>
    obtain ⟨hlen, haim, hdue⟩ := hd
    cases haim
    have hlate := late_eq_nil (s := s) (by simp [hthreads, Thread.batch]) due
    exact ⟨hf, _, rfl, hlen, rfl, hlen, hlate, hdue⟩
  | panic _ | unwind _ _ => exact ⟨hf, _, rfl, .inl rfl⟩
  | pass _ | take _ | look _ _ => exact ⟨hf, _, rfl, hd⟩
  | idle _ => exact nomatch hd.2.1
  | join =>
    obtain ⟨_, rfl, _⟩ := hd
    exact ⟨hf, _, rfl, .inl rfl⟩

theorem Reachable.drive (hord : PureTask.Ordered jobs)
    (h : Reachable config here world [.submitAll jobs] s) : s.Drive jobs := by
  induction h with
  | start => exact ⟨.start config here world, _, rfl, .inr ⟨rfl, fun k hk => nomatch hk⟩⟩
  | step hs h ih =>
    cases h with
    | task h => exact ih.task hord hs.sound h
    | thread ht h => exact ih.act hord hs.sound hs.listing ht h

/-- When the report returns, every task has met its fate, and the report says so. -/
theorem Reachable.joined (hord : PureTask.Ordered jobs)
    (h : Reachable config here world [.submitAll jobs] s) {c : Nat} {t u : Thread σ} {q : Pool σ}
    {ids due late : List TaskId} {seen : List (Task σ)} {answer : Except Failure Report}
    (ht : s.threads[c]? = some t) (hstep : ThreadStep s t q u ids (.joined due late seen answer)) :
    s.pool.tasks.map Task.fate? = (PureTask.evaluate here config.policy jobs).map some ∧
      answer = Fate.verdict config.policy (PureTask.evaluate here config.policy jobs) := by
  have hrelies := h.relies c t ht
  obtain ⟨hf, t', hthreads, hd⟩ := h.drive hord
  have hmem := List.mem_of_getElem? ht
  rw [hthreads, List.mem_singleton] at hmem
  subst hmem
  cases hstep with
  | @join _ _ _ next =>
  obtain ⟨hlen, _, hcount, rfl, hdue⟩ := hd
  have hended : s.pool.Each fun _ t => t.isEnded = true := by
    intro i t ht
    have hi : i < jobs.length := hlen ▸ (List.getElem?_eq_some_iff.1 ht).1
    obtain ⟨_, task, htask, hended, _⟩ := (hrelies i (hdue i hi)).2 (by simp)
    rw [ht] at htask
    cases htask
    exact hended
  have hseen : seen = s.pool.tasks := by
    refine List.ext_getElem (hcount.trans hlen.symm) fun i hi _ => ?_
    obtain ⟨_, task, htask, _, hread⟩ := (hrelies i (hdue i (hcount ▸ hi))).2 (by simp)
    rw [hread _ (List.getElem?_eq_getElem hi)]
    exact ((List.getElem?_eq_some_iff.1 htask).2).symm
  have hmap := hf.map_fate? hord hlen hended
  rw [Pool.fates, h.here_eq, h.config_eq] at hmap
  refine ⟨hmap, ?_⟩
  rw [hseen, ← h.config_eq]
  rw [← h.config_eq] at hmap
  exact Pool.verdict_eq hmap

/-- The jobs that are left are submitted one after another, and each of the calls returns. -/
theorem exists_submitAll (hord : PureTask.Ordered jobs) {p : Pool σ}
    (h : Pool.Driven config here world jobs p) (htracked : p.Tracked) {left : List (PureTask σ)}
    (hleft : jobs.drop p.tasks.length = left) (returned : List TaskId) :
    ∃ q returned', p.submitAll left = some q ∧ Pool.Driven config here world jobs q ∧ q.Tracked ∧
      Runs (alone p (.free (.submitAll left)) returned)
        (alone q (.free (.joinAll .outside fun _ => .stop)) returned') := by
  induction left generalizing p returned with
  | nil => exact ⟨p, returned, rfl, h, htracked, .refl⟩
  | cons job left ih =>
    have hn : p.tasks.length < jobs.length := by
      by_contra hn
      rw [List.drop_eq_nil_of_le (Nat.le_of_not_lt hn)] at hleft
      exact nomatch hleft
    rw [List.drop_eq_getElem_cons hn, List.cons.injEq] at hleft
    have hjob : jobs[p.tasks.length]? = some job := hleft.1 ▸ List.getElem?_eq_getElem hn
    obtain ⟨r, hsubmit, hr, hrtracked, hlen⟩ := h.submit hord htracked hjob
    obtain ⟨returned', hrun⟩ := runs_submit hsubmit (fun _ => .submitAll left) returned
    obtain ⟨q, returned'', hq, hd, hqtracked, hrest⟩ :=
      ih hr hrtracked (by rw [hlen]; exact hleft.2) returned'
    refine ⟨q, returned'', ?_, hd, hqtracked, hrun.trans hrest⟩
    rw [Pool.submitAll, hsubmit]
    exact hq

/-- Tasks that one thread submits in an order in which they can need each other come to the same in
every schedule, with any number of permits and in either mode: whenever a task has ended, it has met
the fate that it has when the tasks are evaluated from left to right, and so does the report.  There
is such a schedule, and the calls of a pool that the thread has for itself are one. -/
theorem schedule_independence (hord : PureTask.Ordered jobs) (config : PoolConfig) (here : Path)
    (world : σ) :
    (∀ s, Reachable config here world [.submitAll jobs] s →
      (∀ (i : Nat) task, s.pool.tasks[i]? = some task → task.isEnded = true →
        (PureTask.evaluate here config.policy jobs)[i]? = task.fate?) ∧
      ∀ (c : Nat) t q u ids due late seen answer, s.threads[c]? = some t →
        ThreadStep s t q u ids (.joined due late seen answer) →
        s.pool.tasks.map Task.fate? = (PureTask.evaluate here config.policy jobs).map some ∧
          answer = Fate.verdict config.policy (PureTask.evaluate here config.policy jobs)) ∧
    (∃ s t q u due late seen, Reachable config here world [.submitAll jobs] s ∧
      s.threads[0]? = some t ∧ ThreadStep s t q u [] (.joined due late seen
        (Fate.verdict config.policy (PureTask.evaluate here config.policy jobs)))) ∧
    ∃ p q, (Pool.start config here world).submitAll jobs = some p ∧
      p.joinAll .outside =
        (q, some (Fate.verdict config.policy (PureTask.evaluate here config.policy jobs))) ∧
      q.tasks.map Task.fate? = (PureTask.evaluate here config.policy jobs).map some := by
  obtain ⟨p, returned, hsubmitted, hd, htracked, hrun⟩ :=
    exists_submitAll hord (.start : Pool.Driven config here world jobs _)
      .start List.drop_zero []
  obtain ⟨q, hjoin, hq, hlen, hended⟩ := hd.joinAll hord htracked
  obtain ⟨_, due, late, returned', hjoined⟩ := runs_joinAll hjoin (fun _ => .stop) returned
  have hreach : Reachable config here world [.submitAll jobs] _ :=
    Reachable.start.runs (hrun.trans hjoined)
  have hstep : ThreadStep
      (alone q (.reading due late q.tasks.length q.tasks fun _ => .stop) returned')
      (.reading due late q.tasks.length q.tasks fun _ => .stop) q (.free .stop) []
      (.joined due late q.tasks q.verdict) := .join
  obtain ⟨hmap, hverdict⟩ := hreach.joined hord (c := 0) rfl hstep
  rw [hverdict] at hstep hjoin
  refine ⟨fun s hs => ⟨fun i task htask hended => ?_, fun c t q u ids due late seen answer ht hstep =>
    hs.joined hord ht hstep⟩, ⟨_, _, q, _, due, late, _, hreach, rfl, hstep⟩, p, q, hsubmitted, hjoin,
    hmap⟩
  have := ((hs.drive hord).follows.fate hord htask hended).2
  rwa [Pool.fates, hs.here_eq, hs.config_eq] at this

/-- Three jobs: the first one completes, the second one fails, and the third one needs both. -/
def threeJobs : List (PureTask Unit) :=
  [⟨⟨"first", some ⟨['a']⟩, []⟩, fun _ => .done (.ok ()), fun _ => .ok (), fun _ => rfl⟩,
    ⟨⟨"second", some ⟨['b']⟩, []⟩, fun _ => .done (.error (.noOutput "x")),
      fun _ => .error (.noOutput "x"), fun _ => rfl⟩,
    ⟨⟨"third", none, [.task 1, .task 0]⟩, fun _ => .done (.ok ()), fun _ => .ok (), fun _ => rfl⟩]

theorem ordered_threeJobs : PureTask.Ordered threeJobs := by
  intro i t ht k hk
  match i with
  | 0 | 1 =>
    cases ht
    exact nomatch hk
  | 2 =>
    cases ht
    simp only [List.mem_cons, List.not_mem_nil, or_false, PathRef.task.injEq] at hk
    rcases hk with rfl | rfl <;> decide
  | i + 3 => exact nomatch ht

theorem schedule_independence_threeJobs :
    ∃ p q, (Pool.start ⟨1, .pooled, .bestEffort⟩ ⟨['/']⟩ ()).submitAll threeJobs = some p ∧
      p.joinAll .outside =
        (q, some (.ok ⟨2, [⟨"second", "task 'x' produced no output path"⟩]⟩)) ∧
      q.tasks.map Task.fate? =
        [some ⟨"first", .completed (some ⟨['a']⟩), [[]]⟩,
          some ⟨"second", .failed (some ⟨['b']⟩) "task 'x' produced no output path", [[]]⟩,
          some ⟨"third", .completed none, [[⟨['/', 'b']⟩, ⟨['/', 'a']⟩]]⟩] :=
  (schedule_independence ordered_threeJobs ⟨1, .pooled, .bestEffort⟩ ⟨['/']⟩ ()).2.2

end SharedPool

end NativeBuild
