import NativeBuild.Proofs.Pool.Cause
import NativeBuild.Proofs.Pool.Follow
import NativeBuild.Proofs.Pool.Progress
import NativeBuild.Proofs.Shared.Single

/-!
How failures spread in a strict pool.  A task completes exactly if its work returned and everything it
needs completed with an output, and only then is its work called at all.  A report fails with the
first failed task, and since tasks need only earlier ones, that task has not failed because another
one did.
-/

namespace NativeBuild

namespace Pool

variable {σ : Type} {config : PoolConfig} {here : Path} {world : σ} {past : List (Pool σ)}
  {p : Pool σ} {i k : TaskId} {t : Task σ}

/-- Whether the work of a task has come to the result `r`. -/
def Returned (past : List (Pool σ)) (i : TaskId) (r : Except Failure Unit) : Prop :=
  Stood past i (.done r)

/-- Whether the work of a task has panicked. -/
def Panicked (past : List (Pool σ)) (i : TaskId) : Prop :=
  Stood past i .unwind

/-- Whether a task has completed and has an output. -/
def Supplies (p : Pool σ) (k : TaskId) : Prop :=
  ∃ path, p.outcome? k = some (.completed (some path))

/-- Whether all tasks that a task needs have completed and have outputs. -/
def Supplied (p : Pool σ) (spec : TaskSpec) : Prop :=
  ∀ k, .task k ∈ spec.inputs → p.Supplies k

/-- A strict pool gives the path of a task that has completed with an output, and of no other one. -/
theorem supplies_iff (hp : p.config.policy = .strict) :
    p.Supplies k ↔ ∃ path, p.pathNow? (.task k) = some (.ok path) := by
  constructor
  · rintro ⟨path, ho⟩
    refine ⟨path.absolute p.here, ?_⟩
    simp only [pathNow?, ho, Option.map_some, outcomePath, Outcome.resolve]
  · rintro ⟨path, h⟩
    obtain ⟨o, ho, hr⟩ := Option.map_eq_some_iff.1 h
    unfold outcomePath at hr
    rw [hp] at hr
    cases o with
    | completed output =>
      cases output with
      | none => cases hr
      | some path => exact ⟨path, ho⟩
    | failed nominal message => cases nominal <;> cases hr

theorem supplied_iff (hp : p.config.policy = .strict) (spec : TaskSpec) :
    p.Supplied spec ↔ p.Passed spec :=
  forall_congr' fun _ => forall_congr' fun _ => supplies_iff hp

/-- Why a strict pool does not give the path of a task. -/
theorem of_pathNow?_error (hp : p.config.policy = .strict) {e : Failure}
    (h : p.pathNow? (.task k) = some (.error e)) :
    p.outcome? k = some (.completed none) ∧ e = .noOutput (p.label k) ∨
      ∃ nominal message, p.outcome? k = some (.failed nominal message) ∧
        e = .taskFailed (p.label k) message := by
  obtain ⟨o, ho, hr⟩ := Option.map_eq_some_iff.1 h
  unfold outcomePath at hr
  rw [hp] at hr
  cases o with
  | completed output =>
    cases output with
    | none =>
      cases hr
      exact .inl ⟨ho, rfl⟩
    | some path => exact nomatch hr
  | failed nominal message =>
    cases nominal <;> cases hr <;> exact .inr ⟨_, message, ho, rfl⟩

theorem CameTo.returned {r : Except Failure Unit} (h : CameTo past .pooled i (.result r)) :
    Returned past i r := by
  obtain ⟨w, hw, hx⟩ := h
  cases w with
  | done result =>
    cases hx
    exact hw
  | unwind | act _ _ | await _ _ | ask _ _ | submit _ _ _ => exact nomatch hx

theorem CameTo.panicked (h : CameTo past .pooled i .panic) : Panicked past i := by
  obtain ⟨w, hw, hx⟩ := h
  cases w with
  | unwind => exact hw
  | done _ | act _ _ | await _ _ | ask _ _ | submit _ _ _ => exact nomatch hx

/-- When a task of a strict pool has completed, and when its work has been called. -/
theorem Run.ended_iff (h : Run config here world past p) (hm : config.mode = .pooled)
    (hp : config.policy = .strict) (ht : p.tasks[i]? = some t) (he : t.isEnded = true) :
    ((∃ output, t.outcome? = some (.completed output)) ↔
      Returned past i (.ok ()) ∧ p.Supplied t.spec) ∧
    (t.calls ≠ [] ↔ p.Supplied t.spec) := by
  obtain ⟨hcause, hheeds⟩ := h.cause ht he
  have hconfig := h.reached.config_eq
  rw [← hconfig] at hheeds hm hp
  have hcompleted := hcause.completed_iff hheeds he
  rw [supplied_iff hp]
  refine ⟨hcompleted.trans (and_congr_left' ⟨fun h => ?_, fun h => ⟨_, h, rfl⟩⟩),
    hcause.calls_ne_nil_iff⟩
  rw [hm] at h
  exact h.returned

/-- Why a task failed all of whose inputs completed. -/
inductive RootCause (past : List (Pool σ)) (p : Pool σ) (i : TaskId) (t : Task σ)
    (message : String) : Prop where
  | returned {e : Failure} (h : Returned past i (.error e)) (hm : message = e.message)
  | panicked (h : Panicked past i) (hm : message = "task abandoned before finishing")
  | noOutput {k : TaskId} (hk : .task k ∈ t.spec.inputs)
    (hin : p.outcome? k = some (.completed none)) (hc : t.calls = [])
    (hm : message = "input unavailable: " ++ (Failure.noOutput (p.label k)).message)

/-- A failed task that comes after completed ones only has failed for itself. -/
theorem Cause.root (h : Cause past p i t) (hm : p.config.mode = .pooled)
    (hp : p.config.policy = .strict) {nominal : Option Path} {message : String}
    (ho : t.outcome? = some (.failed nominal message))
    (hin : ∀ k, .task k ∈ t.spec.inputs → ∃ output, p.outcome? k = some (.completed output)) :
    RootCause past p i t message := by
  cases h with
  | @called x hx _ _ ho' =>
    rw [ho] at ho'
    rw [hm] at hx
    match x with
    | .result (.ok _) => exact nomatch ho'
    | .result (.error e) =>
      cases ho'
      exact .returned hx.returned rfl
    | .panic =>
      cases ho'
      exact .panicked hx.panicked rfl
  | refused hk hrefused hc ho' =>
    rw [ho] at ho'
    cases ho'
    obtain ⟨output, hcompleted⟩ := hin _ hk
    rcases of_pathNow?_error hp hrefused with ⟨hnone, rfl⟩ | ⟨nominal, message, hfailed, -⟩
    · exact .noOutput hk hnone hc rfl
    · rw [hfailed] at hcompleted
      exact nomatch hcompleted

/-- What a report says of a finished task. -/
theorem failureOf?_of_outcome? {o : Outcome} (h : t.outcome? = some o) :
    failureOf? t = (Fate.mk t.spec.label o t.calls).failure? :=
  failureOf?_eq (by rw [Task.fate?, h]; rfl)

/-- A strict pool reports its first failure, or that there was none. -/
theorem verdict_strict (hp : p.config.policy = .strict) :
    p.verdict = .ok ⟨p.tasks.length, []⟩ ∧ (∀ t ∈ p.tasks, failureOf? t = none) ∨
      ∃ before t after f, p.tasks = before ++ t :: after ∧ (∀ t ∈ before, failureOf? t = none) ∧
        failureOf? t = some f ∧ p.verdict = .error (.taskFailed f.label f.message) := by
  cases hf : p.tasks.filterMap failureOf? with
  | nil =>
    have hnone := List.filterMap_eq_nil_iff.1 hf
    have hcount : (p.tasks.countP fun t => (failureOf? t).isNone) = p.tasks.length :=
      List.countP_eq_length.2 fun t ht => by rw [hnone t ht]; rfl
    refine .inl ⟨?_, hnone⟩
    simp only [verdict, report, hp, hf, hcount]
  | cons f rest =>
    obtain ⟨before, t, after, htasks, hbefore, hft, _⟩ := List.filterMap_eq_cons_iff.1 hf
    refine .inr ⟨before, t, after, f, htasks, hbefore, hft, ?_⟩
    simp only [verdict, report, hp, hf]

end Pool

namespace SharedPool

variable {σ : Type} {s s' : SharedPool σ} {past : List (SharedPool σ)} {config : PoolConfig}
  {here : Path} {world : σ} {plans : List (Plan σ)}

/-- The courses of a shared pool whose threads and tasks submit tasks that need only what they have
got hold of: what it has been, in order, and what it is. -/
inductive Course (config : PoolConfig) (here : Path) (world : σ) (plans : List (Plan σ)) :
    List (SharedPool σ) → SharedPool σ → Prop where
  | start : Course config here world plans [] (SharedPool.start config here world plans)
  | step {past : List (SharedPool σ)} {s s' : SharedPool σ}
    (hs : Course config here world plans past s) (h : Step s s')
    (hk : ∀ (i : Nat) t, s'.pool.tasks[i]? = some t → s.pool.tasks.length ≤ i →
      s.pool.Knows t.spec) : Course config here world plans (past ++ [s]) s'

theorem Course.reachable (h : Course config here world plans past s) :
    Reachable config here world plans s := by
  induction h with
  | start => exact .start
  | step _ h _ ih => exact ih.step h

theorem Course.run (h : Course config here world plans past s) :
    Pool.Run config here world (past.map pool) s.pool := by
  induction h with
  | start => exact .start
  | step hs h hk ih =>
    rw [List.map_append]
    exact ih.move (h.move hs.reachable.listing) hk

end SharedPool

/-- What a thread has seen of the tasks, they have been. -/
def Thread.Saw {σ : Type} (p : Pool σ) : Thread σ → Prop
  | .reading _ _ _ seen _ =>
    ∀ (i : Nat) u, seen[i]? = some u → ∃ t, p.tasks[i]? = some t ∧ u.Later t
  | _ => True

namespace SharedPool

variable {σ : Type} {s s' : SharedPool σ} {past : List (SharedPool σ)} {config : PoolConfig}
  {here : Path} {world : σ} {plans : List (Plan σ)}

theorem saw_grows {t : Thread σ} {p q : Pool σ} (h : Thread.Saw p t) (hg : p.Grows q) :
    Thread.Saw q t := by
  cases t with
  | reading due late count seen next =>
    intro i u hu
    obtain ⟨t, ht, hl⟩ := h i u hu
    obtain ⟨t', ht', hl'⟩ := hg i t ht
    exact ⟨t', ht', hl.trans hl'⟩
  | free _ | listed _ _ _ | spawned _ _ | waiting _ _ _ => trivial

theorem Reachable.saw (h : Reachable config here world plans s) :
    ∀ (c : Nat) t, s.threads[c]? = some t → Thread.Saw s.pool t := by
  induction h with
  | start =>
    intro c t ht
    obtain ⟨plan, _, rfl⟩ := List.mem_map.1 (List.mem_of_getElem? ht)
    trivial
  | @step s s' hs h ih =>
    have hg := (h.move hs.listing).grows
    cases h with
    | task h => exact fun c t ht => saw_grows (ih c t ht) hg
    | @thread c t u q ids e ht h =>
      intro d v hv
      rcases getElem?_set_cases hv with ⟨_, rfl⟩ | ⟨_, hv⟩
      · cases h with
        | read _ => exact fun i u hu => nomatch hu
        | @look due late count seen read next hlt hread =>
          intro i w hw
          rcases getElem?_concat_cases hw with hw | ⟨rfl, rfl⟩
          · exact ih c _ ht i w hw
          · exact ⟨_, hread, .refl _⟩
        | act | enlist | panic _ | spawn _ | track _ | conclude _ _ | unwind _ _ | refuseIdle _
        | refuseJoin _ | beginIdle _ | beginJoin _ | pass _ | take _ | idle _ | join => trivial
      · exact saw_grows (ih d v hv) hg

/-- A step that lists no task leads on. -/
theorem Course.still (hs : Course config here world plans past s) (h : Step s s')
    (hlen : s'.pool.tasks.length ≤ s.pool.tasks.length) :
    Course config here world plans (past ++ [s]) s' :=
  hs.step h fun _ _ ht hi =>
    absurd (List.getElem?_eq_some_iff.1 ht).1 (Nat.not_lt_of_le (Nat.le_trans hlen hi))

/-- A step that lists a task leads on if the workers have what the task needs. -/
theorem Course.enlist (hs : Course config here world plans past s) (h : Step s s') {new : Task σ}
    (htasks : s'.pool.tasks = s.pool.tasks ++ [new]) (hk : s.pool.Knows new.spec) :
    Course config here world plans (past ++ [s]) s' := by
  refine hs.step h fun i t ht hi => ?_
  rw [htasks] at ht
  rcases getElem?_concat_cases ht with ht | ⟨_, rfl⟩
  · exact absurd (List.getElem?_eq_some_iff.1 ht).1 (Nat.not_lt_of_le hi)
  · exact hk

/-- What a thread has seen to have ended is as it has seen it. -/
theorem Reachable.getElem?_of_saw (h : Reachable config here world plans s) {c : Nat}
    {due late : List TaskId} {count : Nat} {seen : List (Task σ)}
    {next : Except Failure Report → Plan σ}
    (ht : s.threads[c]? = some (.reading due late count seen next)) {i : Nat} {task : Task σ}
    (hi : seen[i]? = some task) (he : task.isEnded = true) : s.pool.tasks[i]? = some task := by
  obtain ⟨u, hu, hl⟩ := h.saw c _ ht i task hi
  rw [hu, hl.ended he]

/-- How failures spread in a strict pooled run.  A task that has ended has completed exactly if its
work returned and everything that it needs has completed with an output, and its work has been called
exactly if that is so.  A report for which the thread has seen all tasks at their end is one without
failures, or it fails with the first failed task; that task comes after everything that it needs, all
of which has completed, and has failed in its own work, by a panic, or for an input that declares no
output.  A thread that has the pool for itself sees all tasks at their end. -/
theorem Course.strict (h : Course config here world plans past s) (hm : config.mode = .pooled)
    (hp : config.policy = .strict) :
    (∀ (i : TaskId) t, s.pool.tasks[i]? = some t → t.isEnded = true →
      ((∃ output, t.outcome? = some (.completed output)) ↔
        Pool.Returned (past.map pool) i (.ok ()) ∧ s.pool.Supplied t.spec) ∧
      (t.calls ≠ [] ↔ s.pool.Supplied t.spec)) ∧
    (∀ (c : Nat) t q u ids due late seen answer, s.threads[c]? = some t →
      ThreadStep s t q u ids (.joined due late seen answer) → (∀ t ∈ seen, t.isEnded = true) →
      answer = .ok ⟨seen.length, []⟩ ∧
          (∀ t ∈ seen, ∃ output, t.outcome? = some (.completed output)) ∨
        ∃ i t nominal message, seen[i]? = some t ∧ t.outcome? = some (.failed nominal message) ∧
          (∀ k < i, ∃ output, s.pool.outcome? k = some (.completed output)) ∧
          (∀ k, .task k ∈ t.spec.inputs → k < i) ∧
          answer = .error (.taskFailed t.spec.label message) ∧
          Pool.RootCause (past.map pool) s.pool i t message) ∧
    ∀ plan (c : Nat) t q u ids due late seen answer, plans = [plan] → s.threads[c]? = some t →
      ThreadStep s t q u ids (.joined due late seen answer) →
      seen = s.pool.tasks ∧ ∀ t ∈ seen, t.isEnded = true := by
  have hs := h.reachable
  refine ⟨fun i t ht he => ?_, ?_, ?_⟩
  · exact h.run.ended_iff hm hp ht he
  · intro c t q u ids due late seen answer ht hstep hended
    cases hstep with
    | join =>
    -- A task that was seen at its end has an outcome, which says what the report says of it.
    have houtcome : ∀ (i : Nat) task, seen[i]? = some task →
        ∃ o, task.outcome? = some o ∧ s.pool.outcome? i = some o ∧
          Pool.failureOf? task = (Fate.mk task.spec.label o task.calls).failure? := by
      intro i task hi
      have he := hended task (List.mem_of_getElem? hi)
      have htask := hs.getElem?_of_saw ht hi he
      obtain ⟨o, ho⟩ := Option.isSome_iff_exists.1
        ((hs.sound i task htask).outcome?_isSome.trans he)
      exact ⟨o, ho, (Pool.outcome?_eq htask).trans ho, Pool.failureOf?_of_outcome? ho⟩
    have hcompleted : ∀ (i : Nat) task, seen[i]? = some task → Pool.failureOf? task = none →
        ∃ output, task.outcome? = some (.completed output) ∧
          s.pool.outcome? i = some (.completed output) := by
      intro i task hi hnone
      obtain ⟨o, ho, hpool, hreport⟩ := houtcome i task hi
      cases o with
      | completed output => exact ⟨output, ho, hpool⟩
      | failed nominal message => exact nomatch hnone.symm.trans hreport
    have hpolicy : ({ s.pool with tasks := seen } : Pool σ).config.policy = .strict := by
      rw [← hp, ← hs.config_eq]
    rcases Pool.verdict_strict hpolicy with ⟨hanswer, hnone⟩ | ⟨before, t, after, f, hseen, hbefore,
      hfailed, hanswer⟩
    · refine .inl ⟨hanswer, fun t ht => ?_⟩
      obtain ⟨i, hi, rfl⟩ := List.mem_iff_getElem.1 ht
      obtain ⟨output, ho, _⟩ := hcompleted i _ (List.getElem?_eq_getElem hi) (hnone _ ht)
      exact ⟨output, ho⟩
    · have hseen : seen = before ++ t :: after := hseen
      have hi : seen[before.length]? = some t := by rw [hseen]; simp
      obtain ⟨o, ho, _, hreport⟩ := houtcome _ t hi
      cases o with
      | completed output => exact nomatch hfailed.symm.trans hreport
      | failed nominal message =>
      obtain rfl : f = ⟨t.spec.label, message⟩ := Option.some.inj (hfailed.symm.trans hreport)
      have htask := hs.getElem?_of_saw ht hi (hended t (List.mem_of_getElem? hi))
      have hearlier (k : TaskId) (hk : .task k ∈ t.spec.inputs) : k < before.length :=
        (h.run.reached.earlier htask hk).1
      have hfirst (k : TaskId) (hk : k < before.length) :
          ∃ output, s.pool.outcome? k = some (.completed output) := by
        have hget : seen[k]? = some before[k] := by
          rw [hseen, List.getElem?_append_left hk, List.getElem?_eq_getElem hk]
        obtain ⟨output, _, hpool⟩ := hcompleted k _ hget (hbefore _ (List.getElem_mem hk))
        exact ⟨output, hpool⟩
      obtain ⟨hcause, _⟩ := h.run.cause htask (hended t (List.mem_of_getElem? hi))
      exact .inr ⟨before.length, t, nominal, message, hi, ho, hfirst, hearlier, hanswer,
        hcause.root (hs.config_eq ▸ hm) (hs.config_eq ▸ hp) ho fun k hk => hfirst k (hearlier k hk)⟩
  · rintro plan c t q u ids due late seen answer rfl ht hstep
    obtain ⟨t', hthreads, htends⟩ := hs.single.tends
    obtain rfl : t = t' := by
      have hmem := List.mem_of_getElem? ht
      rw [hthreads] at hmem
      exact List.mem_singleton.1 hmem
    obtain ⟨hrest, hseen, _⟩ := htends.joined hstep
    refine ⟨hseen, fun task htask => ?_⟩
    rw [hseen] at htask
    obtain ⟨i, hi, rfl⟩ := List.mem_iff_getElem.1 htask
    rcases hrest i _ (List.getElem?_eq_getElem hi) with he | ⟨_, hinline⟩
    · exact he
    · rw [hs.config_eq, hm] at hinline
      exact nomatch hinline

/-- Three tasks, each of which needs the one before it; the first one declares no output. -/
def chainPlan : Plan Unit :=
  .submit .outside ⟨"first", none, []⟩ (fun _ => .done (.ok ())) fun first =>
  .submit .outside ⟨"second", some ⟨['b']⟩, [.task first]⟩ (fun _ => .done (.ok ())) fun second =>
  .submit .outside ⟨"third", none, [.task second]⟩ (fun _ => .done (.ok ())) fun _ =>
  .joinAll .outside fun _ => .stop

/-- The three tasks at their end. -/
def chainTasks : List (Task Unit) :=
  [⟨⟨"first", none, []⟩, fun _ => .done (.ok ()), .finished (.completed none), .ended false, [[]]⟩,
    ⟨⟨"second", some ⟨['b']⟩, [.task 0]⟩, fun _ => .done (.ok ()),
      .finished (.failed (some ⟨['b']⟩)
        "input unavailable: task 'first' produced no output path"), .ended false, []⟩,
    ⟨⟨"third", none, [.task 1]⟩, fun _ => .done (.ok ()),
      .finished (.failed none ("input unavailable: task 'second' failed: " ++
        "input unavailable: task 'first' produced no output path")), .ended false, []⟩]

theorem exists_course_chain : ∃ past, Course ⟨2, .pooled, .strict⟩ ⟨['/']⟩ () [chainPlan] past
    (alone ⟨⟨2, .pooled, .strict⟩, ⟨['/']⟩, 2, (), chainTasks, []⟩
      (.reading [0, 1, 2] [] 3 chainTasks fun _ => .stop) [0, 1, 2]) := by
  have started : Course ⟨2, .pooled, .strict⟩ ⟨['/']⟩ () [chainPlan] _ _ := .start
  have first := started.enlist (.thread (c := 0) rfl .enlist) rfl (fun _ h => nomatch h)
  have first := first.still (.thread (c := 0) rfl (.spawn (.inl rfl))) (Nat.le_refl _)
  have first := first.still (.thread (c := 0) rfl (.track rfl)) (Nat.le_refl _)
  have second := first.enlist (.thread (c := 0) rfl .enlist) rfl
    fun k h => by
      obtain rfl := PathRef.task.inj (List.mem_singleton.1 h)
      exact ⟨_, rfl, rfl⟩
  have second := second.still (.thread (c := 0) rfl (.spawn (.inl rfl))) (Nat.le_refl _)
  have second := second.still (.thread (c := 0) rfl (.track rfl)) (Nat.le_refl _)
  have third := second.enlist (.thread (c := 0) rfl .enlist) rfl
    fun k h => by
      obtain rfl := PathRef.task.inj (List.mem_singleton.1 h)
      exact ⟨_, rfl, rfl⟩
  have third := third.still (.thread (c := 0) rfl (.spawn (.inl rfl))) (Nat.le_refl _)
  have third := third.still (.thread (c := 0) rfl (.track rfl)) (Nat.le_refl _)
  have begun := third.still (.task (i := 0) rfl) (Nat.le_refl _)
  have called := begun.still (.task (i := 0) rfl) (Nat.le_refl _)
  have finished := called.still (.task (i := 0) rfl) (Nat.le_refl _)
  have begun := finished.still (.task (i := 1) rfl) (Nat.le_refl _)
  have refused := begun.still (.task (i := 1) rfl) (Nat.le_refl _)
  have begun := refused.still (.task (i := 2) rfl) (Nat.le_refl _)
  have refused := begun.still (.task (i := 2) rfl) (Nat.le_refl _)
  have waits := refused.still (.thread (c := 0) rfl (.beginJoin rfl)) (Nat.le_refl _)
  have waits := waits.still (.thread (c := 0) rfl (.take (by simp [SharedPool.start]))) (Nat.le_refl _)
  have waits := waits.still (.thread (c := 0) rfl (.pass rfl)) (Nat.le_refl _)
  have waits := waits.still (.thread (c := 0) rfl (.pass rfl)) (Nat.le_refl _)
  have waits := waits.still (.thread (c := 0) rfl (.pass rfl)) (Nat.le_refl _)
  have reads := waits.still (.thread (c := 0) rfl (.read rfl)) (Nat.le_refl _)
  have looked := reads.still (.thread (c := 0) rfl (.look (Nat.zero_lt_succ 2) rfl)) (Nat.le_refl _)
  have looked := looked.still (.thread (c := 0) rfl (.look (Nat.one_lt_succ_succ 1) rfl))
    (Nat.le_refl _)
  have looked := looked.still (.thread (c := 0) rfl (.look (Nat.lt_succ_self 2) rfl)) (Nat.le_refl _)
  exact ⟨_, looked⟩

/-- The report on the three tasks fails with the second one, which has failed for itself. -/
theorem strict_chain :
    ∃ past, Course ⟨2, .pooled, .strict⟩ ⟨['/']⟩ () [chainPlan] past
        (alone ⟨⟨2, .pooled, .strict⟩, ⟨['/']⟩, 2, (), chainTasks, []⟩
          (.reading [0, 1, 2] [] 3 chainTasks fun _ => .stop) [0, 1, 2]) ∧
      ∃ i t nominal message, chainTasks[i]? = some t ∧
        t.outcome? = some (.failed nominal message) ∧
        .error (.taskFailed "second" "input unavailable: task 'first' produced no output path") =
          (.error (.taskFailed t.spec.label message) : Except Failure Report) ∧
        Pool.RootCause (past.map pool)
          ⟨⟨2, .pooled, .strict⟩, ⟨['/']⟩, 2, (), chainTasks, []⟩ i t message := by
  obtain ⟨past, h⟩ := exists_course_chain
  have hjoin : ThreadStep (alone ⟨⟨2, .pooled, .strict⟩, ⟨['/']⟩, 2, (), chainTasks, []⟩
      (.reading [0, 1, 2] [] 3 chainTasks fun _ => .stop) [0, 1, 2])
      (.reading [0, 1, 2] [] chainTasks.length chainTasks fun _ => .stop)
      ⟨⟨2, .pooled, .strict⟩, ⟨['/']⟩, 2, (), chainTasks, []⟩ (.free .stop) []
      (.joined [0, 1, 2] [] chainTasks (.error (.taskFailed "second"
        "input unavailable: task 'first' produced no output path"))) := .join
  obtain ⟨_, hjoined, _⟩ := h.strict rfl rfl
  rcases hjoined 0 _ _ _ _ _ _ _ _ rfl hjoin (by simp [chainTasks, Task.isEnded]) with
    ⟨hok, _⟩ | ⟨i, t, nominal, message, hi, ho, _, _, hanswer, hroot⟩
  · cases hok
  · exact ⟨past, h, i, t, nominal, message, hi, ho, hanswer, hroot⟩

end SharedPool

end NativeBuild
