import NativeBuild.Proofs.Pool.Drop

/-!
The life of a task as its handles show it: the states that it passes through, its one outcome, and
the answers that callers get, whether they ask before or after it has finished.
-/

namespace NativeBuild

/-- How the state of a task changes. -/
inductive TaskState.Moves : TaskState → TaskState → Prop where
  | run : Moves .pending .running
  | fail (nominal : Option Path) (message : String) :
    Moves .pending (.finished (.failed nominal message))
  | finish (o : Outcome) : Moves .running (.finished o)

/-- What a caller may ask of a task's handle, or of a path that the task is to give. -/
inductive Query where
  | outcome
  | status
  | resolve (caller : Caller)
  | resolveAsync
  | isReady
  | resolvePath (caller : Caller)
  | resolvePathAsync

/-- What a caller is told. -/
inductive Reply where
  | outcome (o : Option Outcome)
  | status (word : String)
  | resolved (r : Except Failure Outcome)
  | ready (b : Bool)
  | path (r : Except Failure Path)

namespace Query

variable {σ : Type}

/-- What the outcome `o` of a task says to a caller.  `label` is the task's. -/
def reply (here : Path) (policy : Policy) (label : String) (o : Outcome) : Query → Reply
  | .outcome => .outcome (some o)
  | .status => .status (TaskState.finished o).status
  | .resolve _ | .resolveAsync => .resolved (.ok o)
  | .isReady => .ready true
  | .resolvePath _ | .resolvePathAsync => .path (o.resolve here policy label)

/-- What a caller is told who looks at the task `i` of the pool `p`, unless he has to wait. -/
def reply? (p : Pool σ) (i : TaskId) : Query → Option Reply
  | .outcome => some (.outcome (p.outcome? i))
  | .status => some (.status (p.state i).status)
  | .resolve caller =>
    match p.outcome? i, Pool.mayWait caller (p.label i) with
    | some o, _ => some (.resolved (.ok o))
    | none, .error e => some (.resolved (.error e))
    | none, .ok () => none
  | .resolveAsync => (p.outcome? i).map fun o => .resolved (.ok o)
  | .isReady => some (.ready (p.isReady (.task i)))
  | .resolvePath caller =>
    match p.outcome? i, Pool.mayWait caller (p.label i) with
    | some o, _ => some (.path (p.outcomePath i o))
    | none, .error e => some (.path (.error e))
    | none, .ok () => none
  | .resolvePathAsync => (p.pathNow? (.task i)).map .path

/-- A call that looks at the pool `p` and, if it has to wait, at the later pool `q`. -/
def Answers (p q : Pool σ) (i : TaskId) (c : Query) (r : Reply) : Prop :=
  c.reply? p i = some r ∨ c.reply? p i = none ∧ c.reply? q i = some r

/-- Whoever looks at a finished task is told its outcome. -/
theorem reply?_of_outcome? {p : Pool σ} {i : TaskId} {o : Outcome} (h : p.outcome? i = some o)
    (c : Query) : c.reply? p i = some (c.reply p.here p.config.policy (p.label i) o) := by
  cases c with
  | outcome => simp [reply?, reply, h]
  | status =>
    have hs : p.state i = .finished o := by
      unfold Pool.outcome? TaskState.outcome? at h
      split at h
      · next hs => cases h; exact hs
      · exact nomatch h
    simp [reply?, reply, hs]
  | isReady => simp [reply?, reply, Pool.isReady, h]
  | resolvePathAsync => simp [reply?, reply, Pool.pathNow?, Pool.outcomePath, h]
  | resolve caller | resolveAsync | resolvePath caller => simp [reply?, reply, Pool.outcomePath, h]

/-- Who has had to wait for a task is answered when it has finished. -/
theorem outcome?_of_waited {p q : Pool σ} {i : TaskId} {c : Query} {r : Reply}
    (hwait : c.reply? p i = none) (h : c.reply? q i = some r) : (q.outcome? i).isSome = true := by
  cases ho : q.outcome? i with
  | some o => rfl
  | none =>
    cases c with
    | outcome | status | isReady => exact nomatch hwait
    | resolveAsync => simp [reply?, ho] at h
    | resolvePathAsync => simp [reply?, Pool.pathNow?, ho] at h
    | resolve caller | resolvePath caller =>
      -- Only a caller from outside waits, and his second look finds the outcome or nothing.
      cases caller with
      | outside => simp [reply?, ho, Pool.mayWait] at h
      | inside => cases hp : p.outcome? i <;> simp [reply?, hp, Pool.mayWait] at hwait

end Query

namespace Task

variable {σ : Type} {p : Pool σ} {t u : Task σ}

/-- Whether the outcome of a task, if it has one, names the output that the task was submitted with.
-/
def NamesOutput (t : Task σ) : Prop :=
  ∀ o, t.outcome? = some o → o.path? = t.spec.output

theorem IsNew.namesOutput (h : t.IsNew) : t.NamesOutput := by
  intro o ho
  simp [outcome?, h.state, TaskState.outcome?] at ho

theorem path?_outcomeOf (t : Task σ) (result : Except Failure Unit) :
    (t.outcomeOf result).path? = t.spec.output := by
  cases result <;> rfl

/-- A record of an outcome that names the output keeps all outcomes that do. -/
theorem NamesOutput.finish {o first : Outcome} (ht : t.NamesOutput) (ho : o.path? = t.spec.output)
    (h : (t.state.finish o).outcome? = some first) : first.path? = t.spec.output := by
  unfold TaskState.finish at h
  split at h
  · next hs => exact ht first (by rw [outcome?, hs]; exact h)
  · cases h
    exact ho

theorem NamesOutput.close (ht : t.NamesOutput) (unwound : Bool) : (t.close unwound).NamesOutput :=
  fun _ h => ht.finish (o := t.abandonment) rfl h

theorem Next.namesOutput (h : t.Next p u) (ht : t.NamesOutput) : u.NamesOutput := by
  cases h with
  | spawn _ | start _ | find _ _ | act _ _ | await _ | ask _ _ | submit _ _ | track _ => exact ht
  | unwind _ | abandon _ => exact ht.close true
  | call _ => exact fun o h => nomatch h
  | @refuse _ _ _ e hs _ =>
    exact NamesOutput.close (t := { t with
      state := t.state.finish (.failed t.spec.output ("input unavailable: " ++ e.message)) })
      (fun _ h => ht.finish rfl h) false
  | @finish result hs =>
    exact NamesOutput.close (t := { t with state := t.state.finish (t.outcomeOf result) })
      (fun _ h => ht.finish (path?_outcomeOf t result) h) false

theorem NamesOutput.drop (ht : t.NamesOutput) : t.drop.NamesOutput := by
  unfold Task.drop
  split
  · exact ht.close true
  · exact ht

/-- A step leaves a task's state or moves it on. -/
theorem Next.state (h : t.Next p u) (ht : t.Sound) :
    Relation.ReflTransGen TaskState.Moves t.state u.state := by
  cases h with
  | spawn hs | start hs | find hs _ | act hs _ | await hs | ask hs _ | submit hs _ | track hs =>
    exact .refl
  | refuse hs _ =>
    simp only [Sound, hs] at ht
    simp only [Task.refuse, Task.close, ht.1, TaskState.finish]
    exact .single (.fail _ _)
  | call hs =>
    simp only [Sound, hs] at ht
    rw [ht.1]
    exact .single .run
  | finish hs =>
    simp only [Sound, hs] at ht
    simp only [Task.finish, Task.close, ht.1, TaskState.finish]
    exact .single (.finish _)
  | unwind hs | abandon hs =>
    simp only [Sound, hs] at ht
    simp only [Task.close, ht.1, TaskState.finish]
    exact .single (.finish _)

/-- A task that is given up fails, or its state stays as it is. -/
theorem state_drop (ht : t.Accounted) (hs : t.isEnded = false) :
    Relation.ReflTransGen TaskState.Moves t.state t.drop.state := by
  rcases ht with ht | ht
  · rcases drop_cases ht hs with ⟨_, _, _, hd⟩ | ⟨hg, _⟩
    · rw [hd]
      unfold Sound at ht
      split at ht
      · rw [ht.1]; exact .single (.fail _ _)
      · rw [ht.1]; exact .single (.fail _ _)
      · rw [ht.1]; exact .single (.fail _ _)
      · rw [ht.1]; exact .single (.finish _)
      · rw [ht.1]; exact .single (.finish _)
      · next hstage => simp [isEnded, hstage] at hs
    · simp only [drop, hg]
      exact .refl
  · rw [ht.isEnded] at hs
    cases hs

/-- A step calls the work of a task at most, and takes no call back. -/
theorem Next.calls (h : t.Next p u) : t.calls <+: u.calls := by
  cases h with
  | call hs => exact List.prefix_append _ _
  | spawn _ | start _ | find _ _ | refuse _ _ | finish _ | unwind _ | act _ _ | await _ | ask _ _
  | submit _ _ | abandon _ | track _ => exact List.prefix_refl _

theorem calls_drop (t : Task σ) : t.drop.calls = t.calls := by
  unfold drop
  split <;> rfl

theorem Accounted.length_calls_le (h : t.Accounted) : t.calls.length ≤ 1 := by
  rcases h with h | h
  · unfold Sound at h
    split at h
    · simp [h.2]
    · simp [h.2]
    · simp [h.2]
    · obtain ⟨_, inputs, hcalls⟩ := h
      simp [hcalls]
    · obtain ⟨_, inputs, hcalls⟩ := h
      simp [hcalls]
    · exact h.2
  · simp [h.calls]

/-- What becomes of a task with the changes of its pool. -/
structure Lives (t u : Task σ) : Prop where
  state : Relation.ReflTransGen TaskState.Moves t.state u.state
  calls : t.calls <+: u.calls

theorem Lives.refl (t : Task σ) : t.Lives t :=
  ⟨.refl, List.prefix_refl _⟩

theorem Lives.trans {v : Task σ} (h : t.Lives u) (h' : u.Lives v) : t.Lives v :=
  ⟨h.state.trans h'.state, h.calls.trans h'.calls⟩

end Task

namespace Pool

variable {σ : Type} {config : PoolConfig} {here : Path} {world : σ} {p q r : Pool σ}

theorem each_of_start {P : Nat → Task σ → Prop} (h : (Pool.start config here world).Becomes p)
    (hu : ∀ (q : Pool σ) (i : Nat) t u, t.Accounted → P i t → t.Next q u → P i u)
    (hd : ∀ (i : Nat) t, t.Accounted → P i t → t.isEnded = false → P i t.drop)
    (hn : ∀ (i : Nat) t, t.IsNew → P i t) : p.Each P := by
  induction h with
  | refl => exact .start config here world
  | @tail q r hq h ih =>
    have hacc := Becomes.accounted hq (.start config here world)
    exact h.each ih (fun i t u ht hnext => hu q i t u (hacc i t ht) (ih i t ht) hnext)
      (fun i t ht hs => hd i t (hacc i t ht) (ih i t ht) hs) fun t ht => hn _ t ht

/-- One change of a pool makes each of its tasks live on. -/
theorem Change.lives (h : Change p q) (hp : p.Each fun _ t => t.Accounted) {i : Nat} {t u : Task σ}
    (ht : p.tasks[i]? = some t) (hu : q.tasks[i]? = some u) : t.Lives u := by
  have hall : q.Each fun i u => ∀ t, p.tasks[i]? = some t → t.Lives u := by
    refine h.each (fun i u hu t ht => ?_) (fun i u v hu hnext t ht => ?_) (fun i u hu hs t ht => ?_)
      fun u _ t ht => ?_
    · obtain rfl := Option.some.inj (ht.symm.trans hu)
      exact .refl t
    · obtain rfl := Option.some.inj (ht.symm.trans hu)
      exact ⟨hnext.state (hnext.sound_of_accounted (hp i t ht)), hnext.calls⟩
    · obtain rfl := Option.some.inj (ht.symm.trans hu)
      exact ⟨Task.state_drop (hp i t ht) hs, Task.calls_drop .. ▸ List.prefix_refl _⟩
    · exact absurd (List.getElem?_eq_some_iff.1 ht).1 (Nat.lt_irrefl _)
  exact hall i u hu t ht

theorem Becomes.lives (h : p.Becomes q) (hp : p.Each fun _ t => t.Accounted) {i : Nat} {t u : Task σ}
    (ht : p.tasks[i]? = some t) (hu : q.tasks[i]? = some u) : t.Lives u := by
  induction h generalizing u with
  | refl =>
    obtain rfl := Option.some.inj (ht.symm.trans hu)
    exact .refl t
  | @tail q r hq h ih =>
    obtain ⟨v, hv, _⟩ := Becomes.grows hq i t ht
    exact (ih hv).trans (h.lives (Becomes.accounted hq hp) hv hu)

/-- A pool from which changes lead on, with what they say of all its tasks. -/
theorem Becomes.of_start (h : (Pool.start config here world).Becomes p) :
    p.Each fun _ t => t.Accounted :=
  h.accounted (.start config here world)

theorem Becomes.namesOutput (h : (Pool.start config here world).Becomes p) :
    p.Each fun _ t => t.NamesOutput :=
  each_of_start h (fun _ _ _ _ _ ht hnext => hnext.namesOutput ht) (fun _ _ _ ht _ => ht.drop)
    fun _ _ ht => ht.namesOutput

theorem Becomes.state_of_pending (h : (Pool.start config here world).Becomes p) :
    p.Each fun _ t => Relation.ReflTransGen TaskState.Moves .pending t.state :=
  each_of_start h
    (fun _ _ _ _ hacc ht hnext => ht.trans (hnext.state (hnext.sound_of_accounted hacc)))
    (fun _ _ hacc ht hs => ht.trans (Task.state_drop hacc hs)) fun _ _ ht => ht.state ▸ .refl

/-- The state of a task moves on as its pool changes.  A task that is yet to be submitted counts as
pending. -/
theorem Becomes.state (hp : (Pool.start config here world).Becomes p) (h : p.Becomes q)
    (i : TaskId) : Relation.ReflTransGen TaskState.Moves (p.state i) (q.state i) := by
  cases ht : p.tasks[i]? with
  | some t =>
    obtain ⟨u, hu, _⟩ := h.grows i t ht
    simp only [Pool.state, ht, hu]
    exact (h.lives hp.of_start ht hu).state
  | none =>
    cases hu : q.tasks[i]? with
    | some u =>
      simp only [Pool.state, ht, hu]
      exact state_of_pending (hp.trans h) i u hu
    | none =>
      simp only [Pool.state, ht, hu]
      exact .refl

/-- The calls that wait, as they are run, are calls in this sense. -/
theorem resolve_answers {caller : Caller} {i : TaskId} {r : Except Failure Outcome}
    (h : p.resolve caller i = (q, some r)) :
    p.Becomes q ∧ Query.Answers p q i (.resolve caller) (.resolved r) := by
  unfold resolve at h
  cases ho : p.outcome? i with
  | some o =>
    rw [ho] at h
    cases h
    exact ⟨.refl, .inl (by simp [Query.reply?, ho])⟩
  | none =>
    cases hm : mayWait caller (p.label i) with
    | error e =>
      simp only [ho, hm] at h
      cases h
      exact ⟨.refl, .inl (by simp [Query.reply?, ho, hm])⟩
    | ok _ =>
      simp only [ho, hm, Prod.mk.injEq, Option.map_eq_some_iff] at h
      obtain ⟨rfl, o, hq, rfl⟩ := h
      exact ⟨becomes_settle p, .inr ⟨by simp [Query.reply?, ho, hm], by simp [Query.reply?, hq]⟩⟩

theorem resolvePath_answers {caller : Caller} {i : TaskId} {r : Except Failure Path}
    (h : p.resolvePath caller (.task i) = (q, some r)) :
    p.Becomes q ∧ Query.Answers p q i (.resolvePath caller) (.path r) := by
  unfold resolvePath resolve at h
  cases ho : p.outcome? i with
  | some o =>
    simp only [ho] at h
    cases h
    exact ⟨.refl, .inl (by simp [Query.reply?, ho, Except.bind])⟩
  | none =>
    cases hm : mayWait caller (p.label i) with
    | error e =>
      simp only [ho, hm] at h
      cases h
      exact ⟨.refl, .inl (by simp [Query.reply?, ho, hm, Except.bind])⟩
    | ok _ =>
      simp only [ho, hm, Prod.mk.injEq, Option.map_eq_some_iff] at h
      obtain ⟨rfl, _, ⟨o, hq, rfl⟩, rfl⟩ := h
      exact ⟨becomes_settle p,
        .inr ⟨by simp [Query.reply?, ho, hm], by simp [Query.reply?, hq, Except.bind]⟩⟩

/-- The life of a task, whatever the interleaving and whoever asks.  Its state only moves on, from
pending to running and to one outcome, or from pending to failed; its work is called once at most,
and not after it has finished; an outcome stays, and names the output that the task was submitted
with; and every call that looks at the task after it has finished, or that has waited for it, is told
that outcome.  The calls that run the pool while they wait are among these calls. -/
theorem Becomes.life_cycle (hp : (Pool.start config here world).Becomes p) (h : p.Becomes q)
    (i : TaskId) :
    Relation.ReflTransGen TaskState.Moves (p.state i) (q.state i) ∧
    (∀ t, p.tasks[i]? = some t → ∃ u, q.tasks[i]? = some u ∧ u.spec = t.spec ∧
      t.calls <+: u.calls ∧ u.calls.length ≤ 1 ∧
      (t.outcome?.isSome = true → u.calls = t.calls) ∧
      ∀ o, u.outcome? = some o → o.path? = t.spec.output) ∧
    (∀ o, p.outcome? i = some o → q.outcome? i = some o) ∧
    (∀ c r, Query.Answers p q i c r → (p.outcome? i).isSome = true ∨ c.reply? p i = none →
      ∃ o, q.outcome? i = some o ∧ r = c.reply here config.policy (q.label i) o) ∧
    (∀ caller p' r, p.resolve caller i = (p', some r) →
      p.Becomes p' ∧ Query.Answers p p' i (.resolve caller) (.resolved r)) ∧
    ∀ caller p' r, p.resolvePath caller (.task i) = (p', some r) →
      p.Becomes p' ∧ Query.Answers p p' i (.resolvePath caller) (.path r) := by
  have hq : (Pool.start config here world).Becomes q := hp.trans h
  refine ⟨hp.state h i, fun t ht => ?_, fun o ho => (h.grows.outcome? hp.of_start ho).1, fun c r hanswer hlate => ?_,
    fun _ _ _ hr => resolve_answers hr, fun _ _ _ hr => resolvePath_answers hr⟩
  · obtain ⟨u, hu, hl⟩ := h.grows i t ht
    refine ⟨u, hu, hl.spec, (h.lives hp.of_start ht hu).calls, (hq.of_start i u hu).length_calls_le,
      fun hsome => ?_, fun o ho => ?_⟩
    · obtain ⟨o, ho⟩ := Option.isSome_iff_exists.1 hsome
      rw [hl.ended ((hp.of_start i t ht).isEnded_of_outcome? ho)]
    · rw [← hl.spec]
      exact hq.namesOutput i u hu o ho
  · -- A call that looks only once has found the outcome there, and one that waits finds it later.
    rcases hanswer with hr | ⟨hwait, hr⟩
    · rcases hlate with hsome | hwait
      · obtain ⟨o, ho⟩ := Option.isSome_iff_exists.1 hsome
        obtain ⟨hqo, hlabel⟩ := h.grows.outcome? hp.of_start ho
        refine ⟨o, hqo, ?_⟩
        rw [Query.reply?_of_outcome? ho, hp.here_eq, hp.config_eq, ← hlabel] at hr
        exact (Option.some.inj hr).symm
      · rw [hwait] at hr
        exact nomatch hr
    · obtain ⟨o, ho⟩ := Option.isSome_iff_exists.1 (Query.outcome?_of_waited hwait hr)
      refine ⟨o, ho, ?_⟩
      rw [Query.reply?_of_outcome? ho, hq.here_eq, hq.config_eq] at hr
      exact (Option.some.inj hr).symm

/-- A task at work that is to produce the file `a`. -/
def compiling : Task Unit :=
  ⟨⟨"compile", some ⟨['a']⟩, []⟩, fun _ => .done (.ok ()), .running, .working (.done (.ok ())), [[]]⟩

/-- A pool whose only permit the task holds. -/
def engaged : Pool Unit :=
  ⟨⟨1, .pooled, .strict⟩, ⟨['/']⟩, 0, (), [compiling], []⟩

theorem becomes_engaged : (Pool.start ⟨1, .pooled, .strict⟩ ⟨['/']⟩ ()).Becomes engaged := by
  have listed : (Pool.start ⟨1, .pooled, .strict⟩ ⟨['/']⟩ ()).Becomes _ :=
    .single (.move (.touch (.enlist ⟨"compile", some ⟨['a']⟩, []⟩ fun _ => .done (.ok ()))))
  have spawned := listed.tail (.move (.touch (.spawn (i := 0) rfl rfl)))
  have started := spawned.tail (.move (.step (i := 0) rfl))
  exact started.tail (.move (.step (i := 0) rfl))

/-- The task is given up.  It has failed then, and who waited for its path is told so. -/
theorem life_cycle_engaged :
    (engaged.drop 0 compiling).outcome? 0 =
        some (.failed (some ⟨['a']⟩) "task abandoned before finishing") ∧
      Relation.ReflTransGen TaskState.Moves (engaged.state 0) ((engaged.drop 0 compiling).state 0) ∧
      ∃ o, (engaged.drop 0 compiling).outcome? 0 = some o ∧
        .path (.error (.taskFailed "compile" "task abandoned before finishing")) =
          Query.resolvePathAsync.reply ⟨['/']⟩ .strict "compile" o := by
  have dropped : engaged.Becomes (engaged.drop 0 compiling) := .single (.drop rfl rfl rfl)
  obtain ⟨hstate, _, _, hanswer, _⟩ := becomes_engaged.life_cycle dropped 0
  exact ⟨rfl, hstate, hanswer _ _ (.inr ⟨rfl, rfl⟩) (.inr rfl)⟩

end Pool

end NativeBuild
