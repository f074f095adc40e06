import NativeBuild.Proofs.Pool.Drop

/-!
Why the tasks of a pool end as they do.  A run is kept with the pools that it has been, so that one can
say of a task what its work came to.  A task ends because its work returned or panicked, which it was
called for only with all inputs there, or because an input is not to be had.
-/

namespace NativeBuild

/-- What the work of a task comes to: a result, or a panic. -/
inductive Upshot where
  | result (r : Except Failure Unit)
  | panic

/-- What work comes to that has come to its end.  Inside an inline pool a submission is a panic. -/
def Work.upshot? {σ : Type} (mode : Mode) : Work σ → Option Upshot
  | .done r => some (.result r)
  | .unwind => some .panic
  | .submit _ _ _ =>
    match mode with
    | .pooled => none
    | .inline => some .panic
  | .act _ _ | .await _ _ | .ask _ _ => none

/-- The outcome of a task whose work has come to this. -/
def Task.outcomeOn {σ : Type} (t : Task σ) : Upshot → Outcome
  | .result r => t.outcomeOf r
  | .panic => t.abandonment

namespace Pool

variable {σ : Type} {config : PoolConfig} {here : Path} {world : σ} {past : List (Pool σ)}
  {p q : Pool σ} {i k : TaskId} {t u : Task σ} {mode : Mode}

/-- The runs of a pool: what it has been, in order, and what it is. -/
inductive Run (config : PoolConfig) (here : Path) (world : σ) : List (Pool σ) → Pool σ → Prop where
  | start : Run config here world [] (Pool.start config here world)
  | move {past : List (Pool σ)} {p q : Pool σ} (hp : Run config here world past p) (h : Move p q)
    (hk : ∀ (i : Nat) t, q.tasks[i]? = some t → p.tasks.length ≤ i → p.Knows t.spec) :
    Run config here world (past ++ [p]) q

theorem Run.reached (h : Run config here world past p) : Reached config here world p := by
  induction h with
  | start => exact .start
  | move _ h hk ih => exact ih.move h hk

/-- Whether the work of a task has been seen to stand at `w`. -/
def Stood (past : List (Pool σ)) (i : TaskId) (w : Work σ) : Prop :=
  ∃ p ∈ past, ∃ t, p.tasks[i]? = some t ∧ t.stage = .working w

/-- Whether the work of a task has come to this. -/
def CameTo (past : List (Pool σ)) (mode : Mode) (i : TaskId) (x : Upshot) : Prop :=
  ∃ w, Stood past i w ∧ w.upshot? mode = some x

/-- Whether all paths that a task needs of others are to be had. -/
def Passed (p : Pool σ) (spec : TaskSpec) : Prop :=
  ∀ k, .task k ∈ spec.inputs → ∃ path, p.pathNow? (.task k) = some (.ok path)

/-- The message of a task whose input is not to be had. -/
def unavailable (e : Failure) : String :=
  "input unavailable: " ++ e.message

/-- Why the task `t`, which is task `i`, has ended as it has: for what its work came to, or for an
input that is not to be had. -/
inductive Cause (past : List (Pool σ)) (p : Pool σ) (i : TaskId) (t : Task σ) : Prop where
  | called {x : Upshot} (h : CameTo past p.config.mode i x) (hin : p.Passed t.spec)
    (hc : t.calls ≠ []) (ho : t.outcome? = some (t.outcomeOn x))
  | refused {k : TaskId} {e : Failure} (hk : .task k ∈ t.spec.inputs)
    (hin : p.pathNow? (.task k) = some (.error e)) (hc : t.calls = [])
    (ho : t.outcome? = some (.failed t.spec.output (unavailable e)))

/-- What the stage of a task says of its inputs and of its work. -/
def Grounds (past : List (Pool σ)) (p : Pool σ) (i : TaskId) (t : Task σ) : Prop :=
  match t.stage with
  | .listed | .created => True
  | .gathering _ rest => ∃ had, t.spec.inputs = had ++ rest ∧
    ∀ k, .task k ∈ had → ∃ path, p.pathNow? (.task k) = some (.ok path)
  | .working _ | .tracking _ _ => p.Passed t.spec
  | .ended _ => Cause past p i t

/-- What it means for a task what its work came to. -/
def Heeds (past : List (Pool σ)) (mode : Mode) (i : TaskId) (t : Task σ) : Prop :=
  ∀ x, CameTo past mode i x → (∃ w, t.stage = .working w ∧ w.upshot? mode = some x) ∨
    t.isEnded = true ∧ t.outcome? = some (t.outcomeOn x)

/-! ### What lasts -/

/-- What is known of a path stays known. -/
theorem Move.pathNow? (h : Move p q) (hs : p.Each fun _ t => t.Accounted) {ref : PathRef}
    {r : Except Failure Path} (hr : p.pathNow? ref = some r) : q.pathNow? ref = some r := by
  cases ref with
  | literal path => rw [Pool.pathNow?, h.here_eq, ← hr, Pool.pathNow?]
  | task k =>
    obtain ⟨o, ho, rfl⟩ := Option.map_eq_some_iff.1 hr
    obtain ⟨ho', hlabel⟩ := h.grows.outcome? hs ho
    simp only [Pool.pathNow?, ho', Option.map_some, outcomePath, h.here_eq, h.config_eq, hlabel]

theorem Stood.later {w : Work σ} (h : Stood past i w) (p : Pool σ) : Stood (past ++ [p]) i w := by
  obtain ⟨q, hq, t, ht, hs⟩ := h
  exact ⟨q, List.mem_append_left _ hq, t, ht, hs⟩

theorem stood_of_stage {w : Work σ} (past : List (Pool σ)) (ht : p.tasks[i]? = some t)
    (hs : t.stage = .working w) : Stood (past ++ [p]) i w :=
  ⟨p, List.mem_append_right _ (List.mem_singleton.2 rfl), t, ht, hs⟩

theorem Cause.later (h : Cause past p i t) (q : Pool σ) : Cause (past ++ [q]) p i t := by
  cases h with
  | called h hin hc ho =>
    obtain ⟨w, hw, hx⟩ := h
    exact .called ⟨w, hw.later q, hx⟩ hin hc ho
  | refused hk hin hc ho => exact .refused hk hin hc ho

theorem Cause.move (h : Cause past p i t) (hm : Move p q) (hs : p.Each fun _ t => t.Accounted) :
    Cause past q i t := by
  cases h with
  | called h hin hc ho =>
    refine .called (hm.config_eq ▸ h) (fun k hk => ?_) hc ho
    obtain ⟨path, hpath⟩ := hin k hk
    exact ⟨path, hm.pathNow? hs hpath⟩
  | refused hk hin hc ho => exact .refused hk (hm.pathNow? hs hin) hc ho

theorem Grounds.later (h : Grounds past p i t) (q : Pool σ) : Grounds (past ++ [q]) p i t := by
  unfold Grounds at h ⊢
  cases hstage : t.stage with
  | listed | created => trivial
  | gathering _ _ | working _ | tracking _ _ => simpa only [hstage] using h
  | ended _ =>
    simp only [hstage] at h
    exact h.later q

theorem Grounds.move (h : Grounds past p i t) (hm : Move p q) (hs : p.Each fun _ t => t.Accounted) :
    Grounds past q i t := by
  have known {k : TaskId} (hk : ∃ path, p.pathNow? (.task k) = some (.ok path)) :
      ∃ path, q.pathNow? (.task k) = some (.ok path) := by
    obtain ⟨path, hpath⟩ := hk
    exact ⟨path, hm.pathNow? hs hpath⟩
  unfold Grounds at h ⊢
  split
  · trivial
  · trivial
  · next hstage =>
    simp only [hstage] at h
    obtain ⟨had, heq, hall⟩ := h
    exact ⟨had, heq, fun k hk => known (hall k hk)⟩
  · next hstage => simp only [hstage] at h; exact fun k hk => known (h k hk)
  · next hstage => simp only [hstage] at h; exact fun k hk => known (h k hk)
  · next hstage => simp only [hstage] at h; exact h.move hm hs

theorem Heeds.still (h : Heeds past mode i t) (ht : p.tasks[i]? = some t) :
    Heeds (past ++ [p]) mode i t := by
  rintro x ⟨w, ⟨p', hp', t', ht', hs'⟩, hx⟩
  rcases List.mem_append.1 hp' with hp' | hp'
  · exact h x ⟨w, ⟨p', hp', t', ht', hs'⟩, hx⟩
  · obtain rfl := List.mem_singleton.1 hp'
    obtain rfl := Option.some.inj (ht.symm.trans ht')
    exact .inl ⟨w, hs', hx⟩

/-! ### What a move keeps -/

/-- What a step makes of its task.  A task that submits another one ends just in inline mode. -/
theorem TaskStep.next_at (h : TaskStep p i t q) (ht : p.tasks[i]? = some t) :
    ∃ u, q.tasks[i]? = some u ∧ t.Next p u ∧
      ∀ spec body next, t.stage = .working (.submit spec body next) →
        (u.isEnded = true ↔ p.config.mode = .inline) := by
  have hset (p : Pool σ) (u : Task σ) (hp : i < p.tasks.length) :
      (p.setTask i u).tasks[i]? = some u := List.getElem?_set_self hp
  have hi := (List.getElem?_eq_some_iff.1 ht).1
  cases h with
  | start hs => exact ⟨_, hset _ _ hi, .start hs, fun _ _ _ h => by simp [hs] at h⟩
  | find hs hp => exact ⟨_, hset _ _ hi, .find hs hp, fun _ _ _ h => by simp [hs] at h⟩
  | refuse hs hp => exact ⟨_, hset _ _ hi, .refuse hs hp, fun _ _ _ h => by simp [hs] at h⟩
  | call hs _ => exact ⟨_, hset _ _ hi, .call hs, fun _ _ _ h => by simp [hs] at h⟩
  | finish hs => exact ⟨_, hset _ _ hi, .finish hs, fun _ _ _ h => by simp [hs] at h⟩
  | unwind hs => exact ⟨_, hset _ _ hi, .unwind hs, fun _ _ _ h => by simp [hs] at h⟩
  | act hs => exact ⟨_, hset _ _ hi, .act hs _, fun _ _ _ h => by simp [hs] at h⟩
  | await hs _ => exact ⟨_, hset _ _ hi, .await hs, fun _ _ _ h => by simp [hs] at h⟩
  | ask hs => exact ⟨_, hset _ _ hi, .ask hs _, fun _ _ _ h => by simp [hs] at h⟩
  | submit hs hm =>
    exact ⟨_, getElem?_enlist (hset _ _ hi) _, .submit hs _, fun _ _ _ _ => by
      simp [hm, Task.isEnded]⟩
  | abandon hs hm =>
    exact ⟨_, getElem?_enlist (hset _ _ hi) _, .abandon hs, fun _ _ _ _ => by
      simp [hm, Task.isEnded, Task.close]⟩
  | track hs => exact ⟨_, hset _ _ hi, .track hs, fun _ _ _ h => by simp [hs] at h⟩

/-- Where a task of a pool comes from that a move has led to. -/
theorem Move.origin (h : Move p q) (hu : q.tasks[i]? = some u) :
    p.tasks[i]? = some u ∨
    (∃ t, p.tasks[i]? = some t ∧ t.Next p u ∧
      ∀ spec body next, t.stage = .working (.submit spec body next) →
        (u.isEnded = true ↔ p.config.mode = .inline)) ∨
    u.IsNew ∧ p.tasks.length ≤ i := by
  cases h with
  | @step j h =>
    obtain ⟨t, ht, hkind⟩ := taskStep_of_step? h
    by_cases hij : j = i
    · subst hij
      obtain ⟨v, hv, hnext, hsubmit⟩ := hkind.next_at ht
      obtain rfl := Option.some.inj (hu.symm.trans hv)
      exact .inr (.inl ⟨t, ht, hnext, hsubmit⟩)
    · obtain ⟨v, _, htasks | ⟨new, _, _, hnew, htasks⟩⟩ := hkind.tasks_eq
      · rw [htasks, List.getElem?_set_ne hij] at hu
        exact .inl hu
      · rw [htasks] at hu
        rcases getElem?_concat_cases hu with hu | ⟨hi, rfl⟩
        · exact .inl (by rwa [List.getElem?_set_ne hij] at hu)
        · exact .inr (.inr ⟨hnew, Nat.le_of_eq (by rw [hi, List.length_set])⟩)
  | touch h =>
    cases h with
    | pass | world _ | track _ | take => exact .inl hu
    | enlist spec body =>
      rcases getElem?_concat_cases hu with hu | ⟨hi, rfl⟩
      · exact .inl hu
      · exact .inr (.inr ⟨Task.isNew_fresh spec body, Nat.le_of_eq hi.symm⟩)
    | @spawn j t ht hs =>
      rcases getElem?_set_cases hu with ⟨rfl, rfl⟩ | ⟨_, hu⟩
      · exact .inr (.inl ⟨t, ht, .spawn hs, fun _ _ _ h => by simp [hs] at h⟩)
      · exact .inl hu

theorem outcome?_refuse (hs : t.state = .pending) (e : Failure) :
    (t.refuse e).outcome? = some (.failed t.spec.output (unavailable e)) := by
  show ((t.state.finish (.failed t.spec.output (unavailable e))).finish _).outcome? = _
  rw [hs]
  rfl

theorem outcome?_finish (hs : t.state = .running) (r : Except Failure Unit) :
    (t.finish r).outcome? = some (t.outcomeOf r) := by
  simp [Task.outcome?, Task.finish, Task.close, hs, TaskState.finish, TaskState.outcome?]

theorem outcome?_close (hs : t.state = .running) (unwound : Bool) :
    (t.close unwound).outcome? = some t.abandonment := by
  simp [Task.outcome?, Task.close, hs, TaskState.finish, TaskState.outcome?]

theorem outcomeOn_eq (h : u.spec = t.spec) (x : Upshot) : u.outcomeOn x = t.outcomeOn x := by
  cases x with
  | result r => cases r <;> simp only [Task.outcomeOn, Task.outcomeOf, h]
  | panic => simp only [Task.outcomeOn, Task.abandonment, h]

/-- A task whose work has come to its end ends with its next step. -/
theorem outcome?_of_upshot? {w : Work σ} {x : Upshot} (hnext : t.Next p u)
    (hsubmit : ∀ spec body next, t.stage = .working (.submit spec body next) →
      (u.isEnded = true ↔ p.config.mode = .inline))
    (hs : t.Sound) (hstage : t.stage = .working w) (hx : w.upshot? p.config.mode = some x) :
    u.isEnded = true ∧ u.spec = t.spec ∧ u.calls = t.calls ∧ u.outcome? = some (t.outcomeOn x) := by
  simp only [Task.Sound, hstage] at hs
  cases hnext with
  | @finish result hs' =>
    obtain rfl := Stage.working.inj (hstage.symm.trans hs')
    cases hx
    exact ⟨rfl, rfl, rfl, outcome?_finish hs.1 result⟩
  | unwind hs' =>
    obtain rfl := Stage.working.inj (hstage.symm.trans hs')
    cases hx
    exact ⟨rfl, rfl, rfl, outcome?_close hs.1 true⟩
  | submit hs' _ | abandon hs' =>
    obtain rfl := Stage.working.inj (hstage.symm.trans hs')
    have hended := hsubmit _ _ _ hs'
    cases hm : p.config.mode with
    | pooled =>
      rw [hm] at hx
      cases hx
    | inline =>
      rw [hm] at hx
      cases hx
      first
      | exact ⟨rfl, rfl, rfl, outcome?_close hs.1 true⟩
      | cases hended.2 hm
  | act hs' _ | await hs' | ask hs' _ =>
    obtain rfl := Stage.working.inj (hstage.symm.trans hs')
    cases hx
  | spawn hs' | start hs' | find hs' _ | refuse hs' _ | call hs' | track hs' =>
    cases hstage.symm.trans hs'

theorem Grounds.next (h : Grounds past p i t) (hnext : t.Next p u) (ht : p.tasks[i]? = some t)
    (hsubmit : ∀ spec body next, t.stage = .working (.submit spec body next) →
      (u.isEnded = true ↔ p.config.mode = .inline))
    (hs : t.Sound) : Grounds (past ++ [p]) p i u := by
  -- Work that has come to its end was called with all inputs there.
  have ends {w : Work σ} {x : Upshot} (hstage : t.stage = .working w)
      (hx : w.upshot? p.config.mode = some x) : Cause (past ++ [p]) p i u := by
    obtain ⟨-, hspec, hcalls, ho⟩ := outcome?_of_upshot? hnext hsubmit hs hstage hx
    simp only [Grounds, hstage] at h
    simp only [Task.Sound, hstage] at hs
    obtain ⟨-, inputs, hcall⟩ := hs
    exact .called ⟨w, stood_of_stage past ht hstage, hx⟩ (hspec ▸ h) (by simp [hcalls, hcall])
      (by rw [ho, outcomeOn_eq hspec])
  cases hnext with
  | spawn _ => trivial
  | start _ => exact ⟨[], rfl, fun _ hk => by cases hk⟩
  | @find found ref rest path hstage hpath =>
    simp only [Grounds, hstage] at h
    obtain ⟨had, heq, hall⟩ := h
    refine ⟨had ++ [ref], by rw [heq]; simp, fun k hk => ?_⟩
    rcases List.mem_append.1 hk with hk | hk
    · exact hall k hk
    · obtain rfl := List.mem_singleton.1 hk
      exact ⟨path, hpath⟩
  | @refuse found ref rest e hstage hpath =>
    simp only [Grounds, hstage] at h
    simp only [Task.Sound, hstage] at hs
    obtain ⟨had, heq, -⟩ := h
    cases ref with
    | literal path => cases hpath
    | task k =>
      have hmem : .task k ∈ t.spec.inputs := by simp [heq]
      exact Cause.refused (t := t.refuse e) hmem hpath hs.2 (outcome?_refuse hs.1 e)
  | call hstage =>
    simp only [Grounds, hstage] at h
    obtain ⟨had, heq, hall⟩ := h
    exact fun k hk => hall k (by rw [← List.append_nil had, ← heq]; exact hk)
  | finish hstage => exact ends hstage rfl
  | unwind hstage => exact ends hstage rfl
  | abandon hstage => exact ends hstage (by rw [(hsubmit _ _ _ hstage).1 rfl]; rfl)
  | act hstage _ | await hstage | ask hstage _ | submit hstage _ | track hstage =>
    simp only [Grounds, hstage] at h
    exact h

theorem Heeds.next (h : Heeds past p.config.mode i t) (hnext : t.Next p u)
    (ht : p.tasks[i]? = some t)
    (hsubmit : ∀ spec body next, t.stage = .working (.submit spec body next) →
      (u.isEnded = true ↔ p.config.mode = .inline))
    (hs : t.Sound) : Heeds (past ++ [p]) p.config.mode i u := by
  intro x hx
  rcases h.still ht x hx with ⟨w, hstage, hw⟩ | ⟨hended, _⟩
  · obtain ⟨hended, hspec, -, ho⟩ := outcome?_of_upshot? hnext hsubmit hs hstage hw
    exact .inr ⟨hended, by rw [ho, outcomeOn_eq hspec]⟩
  · rw [hnext.not_ended] at hended
    cases hended

theorem Run.length_le (h : Run config here world past p) (hq : q ∈ past) :
    q.tasks.length ≤ p.tasks.length := by
  induction h with
  | start => exact nomatch hq
  | @move past p r hp hm hk ih =>
    have hle := hm.grows.length_le
    rcases List.mem_append.1 hq with hq | hq
    · exact Nat.le_trans (ih hq) hle
    · rw [List.mem_singleton.1 hq]
      exact hle

/-- In a run every task is grounded and heeds what its work came to. -/
theorem Run.grounds (h : Run config here world past p) :
    p.Each fun i t => Grounds past p i t ∧ Heeds past config.mode i t := by
  induction h with
  | start => exact .start config here world
  | @move past p q hrun hmove hk ih =>
    intro i u hu
    have hs := hrun.reached.sound
    have hacc : p.Each fun _ t => t.Accounted := fun i t ht => .inl (hs i t ht)
    have hconfig := hrun.reached.config_eq
    rcases hmove.origin hu with hold | ⟨t, ht, hnext, hsubmit⟩ | ⟨hnew, hi⟩
    · obtain ⟨hgr, hheeds⟩ := ih i u hold
      exact ⟨(hgr.later p).move hmove hacc, hheeds.still hold⟩
    · obtain ⟨hgr, hheeds⟩ := ih i t ht
      rw [← hconfig] at hheeds ⊢
      have hgr' : Grounds (past ++ [p]) p i u := hgr.next hnext ht hsubmit (hs i t ht)
      exact ⟨hgr'.move hmove hacc,
        hheeds.next hnext ht hsubmit (hs i t ht)⟩
    · refine ⟨?_, ?_⟩
      · unfold Grounds
        rcases hnew.stage with hstage | hstage <;> rw [hstage] <;> trivial
      · rintro x ⟨w, ⟨p', hp', t, ht, _⟩, _⟩
        have hlt := (List.getElem?_eq_some_iff.1 ht).1
        have hle : p'.tasks.length ≤ p.tasks.length := by
          rcases List.mem_append.1 hp' with hp' | hp'
          · exact hrun.length_le hp'
          · obtain rfl := List.mem_singleton.1 hp'
            exact Nat.le_refl _
        omega

/-! ### What ended tasks have come to -/

theorem Run.cause (h : Run config here world past p) (ht : p.tasks[i]? = some t)
    (he : t.isEnded = true) : Cause past p i t ∧ Heeds past config.mode i t := by
  obtain ⟨hgrounds, hheeds⟩ := h.grounds i t ht
  refine ⟨?_, hheeds⟩
  unfold Grounds at hgrounds
  unfold Task.isEnded at he
  split at he
  · next hs => simpa only [hs] using hgrounds
  · exact nomatch he

/-- The work of a task has been called exactly if its inputs were to be had. -/
theorem Cause.calls_ne_nil_iff (h : Cause past p i t) : t.calls ≠ [] ↔ p.Passed t.spec := by
  cases h with
  | called _ hin hc _ => exact ⟨fun _ => hin, fun _ => hc⟩
  | refused hk hin hc _ =>
    refine ⟨fun h => absurd hc h, fun hpassed => ?_⟩
    obtain ⟨path, hpath⟩ := hpassed _ hk
    rw [hin] at hpath
    exact nomatch hpath

theorem Heeds.outcome? (h : Heeds past mode i t) (he : t.isEnded = true) {x : Upshot}
    (hx : CameTo past mode i x) : t.outcome? = some (t.outcomeOn x) := by
  rcases h x hx with ⟨w, hs, _⟩ | ⟨_, ho⟩
  · simp [Task.isEnded, hs] at he
  · exact ho

/-- A task has completed exactly if its work was called and has returned without an error. -/
theorem Cause.completed_iff (h : Cause past p i t) (hheeds : Heeds past p.config.mode i t)
    (he : t.isEnded = true) :
    (∃ output, t.outcome? = some (.completed output)) ↔
      CameTo past p.config.mode i (.result (.ok ())) ∧ p.Passed t.spec := by
  constructor
  · rintro ⟨output, ho⟩
    cases h with
    | @called x hx hin _ ho' =>
      rw [ho] at ho'
      match x with
      | .result (.ok ()) => exact ⟨hx, hin⟩
      | .result (.error _) | .panic => exact nomatch ho'
    | refused _ _ _ ho' =>
      rw [ho] at ho'
      exact nomatch ho'
  · rintro ⟨hx, _⟩
    exact ⟨t.spec.output, hheeds.outcome? he hx⟩

/-- A task has failed exactly if its own work has come to something else than an end without an error,
or one of its inputs was not to be had. -/
theorem Cause.failed_iff (h : Cause past p i t) (hheeds : Heeds past p.config.mode i t)
    (he : t.isEnded = true) :
    (∃ nominal message, t.outcome? = some (.failed nominal message)) ↔
      (∃ x, CameTo past p.config.mode i x ∧ x ≠ .result (.ok ())) ∨ ¬ p.Passed t.spec := by
  constructor
  · rintro ⟨nominal, message, ho⟩
    cases h with
    | @called x hx hin _ ho' =>
      refine .inl ⟨x, hx, ?_⟩
      rintro rfl
      rw [ho] at ho'
      exact nomatch ho'
    | refused hk hin _ _ =>
      refine .inr fun hpassed => ?_
      obtain ⟨path, hpath⟩ := hpassed _ hk
      rw [hin] at hpath
      exact nomatch hpath
  · rintro (⟨x, hx, hne⟩ | hnot)
    · have ho := hheeds.outcome? he hx
      match x with
      | .result (.ok ()) => exact absurd rfl hne
      | .result (.error _) | .panic => exact ⟨_, _, ho⟩
    · cases h with
      | called _ hin _ _ => exact absurd hin hnot
      | refused _ _ _ ho => exact ⟨_, _, ho⟩

end Pool

end NativeBuild
