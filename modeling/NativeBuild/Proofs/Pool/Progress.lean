import Mathlib.Logic.Relation
import NativeBuild.Proofs.Pool.Permits

/-!
Progress.  A task needs only tasks that were submitted before it, and while it waits for them it
holds no permit.  So the tasks of a pool in use never wait for each other without end, as long as
the work itself does not wait.
-/

namespace NativeBuild

namespace Work

variable {σ : Type}

/-- Whether work never waits: whatever it is told on its way, it can go on at once. -/
def NeverWaits : Work σ → Prop
  | .done _ | .unwind => True
  | .act _ next => ∀ r, (next r).NeverWaits
  | .await ready next => (∀ world, ready world = true) ∧ next.NeverWaits
  | .ask _ next => ∀ r, (next r).NeverWaits
  | .submit _ _ next => ∀ id, (next id).NeverWaits

end Work

namespace Task

variable {σ : Type}

/-- Whether the work of a task never waits, whatever its inputs are. -/
def NeverWaits (t : Task σ) : Prop :=
  ∀ inputs, (t.body inputs).NeverWaits

/-- The work that a task is at never waits, if its work never does. -/
def Willing (t : Task σ) : Prop :=
  t.NeverWaits → match t.stage with
    | .working w | .tracking _ w => w.NeverWaits
    | _ => True

/-- What a task still waits for is a part of what it needs. -/
def Needy (t : Task σ) : Prop :=
  match t.stage with
  | .gathering _ rest => rest ⊆ t.spec.inputs
  | _ => True

theorem Willing.work {t : Task σ} (h : t.Willing) (ht : t.NeverWaits) {w : Work σ}
    (hs : t.stage = .working w) : w.NeverWaits := by
  have hw := h ht
  rw [hs] at hw
  exact hw

theorem IsNew.willing {t : Task σ} (h : t.IsNew) : t.Willing := by
  intro _
  rcases h.stage with hs | hs <;> simp [hs]

theorem Next.willing {p : Pool σ} {t u : Task σ} (h : t.Next p u) (ht : t.Willing) :
    u.Willing := by
  intro hu
  cases h with
  | spawn _ | start _ | find _ _ | refuse _ _ | finish _ | unwind _ | abandon _ => trivial
  | call _ => exact hu _
  | act hs r => exact ht.work hu hs r
  | await hs => exact (ht.work hu hs).2
  | ask hs r => exact ht.work hu hs r
  | submit hs id => exact ht.work hu hs id
  | track hs =>
    have hw := ht hu
    rw [hs] at hw
    exact hw

theorem IsNew.needy {t : Task σ} (h : t.IsNew) : t.Needy := by
  rcases h.stage with hs | hs <;> simp [Needy, hs]

theorem Next.needy {p : Pool σ} {t u : Task σ} (h : t.Next p u) (ht : t.Needy) : u.Needy := by
  cases h with
  | start _ => exact List.Subset.refl _
  | find hs _ =>
    simp only [Needy, hs, List.cons_subset] at ht
    exact ht.2
  | spawn _ | refuse _ _ | call _ | finish _ | unwind _ | act _ _ | await _ | ask _ _ | submit _ _
  | abandon _ | track _ => trivial

end Task

namespace Pool

variable {σ : Type} {config : PoolConfig} {here : Path} {world : σ} {p q : Pool σ}

theorem Reached.willing (h : Reached config here world p) : p.Each fun _ t => t.Willing := by
  induction h with
  | start => exact .start config here world
  | move _ h _ ih => exact h.each ih (fun i t _ ht hn => hn.willing (ih i t ht)) fun _ ht => ht.willing

theorem Reached.needy (h : Reached config here world p) : p.Each fun _ t => t.Needy := by
  induction h with
  | start => exact .start config here world
  | move _ h _ ih => exact h.each ih (fun i t _ ht hn => hn.needy (ih i t ht)) fun _ ht => ht.needy

/-- A task needs only tasks that come before it and that the workers have. -/
theorem Reached.earlier (h : Reached config here world p) {i k : Nat} {t : Task σ}
    (ht : p.tasks[i]? = some t) (hk : .task k ∈ t.spec.inputs) :
    k < i ∧ ∃ u, p.tasks[k]? = some u ∧ u.isSpawned = true := by
  induction h generalizing i t with
  | start => simp [Pool.start] at ht
  | @move p q _ hm hknown ih =>
    obtain ⟨hlt, u, hu, hspawned⟩ : k < i ∧ ∃ u, p.tasks[k]? = some u ∧ u.isSpawned = true := by
      by_cases hi : i < p.tasks.length
      · obtain ⟨t', ht', hl⟩ := hm.grows.earlier ht hi
        exact ih ht' (hl.spec ▸ hk)
      · have hi := Nat.le_of_not_lt hi
        obtain ⟨u, hu, hspawned⟩ := hknown i t ht hi k hk
        exact ⟨Nat.lt_of_lt_of_le (List.getElem?_eq_some_iff.1 hu).1 hi, u, hu, hspawned⟩
    obtain ⟨u', hu', hl⟩ := hm.grows k u hu
    exact ⟨hlt, u', hu', hl.spawned hspawned⟩

/-- A task waits for another one: it is gathering its inputs, and the next one is the output of a
task without an outcome. -/
def WaitsFor (p : Pool σ) (i k : TaskId) : Prop :=
  ∃ t found rest, p.tasks[i]? = some t ∧ t.stage = .gathering found (.task k :: rest) ∧
    p.outcome? k = none

/-- A task that has all its inputs and waits for a permit. -/
def Queued (p : Pool σ) (k : TaskId) : Prop :=
  ∃ t found, p.tasks[k]? = some t ∧ t.stage = .gathering found []

/-- A task that can make a step. -/
def CanStep (p : Pool σ) (k : TaskId) : Prop :=
  ∃ q, p.step? k = some q

theorem TaskStep.canStep {k : TaskId} {t : Task σ} (ht : p.tasks[k]? = some t)
    (h : TaskStep p k t q) : p.CanStep k :=
  ⟨q, h.step? ht⟩

/-- A task that waits for an input can go on when the input is known. -/
theorem canStep_of_pathNow? {i : TaskId} {t : Task σ} {found : List Path} {ref : PathRef}
    {rest : List PathRef} {r : Except Failure Path} (ht : p.tasks[i]? = some t)
    (hs : t.stage = .gathering found (ref :: rest)) (h : p.pathNow? ref = some r) :
    p.CanStep i := by
  cases r with
  | ok path => exact TaskStep.canStep ht (.find hs h)
  | error e => exact TaskStep.canStep ht (.refuse hs h)

/-- A task at work that waits for something in the world that has not come about. -/
def Stalled (p : Pool σ) (k : TaskId) : Prop :=
  ∃ t ready next, p.tasks[k]? = some t ∧ t.stage = .working (.await ready next) ∧
    ready p.world = false

/-- A task at work can go on, or it waits for the world. -/
theorem canStep_or_stalled {i : TaskId} {t : Task σ} {w : Work σ} (ht : p.tasks[i]? = some t)
    (hs : t.stage = .working w) : p.CanStep i ∨ p.Stalled i := by
  cases w with
  | done result => exact .inl (TaskStep.canStep ht (.finish hs))
  | unwind => exact .inl (TaskStep.canStep ht (.unwind hs))
  | act effect next => exact .inl (TaskStep.canStep ht (.act hs))
  | await ready next =>
    cases hr : ready p.world with
    | true => exact .inl (TaskStep.canStep ht (.await hs hr))
    | false => exact .inr ⟨t, ready, next, ht, hs, hr⟩
  | ask other next => exact .inl (TaskStep.canStep ht (.ask hs))
  | submit spec body next =>
    cases hm : p.config.mode with
    | pooled => exact .inl (TaskStep.canStep ht (.submit hs hm))
    | inline => exact .inl (TaskStep.canStep ht (.abandon hs hm))

/-- A task at work that never waits can go on. -/
theorem canStep_of_neverWaits {i : TaskId} {t : Task σ} {w : Work σ} (ht : p.tasks[i]? = some t)
    (hs : t.stage = .working w) (hw : w.NeverWaits) : p.CanStep i := by
  rcases canStep_or_stalled ht hs with h | ⟨u, ready, next, hu, hus, hr⟩
  · exact h
  · obtain rfl := Option.some.inj (ht.symm.trans hu)
    obtain rfl := Stage.working.inj (hs.symm.trans hus)
    rw [hw.1] at hr
    exact nomatch hr

/-- Work that never waits does not wait for the world. -/
theorem Reached.not_stalled (h : Reached config here world p) (hw : p.Each fun _ t => t.NeverWaits)
    (k : TaskId) : ¬ p.Stalled k := by
  rintro ⟨t, ready, next, ht, hs, hr⟩
  have hwilling := (h.willing k t ht).work (hw k t ht) hs
  rw [hwilling.1] at hr
  exact nomatch hr

/-- From a task that has not finished, a chain of waiting tasks leads to one that can make a step,
that has all its inputs and finds no permit, or that waits for the world. -/
theorem Reached.exists_chain (h : Reached config here world p) (i : Nat) {t : Task σ}
    (ht : p.tasks[i]? = some t) (hspawned : t.isSpawned = true) (hnone : t.outcome? = none) :
    ∃ k, Relation.ReflTransGen p.WaitsFor i k ∧
      (p.CanStep k ∨ p.Queued k ∧ p.free = 0 ∨ p.Stalled k) := by
  induction i using Nat.strongRecOn generalizing t with
  | ind i ih =>
  cases hs : t.stage with
  | listed => simp [Task.isSpawned, hs] at hspawned
  | created => exact ⟨i, .refl, .inl (TaskStep.canStep ht (.start hs))⟩
  | gathering found rest =>
    cases rest with
    | nil =>
      by_cases hf : p.free = 0
      · exact ⟨i, .refl, .inr (.inl ⟨⟨t, found, ht, hs⟩, hf⟩)⟩
      · exact ⟨i, .refl, .inl (TaskStep.canStep ht (.call hs (Nat.pos_of_ne_zero hf)))⟩
    | cons ref rest =>
      cases ref with
      | literal path => exact ⟨i, .refl, .inl (canStep_of_pathNow? ht hs rfl)⟩
      | task k =>
        cases ho : p.outcome? k with
        | some o =>
          exact ⟨i, .refl, .inl (canStep_of_pathNow? ht hs (by rw [pathNow?, ho]; rfl))⟩
        | none =>
          -- The task that is waited for comes earlier, so the chain goes on from there.
          have hneedy := h.needy i t ht
          simp only [Task.Needy, hs, List.cons_subset] at hneedy
          obtain ⟨hlt, u, hu, huspawned⟩ := h.earlier ht hneedy.1
          obtain ⟨j, hj, hfree⟩ := ih k hlt hu huspawned ((outcome?_eq hu).symm.trans ho)
          exact ⟨j, .head ⟨t, found, rest, ht, hs, ho⟩ hj, hfree⟩
  | working w => exact ⟨i, .refl, (canStep_or_stalled ht hs).imp_right .inr⟩
  | tracking other w => exact ⟨i, .refl, .inl (TaskStep.canStep ht (.track hs))⟩
  | ended unwound =>
    have hsome := (h.sound i t ht).outcome?_isSome
    simp [hnone, Task.isEnded, hs] at hsome

/-- From a task that has not finished, a chain of waiting tasks leads to one that can make a step or
that has all its inputs and finds no permit. -/
theorem Reached.exists_waitsFor (h : Reached config here world p)
    (hw : p.Each fun _ t => t.NeverWaits) (i : Nat) {t : Task σ} (ht : p.tasks[i]? = some t)
    (hspawned : t.isSpawned = true) (hnone : t.outcome? = none) :
    ∃ k, Relation.ReflTransGen p.WaitsFor i k ∧ (p.CanStep k ∨ p.Queued k ∧ p.free = 0) := by
  obtain ⟨k, hchain, hk | hk | hk⟩ := h.exists_chain i ht hspawned hnone
  · exact ⟨k, hchain, .inl hk⟩
  · exact ⟨k, hchain, .inr hk⟩
  · exact absurd hk (h.not_stalled hw k)

/-- A run of steps of the one task `id`. -/
def RunsAlone (id : TaskId) : Pool σ → Pool σ → Prop :=
  Relation.ReflTransGen fun p q => p.step? id = some q

theorem TaskStep.runsAlone {r : Pool σ} {id : TaskId} {t : Task σ} (ht : p.tasks[id]? = some t)
    (h : TaskStep p id t q) (hr : RunsAlone id q r) : RunsAlone id p r :=
  .head (h.step? ht) hr

/-- A step of one task leaves the others as they are. -/
theorem getElem?_step? {i : TaskId} (h : p.step? i = some q) {k : Nat} (hne : i ≠ k)
    {t : Task σ} (ht : p.tasks[k]? = some t) : q.tasks[k]? = some t := by
  obtain ⟨_, _, h⟩ := taskStep_of_step? h
  obtain ⟨u, _, htasks⟩ := h.tasks_eq
  have hset := (List.getElem?_set_ne (a := u) hne).trans ht
  rcases htasks with htasks | ⟨new, _, _, _, htasks⟩
  · rw [htasks, hset]
  · rw [htasks, List.getElem?_append_left (List.getElem?_eq_some_iff.1 hset).1, hset]

/-- Other tasks stay as they are while one task runs. -/
theorem RunsAlone.getElem? {id : TaskId} (h : RunsAlone id p q) {k : Nat} (hne : id ≠ k)
    {t : Task σ} (ht : p.tasks[k]? = some t) : q.tasks[k]? = some t := by
  induction h with
  | refl => exact ht
  | tail _ hstep ih => exact getElem?_step? hstep hne ih

/-- A task at work that never waits comes to its end by steps of its own, and gives back its
permit. -/
theorem exists_runsAlone {id : TaskId} {t : Task σ} (ht : p.tasks[id]? = some t) {w : Work σ}
    (hs : t.stage = .working w) (hw : w.NeverWaits) :
    ∃ q, RunsAlone id p q ∧ (q.ending? id).isSome = true ∧ q.free = p.free + 1 := by
  induction w generalizing p t with
  | done result =>
    have hu := getElem?_setTask_self (p := p.release) ht (t.finish result)
    exact ⟨_, TaskStep.runsAlone ht (.finish hs) .refl, by rw [ending?_eq hu rfl]; rfl, rfl⟩
  | unwind =>
    have hu := getElem?_setTask_self (p := p.release) ht (t.close true)
    exact ⟨_, TaskStep.runsAlone ht (.unwind hs) .refl, by rw [ending?_eq hu rfl]; rfl, rfl⟩
  | act effect next ih =>
    have hu := getElem?_setTask_self (p := { p with world := (effect p.world).1 }) ht
      { t with stage := .working (next (effect p.world).2) }
    obtain ⟨q, hq, hend⟩ := ih _ hu rfl (hw _)
    exact ⟨q, TaskStep.runsAlone ht (.act hs) hq, hend⟩
  | await ready next ih =>
    have hu := getElem?_setTask_self ht { t with stage := .working next }
    obtain ⟨q, hq, hend⟩ := ih hu rfl hw.2
    exact ⟨q, TaskStep.runsAlone ht (.await hs (hw.1 p.world)) hq, hend⟩
  | ask other next ih =>
    have hu := getElem?_setTask_self ht { t with stage := .working (next (p.answerInside other)) }
    obtain ⟨q, hq, hend⟩ := ih _ hu rfl (hw _)
    exact ⟨q, TaskStep.runsAlone ht (.ask hs) hq, hend⟩
  | submit spec body next _ ih =>
    cases hm : p.config.mode with
    | pooled =>
      have hu := getElem?_enlist
        (getElem?_setTask_self ht
          { t with stage := .tracking p.tasks.length (next p.tasks.length) })
        { Task.fresh spec body with stage := .created }
      have hv := getElem?_setTask_self hu { t with stage := .working (next p.tasks.length) }
      obtain ⟨q, hq, hend⟩ := ih p.tasks.length
        (p := (setTask _ id { t with stage := .working (next p.tasks.length) }).track p.tasks.length)
        hv rfl (hw _)
      exact ⟨q, TaskStep.runsAlone ht (.submit hs hm) (TaskStep.runsAlone hu (.track rfl) hq), hend⟩
    | inline =>
      have hu := getElem?_enlist (getElem?_setTask_self (p := p.release) ht (t.close true))
        (Task.fresh spec body)
      exact ⟨_, TaskStep.runsAlone ht (.abandon hs hm) .refl, by rw [ending?_eq hu rfl]; rfl, rfl⟩

/-- Some task is at work when no permit is free. -/
theorem Reached.exists_working (h : Reached config here world p) (hf : p.free = 0) :
    ∃ (j : Nat) (u : Task σ), p.tasks[j]? = some u ∧ u.isWorking = true := by
  have hheld : 0 < p.held := by
    have := h.free_add_held
    have := permits_pos config
    omega
  obtain ⟨u, hmem, hworking⟩ := List.countP_pos_iff.1 hheld
  obtain ⟨j, hj, rfl⟩ := List.mem_iff_getElem.1 hmem
  exact ⟨j, _, List.getElem?_eq_getElem hj, hworking⟩

/-- While a submitted task has not finished, some task can make a step or waits for the world. -/
theorem Reached.exists_canStep_or_stalled (h : Reached config here world p) {i : Nat} {t : Task σ}
    (ht : p.tasks[i]? = some t) (hspawned : t.isSpawned = true) (hnone : t.outcome? = none) :
    ∃ k, p.CanStep k ∨ p.Stalled k := by
  obtain ⟨k, _, hk | ⟨_, hf⟩ | hk⟩ := h.exists_chain i ht hspawned hnone
  · exact ⟨k, .inl hk⟩
  · obtain ⟨j, u, hu, hworking⟩ := h.exists_working hf
    refine ⟨j, ?_⟩
    cases hs : u.stage with
    | working w => exact canStep_or_stalled hu hs
    | tracking other w => exact .inl (TaskStep.canStep hu (.track hs))
    | listed | created | gathering _ _ | ended _ => simp [Task.isWorking, hs] at hworking
  · exact ⟨k, .inr hk⟩

/-- Some task at work can go on and can end by itself when no permit is free. -/
theorem Reached.exists_holder (h : Reached config here world p)
    (hw : p.Each fun _ t => t.NeverWaits) (hf : p.free = 0) :
    ∃ (j : Nat) (u : Task σ), p.tasks[j]? = some u ∧ u.isWorking = true ∧ p.CanStep j ∧
      ∃ q, RunsAlone j p q ∧ (q.ending? j).isSome = true ∧ 0 < q.free := by
  obtain ⟨j, u, hu, hworking⟩ := h.exists_working hf
  have hwilling := h.willing j _ hu (hw j _ hu)
  refine ⟨j, _, hu, hworking, ?_⟩
  cases hs : u.stage with
  | working w =>
    rw [hs] at hwilling
    obtain ⟨q, hq, hend, hfree⟩ := exists_runsAlone hu hs hwilling
    exact ⟨canStep_of_neverWaits hu hs hwilling, q, hq, hend, by omega⟩
  | tracking other w =>
    rw [hs] at hwilling
    have hv := getElem?_setTask_self hu { u with stage := .working w }
    obtain ⟨q, hq, hend, hfree⟩ := exists_runsAlone
      (p := (p.setTask j { u with stage := .working w }).track other) hv rfl hwilling
    refine ⟨TaskStep.canStep hu (.track hs), q, TaskStep.runsAlone hu (.track hs) hq, hend, ?_⟩
    omega
  | listed | created | gathering _ _ | ended _ => simp [Task.isWorking, hs] at hworking

/-- While a submitted task has not finished, some task can make a step. -/
theorem Reached.exists_canStep (h : Reached config here world p)
    (hw : p.Each fun _ t => t.NeverWaits) {i : Nat} {t : Task σ} (ht : p.tasks[i]? = some t)
    (hspawned : t.isSpawned = true) (hnone : t.outcome? = none) : ∃ k, p.CanStep k := by
  obtain ⟨k, _, hk | ⟨_, hf⟩⟩ := h.exists_waitsFor hw i ht hspawned hnone
  · exact ⟨k, hk⟩
  · obtain ⟨j, _, _, _, hj, _⟩ := h.exists_holder hw hf
    exact ⟨j, hj⟩

/-- No task waits for ever.  While a submitted task has not finished, some task can make a step, and
a chain of waiting tasks leads from it to one that can make a step itself, or that needs only a
permit and gets one as soon as some task at work has ended, which that task can do alone.  A task
that is only listed belongs to a submission that has not returned. -/
theorem Reached.progress (h : Reached config here world p)
    (hw : p.Each fun _ t => t.NeverWaits) {i : Nat} {t : Task σ} (ht : p.tasks[i]? = some t)
    (hspawned : t.isSpawned = true) (hnone : t.outcome? = none) :
    (∃ k, p.CanStep k) ∧
      ∃ k, Relation.ReflTransGen p.WaitsFor i k ∧
        (p.CanStep k ∨
          p.Queued k ∧ ∃ j q, RunsAlone j p q ∧ (q.ending? j).isSome = true ∧ q.CanStep k) := by
  refine ⟨h.exists_canStep hw ht hspawned hnone, ?_⟩
  obtain ⟨k, hchain, hk | ⟨⟨v, found, hv, hs⟩, hf⟩⟩ := h.exists_waitsFor hw i ht hspawned hnone
  · exact ⟨k, hchain, .inl hk⟩
  · obtain ⟨j, u, hu, hworking, _, q, hq, hend, hfree⟩ := h.exists_holder hw hf
    have hne : j ≠ k := by
      rintro rfl
      obtain rfl : v = u := Option.some.inj (hv.symm.trans hu)
      simp [Task.isWorking, hs] at hworking
    have hgo : q.CanStep k := TaskStep.canStep (hq.getElem? hne hv) (.call hs hfree)
    exact ⟨k, hchain, .inr ⟨⟨v, found, hv, hs⟩, j, q, hq, hend, hgo⟩⟩

/-- A pool with one permit.  The first task is at work, and the second one waits for it. -/
def onePermit : Pool Unit where
  config := ⟨1, .pooled, .strict⟩
  here := ⟨['/']⟩
  free := 0
  world := ()
  tasks := [
    ⟨⟨"first", none, []⟩, fun _ => .done (.ok ()), .running, .working (.done (.ok ())), [[]]⟩,
    ⟨⟨"second", none, [.task 0]⟩, fun _ => .done (.ok ()), .pending, .gathering [] [.task 0], []⟩]
  running := []

theorem reached_onePermit : Reached ⟨1, .pooled, .strict⟩ ⟨['/']⟩ () onePermit := by
  have started : Reached ⟨1, .pooled, .strict⟩ ⟨['/']⟩ () (Pool.start _ _ _) := .start
  have first := started.enlist ⟨"first", none, []⟩ (fun _ => .done (.ok ())) (by simp [Knows])
  have first := first.still (.touch (.spawn (i := 0) rfl rfl)) (Nat.le_refl _)
  have first := first.still (.step (i := 0) rfl) (Nat.le_refl _)
  have first := first.still (.step (i := 0) rfl) (Nat.le_refl _)
  have second := first.enlist ⟨"second", none, [.task 0]⟩ (fun _ => .done (.ok ())) (by
    intro k hk
    obtain rfl : k = 0 := by simpa using hk
    exact ⟨_, rfl, rfl⟩)
  have second := second.still (.touch (.spawn (i := 1) rfl rfl)) (Nat.le_refl _)
  exact second.still (.step (i := 1) rfl) (Nat.le_refl _)

theorem progress_onePermit :
    onePermit.WaitsFor 1 0 ∧ (∃ k, onePermit.CanStep k) ∧
      ∃ k, Relation.ReflTransGen onePermit.WaitsFor 1 k ∧
        (onePermit.CanStep k ∨ onePermit.Queued k ∧
          ∃ j q, RunsAlone j onePermit q ∧ (q.ending? j).isSome = true ∧ q.CanStep k) := by
  refine ⟨⟨_, [], [], rfl, rfl, rfl⟩, reached_onePermit.progress ?_ (i := 1) rfl rfl rfl⟩
  intro i t ht inputs
  have hmem := List.mem_of_getElem? ht
  simp only [onePermit, List.mem_cons, List.not_mem_nil, or_false] at hmem
  rcases hmem with rfl | rfl <;> trivial

end Pool

end NativeBuild
