import NativeBuild.Proofs.Pool.Progress

/-!
Plain work, which does nothing but act on the world.  A pool of tasks with plain work, which the
workers all have, lists no further task by itself, and all its tasks come to their end.
-/

namespace NativeBuild

/-- Work that does nothing but act on the world until it is done. -/
inductive Work.Plain {σ : Type} : Work σ → Prop where
  | done (result : Except Failure Unit) : Plain (.done result)
  | act {effect : σ → σ × Except Failure String} {next : Except Failure String → Work σ}
    (h : ∀ r, Plain (next r)) : Plain (.act effect next)

theorem Work.Plain.neverWaits {σ : Type} {w : Work σ} (h : w.Plain) : w.NeverWaits := by
  induction h with
  | done _ => trivial
  | act _ ih => exact ih

namespace Task

variable {σ : Type}

/-- A task whose work is plain is never about to unwind, and has not unwound. -/
def Placid (t : Task σ) : Prop :=
  (∀ inputs, (t.body inputs).Plain) → match t.stage with
    | .working w => w.Plain
    | .tracking _ _ => False
    | .ended unwound => unwound = false
    | _ => True

theorem Placid.ended {t : Task σ} (h : t.Placid) (hbody : ∀ inputs, (t.body inputs).Plain)
    {unwound : Bool} (hs : t.stage = .ended unwound) : unwound = false := by
  have hstage := h hbody
  rw [hs] at hstage
  exact hstage

theorem Placid.working {t : Task σ} (h : t.Placid) (hbody : ∀ inputs, (t.body inputs).Plain)
    {w : Work σ} (hs : t.stage = .working w) : w.Plain := by
  have hstage := h hbody
  rw [hs] at hstage
  exact hstage

theorem IsNew.placid {t : Task σ} (h : t.IsNew) : t.Placid := by
  intro _
  rcases h.stage with hs | hs <;> simp [hs]

theorem Next.placid {p : Pool σ} {t u : Task σ} (h : t.Next p u) (ht : t.Placid) : u.Placid := by
  intro hu
  cases h with
  | spawn _ | start _ | find _ _ => trivial
  | refuse _ _ | finish _ => rfl
  | call _ => exact hu _
  | act hs r =>
    cases ht.working hu hs with
    | act hw => exact hw r
  | unwind hs | await hs | ask hs _ | submit hs _ | abandon hs => exact nomatch ht.working hu hs
  | track hs =>
    have hw := ht hu
    rw [hs] at hw
    exact absurd hw id

end Task

namespace Pool

variable {σ : Type} {config : PoolConfig} {here : Path} {world : σ} {p q : Pool σ}

theorem Reached.placid (h : Reached config here world p) : p.Each fun _ t => t.Placid := by
  induction h with
  | start => exact .start config here world
  | move _ h _ ih => exact h.each ih (fun i t _ ht hn => hn.placid (ih i t ht)) fun _ ht => ht.placid

/-- A step of a task with plain work lists no task and records none as running. -/
theorem TaskStep.plain {i : TaskId} {t : Task σ} (h : TaskStep p i t q) (ht : t.Placid)
    (hbody : ∀ inputs, (t.body inputs).Plain) :
    q.tasks.length = p.tasks.length ∧ q.running = p.running := by
  cases h with
  | start _ | find _ _ | refuse _ _ | call _ _ | finish _ | act _ =>
    exact ⟨List.length_set, rfl⟩
  | unwind hs | await hs _ | ask hs | submit hs _ | abandon hs _ => exact nomatch ht.working hbody hs
  | track hs =>
    have hw := ht hbody
    rw [hs] at hw
    exact absurd hw id

/-- A pool of tasks with plain work, which the workers all have. -/
structure Steady (config : PoolConfig) (here : Path) (world : σ) (p : Pool σ) : Prop where
  reached : Reached config here world p
  spawned : p.Each fun _ t => t.isSpawned = true
  plain : p.Each fun _ t => ∀ inputs, (t.body inputs).Plain

theorem Steady.start : Steady config here world (Pool.start config here world) :=
  ⟨.start, .start config here world, .start config here world⟩

theorem Each.later {P : Task σ → Prop} (hp : p.Each fun _ t => P t) (hg : p.Grows q)
    (hlen : q.tasks.length ≤ p.tasks.length) (hP : ∀ t u, P t → t.Later u → P u) :
    q.Each fun _ t => P t := by
  intro i u hu
  obtain ⟨t, ht, hl⟩ := hg.earlier hu
    (Nat.lt_of_lt_of_le (List.getElem?_eq_some_iff.1 hu).1 hlen)
  exact hP t u (hp i t ht) hl

/-- A move that lists no task keeps a pool steady. -/
theorem Steady.move (h : Steady config here world p) (hm : p.Move q)
    (hlen : q.tasks.length ≤ p.tasks.length) : Steady config here world q where
  reached := h.reached.still hm hlen
  spawned := h.spawned.later hm.grows hlen fun _ _ ht hl => hl.spawned ht
  plain := h.plain.later hm.grows hlen fun _ _ ht hl => by rwa [hl.body]

theorem Steady.step (h : Steady config here world p) {i : TaskId} (hstep : p.step? i = some q) :
    Steady config here world q ∧ q.tasks.length = p.tasks.length ∧ q.running = p.running := by
  obtain ⟨t, ht, hkind⟩ := taskStep_of_step? hstep
  obtain ⟨hlen, hrunning⟩ := hkind.plain (h.reached.placid i t ht) (h.plain i t ht)
  exact ⟨h.move (.step hstep) (Nat.le_of_eq hlen), hlen, hrunning⟩

theorem Steady.settle (h : Steady config here world p) :
    Steady config here world p.settle ∧ p.settle.tasks.length = p.tasks.length ∧
      p.settle.running = p.running := by
  fun_induction Pool.settle p with
  | case1 p hrest => exact ⟨h, rfl, rfl⟩
  | case2 p q hq ih =>
    obtain ⟨i, hstep⟩ := step_of_advance? hq
    obtain ⟨hs, hlen, hrunning⟩ := h.step hstep
    obtain ⟨hs, hlen', hrunning'⟩ := ih hs
    exact ⟨hs, hlen'.trans hlen, hrunning'.trans hrunning⟩

/-- No task of a pool at rest can make a step. -/
theorem not_canStep (h : p.advance? = none) (i : TaskId) : ¬ p.CanStep i := by
  rintro ⟨q, hq⟩
  obtain ⟨t, ht, _⟩ := taskStep_of_step? hq
  have hlt := (List.getElem?_eq_some_iff.1 ht).1
  have hnone := List.findSome?_eq_none_iff.1 h i (List.mem_range.2 hlt)
  rw [hq] at hnone
  exact nomatch hnone

/-- All tasks have ended when the pool has come to rest. -/
theorem Steady.ended_of_rest (h : Steady config here world p) (hrest : p.advance? = none) :
    p.Each fun _ t => t.isEnded = true := by
  intro i t ht
  cases ho : t.outcome? with
  | some o => rw [← (h.reached.sound i t ht).outcome?_isSome, ho, Option.isSome_some]
  | none =>
    have hwaits : p.Each fun _ t => t.NeverWaits := fun j u hu inputs =>
      (h.plain j u hu inputs).neverWaits
    obtain ⟨k, hk⟩ := h.reached.exists_canStep hwaits ht (h.spawned i t ht) ho
    exact absurd hk (not_canStep hrest k)

/-- A task that has ended has not unwound. -/
theorem Steady.ending?_eq (h : Steady config here world p) {i : Nat} {t : Task σ}
    (ht : p.tasks[i]? = some t) (hended : t.isEnded = true) : p.ending? i = some false := by
  cases hs : t.stage with
  | ended unwound =>
    obtain rfl := (h.reached.placid i t ht).ended (h.plain i t ht) hs
    exact Pool.ending?_eq ht hs
  | listed | created | gathering _ _ | working _ | tracking _ _ => simp [Task.isEnded, hs] at hended

/-- Whether the list of running tasks names every task that has not ended, and only tasks. -/
structure Tracked (p : Pool σ) : Prop where
  pending : ∀ (i : Nat) t, p.tasks[i]? = some t → t.isEnded = true ∨ i ∈ p.running
  valid : ∀ k ∈ p.running, k < p.tasks.length

theorem Tracked.start : Tracked (Pool.start config here world) where
  pending _ _ ht := nomatch ht
  valid _ hk := nomatch hk

theorem Steady.tracked_settle (h : Steady config here world p)
    (hvalid : ∀ k ∈ p.running, k < p.tasks.length) : p.settle.Tracked where
  pending i t ht := .inl (h.settle.1.ended_of_rest (advance?_settle p) i t ht)
  valid k hk := by
    obtain ⟨-, hlen, hrunning⟩ := h.settle
    rw [hrunning] at hk
    exact hlen ▸ hvalid k hk

/-- A pool with one more task, which the workers have. -/
def handOver (p : Pool σ) (spec : TaskSpec) (body : List Path → Work σ) : Pool σ :=
  (p.enlist (Task.fresh spec body)).1.spawn p.tasks.length

section

variable {spec : TaskSpec} {body : List Path → Work σ}

theorem handOver_tasks :
    (p.handOver spec body).tasks =
      p.tasks ++ [{ Task.fresh spec body with stage := .created }] := by
  rw [handOver, spawn_eq_setTask (getElem?_enlist_new p _), setTask_tasks, enlist_tasks,
    List.set_append_right _ _ (Nat.le_refl _), Nat.sub_self, List.set_cons_zero]

@[simp] theorem handOver_running : (p.handOver spec body).running = p.running := by
  rw [handOver, spawn_running, enlist_running]

@[simp] theorem handOver_config : (p.handOver spec body).config = p.config := by
  rw [handOver, spawn_config, enlist_config]

/-- A task that needs none but tasks which there are knows them, once the workers have them all. -/
theorem Each.knows {p : Pool σ} {spec : TaskSpec} (hspawned : p.Each fun _ t => t.isSpawned = true)
    (h : ∀ k, .task k ∈ spec.inputs → k < p.tasks.length) : p.Knows spec := by
  intro k hk
  have hlt := h k hk
  exact ⟨_, List.getElem?_eq_getElem hlt, hspawned k _ (List.getElem?_eq_getElem hlt)⟩

theorem Steady.handOver (h : Steady config here world p) (hknows : p.Knows spec)
    (hbody : ∀ inputs, (body inputs).Plain) : Steady config here world (p.handOver spec body) := by
  have hnew := getElem?_enlist_new p (Task.fresh spec body)
  have hspawn : Touch (p.enlist (Task.fresh spec body)).1 (p.handOver spec body) := by
    rw [Pool.handOver, spawn_eq_setTask hnew]
    exact .spawn hnew rfl
  refine ⟨(h.reached.enlist spec body hknows).still (.touch hspawn) (by rw [handOver_tasks]; simp),
    fun i t ht => ?_, fun i t ht => ?_⟩
  · rw [handOver_tasks] at ht
    exact Each.enlist h.spawned rfl i t ht
  · rw [handOver_tasks] at ht
    exact Each.enlist h.plain hbody i t ht

theorem submit_pooled (hm : p.config.mode = .pooled) :
    p.submit .outside spec body =
      ((p.handOver spec body).track p.tasks.length, p.tasks.length, .returned) := by
  simp only [Pool.submit, enlist_config, hm]
  rfl

theorem submit_inline (hm : p.config.mode = .inline) :
    p.submit .outside spec body = ((p.handOver spec body).settle, p.tasks.length,
      submissionOf ((p.handOver spec body).settle.ending? p.tasks.length)) :=
  submit_eq_of_settle hm rfl

/-- What a submission makes of a pool. -/
def accept (p : Pool σ) (spec : TaskSpec) (body : List Path → Work σ) : Pool σ :=
  match p.config.mode with
  | .pooled => (p.handOver spec body).track p.tasks.length
  | .inline => (p.handOver spec body).settle

/-- A task is submitted: the call returns, and in inline mode the task has ended then. -/
theorem Steady.submit (h : Steady config here world p) (htracked : p.Tracked)
    (hknows : p.Knows spec) (hbody : ∀ inputs, (body inputs).Plain) :
    p.submit .outside spec body = (p.accept spec body, p.tasks.length, .returned) ∧
      Steady config here world (p.accept spec body) ∧ (p.accept spec body).Tracked ∧
      (p.accept spec body).tasks.length = p.tasks.length + 1 := by
  have hs := h.handOver hknows hbody
  have hlen : (p.handOver spec body).tasks.length = p.tasks.length + 1 := by simp [handOver_tasks]
  cases hm : p.config.mode with
  | pooled =>
    have haccept : p.accept spec body = (p.handOver spec body).track p.tasks.length := by
      rw [accept, hm]
    rw [haccept]
    refine ⟨submit_pooled hm, hs.move (.touch (.track _)) (Nat.le_refl _), ⟨fun i t ht => ?_,
      fun k hk => ?_⟩, hlen⟩
    · rw [track_tasks, handOver_tasks] at ht
      rcases getElem?_concat_cases ht with ht | ⟨hi, _⟩
      · rcases htracked.pending i t ht with hended | hmem
        · exact .inl hended
        · exact .inr (List.mem_append_left _ (by rw [handOver_running]; exact hmem))
      · exact .inr (List.mem_append_right _ (List.mem_singleton.2 hi))
    · rw [track_tasks, hlen]
      rcases List.mem_append.1 hk with hk | hk
      · rw [handOver_running] at hk
        exact Nat.lt_succ_of_lt (htracked.valid k hk)
      · rw [List.mem_singleton.1 hk]
        exact Nat.lt_succ_self _
  | inline =>
    have haccept : p.accept spec body = (p.handOver spec body).settle := by rw [accept, hm]
    have hsettled : (p.handOver spec body).settle.Tracked := hs.tracked_settle fun k hk => by
      rw [handOver_running] at hk
      exact hlen ▸ Nat.lt_succ_of_lt (htracked.valid k hk)
    obtain ⟨hs, hslen, -⟩ := hs.settle
    have hended := hs.ended_of_rest (advance?_settle _)
    have hlast : (p.handOver spec body).settle.tasks[p.tasks.length]? = some _ :=
      List.getElem?_eq_getElem (by omega)
    have hend := hs.ending?_eq hlast (hended _ _ hlast)
    rw [haccept]
    exact ⟨by rw [submit_inline hm, hend]; rfl, hs, hsettled, by omega⟩

end

/-- Waiting for all tasks comes to an end, and then all of them have ended. -/
theorem Steady.waitRounds (h : Steady config here world p) (htracked : p.Tracked) :
    ∃ q, (q = p ∨ q = p.drain) ∧ p.waitRounds = (q, true) ∧ Steady config here world q ∧
      q.tasks.length = p.tasks.length ∧ q.Each fun _ t => t.isEnded = true := by
  cases hr : p.running with
  | nil =>
    have hended : p.Each fun _ t => t.isEnded = true := by
      intro i t ht
      rcases htracked.pending i t ht with hended | hmem
      · exact hended
      · rw [hr] at hmem
        exact nomatch hmem
    refine ⟨p, .inl rfl, ?_, h, rfl, hended⟩
    rw [Pool.waitRounds, hr]
    rfl
  | cons k rest =>
    have htaken : Steady config here world { p with running := [] } :=
      h.move (.touch .take) (Nat.le_refl _)
    obtain ⟨hs, hlen, hrunning⟩ := htaken.settle
    have hended := hs.ended_of_rest (advance?_settle _)
    have hall : (p.running.all fun k => (p.drain.ending? k).isSome) = true := by
      refine List.all_eq_true.2 fun k hk => ?_
      have hlt : k < p.drain.tasks.length := by
        rw [drain, hlen]
        exact htracked.valid k hk
      exact ending?_isSome (List.getElem?_eq_getElem hlt)
        (hended k _ (List.getElem?_eq_getElem hlt))
    refine ⟨p.drain, .inr rfl, ?_, hs, hlen, hended⟩
    rw [Pool.waitRounds, hall]
    simp only [hr, List.isEmpty_cons, Bool.false_eq_true, if_false, if_true]
    rw [Pool.waitRounds, drain, hrunning]
    rfl

/-- A report returns, and then all tasks have ended. -/
theorem Steady.joinAll (h : Steady config here world p) (htracked : p.Tracked) :
    ∃ q, (q = p ∨ q = p.drain) ∧ p.joinAll .outside = (q, some q.verdict) ∧
      Steady config here world q ∧ q.tasks.length = p.tasks.length ∧
      q.Each fun _ t => t.isEnded = true := by
  obtain ⟨q, hq, hwait, hs, hlen, hended⟩ := h.waitRounds htracked
  refine ⟨q, hq, ?_, hs, hlen, hended⟩
  simp [Pool.joinAll, waitIdle, mayWait, hwait]

end Pool

end NativeBuild
