import NativeBuild.Proofs.Build.Scope
import NativeBuild.Proofs.Build.Site
import NativeBuild.Proofs.Pool.Steady
import NativeBuild.Proofs.Shared.Run

/-!
A site never gets stuck.  Its errand names only tasks that there are, so wherever it has come to, the
tasks can all be run to their ends, the thread can finish the call that it is in and the rest of its
errand, and the report returns.
-/

namespace NativeBuild

theorem Chore.plain_job (run : Runner) (c : Chore) : (c.job run).Plain := by
  induction c with
  | done result => exact .done result
  | act a next ih => exact .act ih

/-! ### Runs without a report -/

/-- Whether a thread has asked for a report and is at it. -/
def Thread.Reports {σ : Type} : Thread σ → Prop
  | .free (.joinAll _ _) | .waiting _ _ (.report _) | .reading _ _ _ _ _ => True
  | _ => False

namespace Site

section

variable {α : Type} {run : Runner} {s s' s'' : Site α}

/-- Whether the thread asks for its report between two states. -/
def Asks (s s' : Site α) : Prop :=
  s.thread = .free .stop ∧ s'.thread = .free (.joinAll .outside fun _ => .stop)

theorem not_asks_of_eq (h : s'.thread = s.thread) : ¬ Asks s s' := by
  rintro ⟨ht, hu⟩
  rw [h, ht] at hu
  cases hu

theorem not_asks_of_threadStep {q : Pool Machine} {u : Thread Machine} {ids : List TaskId}
    {event : Event Machine} (h : SharedPool.ThreadStep s.shared s.thread q u ids event) :
    ¬ Asks s s' := by
  rintro ⟨ht, -⟩
  rw [ht] at h
  cases h

/-- A run in which the thread does not ask for its report. -/
def Goes (run : Runner) : Site α → Site α → Prop :=
  Relation.ReflTransGen fun s s' => Step run s s' ∧ ¬ Asks s s'

theorem Goes.runs (h : Goes run s s') : Runs run s s' :=
  Relation.ReflTransGen.mono (fun _ _ h => h.1) _ _ h

theorem Goes.trans (h : Goes run s s') (h' : Goes run s' s'') : Goes run s s'' :=
  Relation.ReflTransGen.trans h h'

end

/-! ### The calls of a build are runs of its site -/

variable {α : Type} {config : PoolConfig} {here : Path} {world : Machine} {p : Pool Machine}

theorem goes_of_shared (run : Runner) {s : Site α} {s' : SharedPool Machine}
    (h : SharedPool.Runs s.shared s') :
    ∃ q t returned log, s' = .alone q t returned ∧
      Goes run s ⟨q, t, returned, s.errand, log⟩ := by
  induction h with
  | refl => exact ⟨s.pool, s.thread, s.returned, s.log, rfl, .refl⟩
  | tail _ hstep ih =>
    obtain ⟨q, t, returned, log, rfl, hrun⟩ := ih
    cases hstep with
    | task h => exact ⟨_, _, _, _, rfl, hrun.tail ⟨.task h, not_asks_of_eq rfl⟩⟩
    | @thread c t' u q ids e ht h =>
      have hc : c < 1 := (List.getElem?_eq_some_iff.1 ht).1
      obtain rfl : c = 0 := by omega
      obtain rfl : t = t' := Option.some.inj ht
      exact ⟨_, _, _, _, rfl, hrun.tail ⟨.thread h, not_asks_of_threadStep h⟩⟩

/-- Running an errand on a pool is a run of the site, at the end of which every call has returned. -/
theorem goes_follow (run : Runner) {P : Nat → α → Prop} {e : Errand α} (hs : p.Steady config here world)
    (ht : p.Tracked) (hw : e.Within P p.tasks.length) (returned : List TaskId)
    (log : List (TaskId × Effect)) :
    (p.follow run e).1.Steady config here world ∧ (p.follow run e).1.Tracked ∧
      ∃ returned' log', Goes run ⟨p, .free .stop, returned, e, log⟩
        ⟨(p.follow run e).1, .free .stop, returned', .done (p.follow run e).2, log'⟩ := by
  induction e generalizing p returned log with
  | done a => exact ⟨hs, ht, returned, log, .refl⟩
  | deed d next ih =>
    have hacted : Pool.Steady config here world { p with world := (d.perform run p.world).1 } :=
      hs.move (.touch (.world _)) (Nat.le_refl _)
    obtain ⟨hs', ht', returned', log', hrun⟩ := ih _ hacted ⟨ht.pending, ht.valid⟩ (hw _) returned log
    exact ⟨hs', ht', returned', log', .head ⟨.deed rfl rfl, not_asks_of_eq rfl⟩ hrun⟩
  | submit spec body next ih =>
    have hknows : p.Knows spec := hs.spawned.knows fun k hk => hw.1 _ hk
    obtain ⟨hsubmit, hs', ht', hlen⟩ :=
      hs.submit ht hknows fun inputs => (body inputs).plain_job run
    obtain ⟨returned', hlisted⟩ := SharedPool.runs_listed hsubmit (fun _ => .stop) returned
    have hfollow : p.follow run (.submit spec body next) =
        (p.accept spec fun inputs => (body inputs).job run).follow run (next p.tasks.length) := by
      rw [Pool.follow, hsubmit]
    rw [hfollow]
    obtain ⟨_, _, _, log', heq, hcall⟩ := goes_of_shared run
      (s := ⟨_, _, returned, next p.tasks.length, log⟩) hlisted
    cases heq
    obtain ⟨hs'', ht'', returned'', log'', hrun⟩ := ih _ hs' ht' (hlen ▸ hw.2) returned' log'
    exact ⟨hs'', ht'', returned'', log'',
      .head ⟨.submit rfl rfl, fun h => by cases h.2⟩ (hcall.trans hrun)⟩

theorem runs_joinAll (run : Runner) (hs : p.Steady config here world) (ht : p.Tracked) (a : α)
    (returned : List TaskId) (log : List (TaskId × Effect)) :
    ∃ q, p.joinAll .outside = (q, some q.verdict) ∧ ∃ due late returned' log',
      Runs run ⟨p, .free .stop, returned, .done a, log⟩
        ⟨q, .reading due late q.tasks.length q.tasks fun _ => .stop, returned', .done a, log'⟩ := by
  obtain ⟨q, _, hjoin, _⟩ := hs.joinAll ht
  obtain ⟨_, due, late, returned', hrun⟩ := SharedPool.runs_joinAll hjoin (fun _ => .stop) returned
  obtain ⟨_, _, _, log', heq, hcall⟩ := goes_of_shared run
    (s := ⟨p, _, returned, .done a, log⟩) hrun
  cases heq
  exact ⟨q, hjoin, due, late, returned', log', .head (.report rfl rfl) hcall.runs⟩

/-- Whether the report returns at the next step of the thread, with this answer. -/
def Returns (s : Site α) (answer : Except Failure Report) : Prop :=
  ∃ q u ids due late seen,
    SharedPool.ThreadStep s.shared s.thread q u ids (.joined due late seen answer)

/-- Whether a site is reached where the report returns, with this answer. -/
def Reports (run : Runner) (config : PoolConfig) (m : Machine) (e : Errand α) (s : Site α)
    (answer : Except Failure Report) : Prop :=
  Reached run config m e s ∧ s.Returns answer

theorem returns_reading (due late returned : List TaskId) (e : Errand α)
    (log : List (TaskId × Effect)) :
    Returns ⟨p, .reading due late p.tasks.length p.tasks fun _ => .stop, returned, e, log⟩
      p.verdict :=
  ⟨p, .free .stop, [], due, late, p.tasks, .join⟩

/-- The calls of a build that runs an errand and then reports are a run to where the report returns. -/
theorem exists_reports {P : Nat → α → Prop} {e : Errand α} (hw : e.Within P 0) (run : Runner)
    (config : PoolConfig) (m : Machine) :
    ∃ s, Reports run config m e s s.pool.verdict ∧
      s.errand = .done ((Pool.start config m.here m).follow run e).2 ∧
      ((Pool.start config m.here m).follow run e).1.joinAll .outside =
        (s.pool, some s.pool.verdict) := by
  have hsteady : (Pool.start config m.here m).Steady config m.here m := .start
  obtain ⟨hs, ht, returned, log, hrun⟩ := goes_follow run hsteady .start hw [] []
  obtain ⟨q, hjoin, due, late, returned', log', hrun'⟩ := runs_joinAll run hs ht
    ((Pool.start config m.here m).follow run e).2 returned log
  exact ⟨_, ⟨Relation.ReflTransGen.trans hrun.runs hrun', returns_reading due late returned' _ log'⟩, rfl,
    hjoin⟩

/-! ### Every site goes on to a report -/

/-- What a site keeps: its pool is one that moves lead to, its tasks have plain work, and whatever is
named is a task that there is. -/
structure Orderly (config : PoolConfig) (m : Machine) (P : Nat → α → Prop) (s : Site α) : Prop where
  reached : Pool.Reached config m.here m s.pool
  plain : s.pool.Each fun _ t => ∀ inputs, (t.body inputs).Plain
  within : s.errand.Within P s.pool.tasks.length
  running : ∀ k ∈ s.pool.running, k < s.pool.tasks.length
  batch : ∀ k ∈ s.thread.batch, k < s.pool.tasks.length
  submitting : ∀ k, s.thread.submitting = some k → k < s.pool.tasks.length

variable {run : Runner} {m : Machine} {P : Nat → α → Prop} {e : Errand α} {s : Site α}

theorem Orderly.task (h : s.Orderly config m P) {i : TaskId} {q : Pool Machine}
    (hstep : s.pool.step? i = some q) : (s.goOn i q).Orderly config m P := by
  obtain ⟨t, ht, hkind⟩ := Pool.taskStep_of_step? hstep
  obtain ⟨hlen, hrunning⟩ := hkind.plain (h.reached.placid i t ht) (h.plain i t ht)
  have hmove : s.pool.Move q := .step hstep
  exact {
    reached := h.reached.still hmove (Nat.le_of_eq hlen)
    plain := h.plain.later hmove.grows (Nat.le_of_eq hlen) fun _ _ hp hl => by rwa [hl.body]
    within := by
      show s.errand.Within P q.tasks.length
      rw [hlen]
      exact h.within
    running := fun k hk => by
      replace hk : k ∈ q.running := hk
      rw [hrunning] at hk
      exact hlen ▸ h.running k hk
    batch := fun k hk => hlen ▸ h.batch k hk
    submitting := fun k hk => hlen ▸ h.submitting k hk }

/-- What a step of the thread's calls names, it has named before. -/
theorem named_of_threadStep {u : Thread Machine} {q : Pool Machine} {ids : List TaskId}
    {event : Event Machine} (hserves : s.thread.Serves s.errand)
    (hstep : SharedPool.ThreadStep s.shared s.thread q u ids event) :
    q.tasks.length = s.pool.tasks.length ∧
      (∀ k ∈ q.running, k ∈ s.pool.running ∨ s.thread.submitting = some k) ∧
      (∀ k ∈ u.batch, k ∈ s.thread.batch ∨ k ∈ s.pool.running) ∧
      ∀ k, u.submitting = some k → s.thread.submitting = some k := by
  generalize s.thread = t at hstep hserves
  cases hstep with
  -- These calls are none of a thread that serves an errand.
  | act | enlist | refuseIdle _ | beginIdle _ | panic _ | idle _ => exact nomatch hserves
  | @spawn caller id next _ =>
    refine ⟨s.pool.length_spawn id, fun k hk => .inl ?_, fun k hk => (nomatch hk), fun k hk => hk⟩
    rw [← s.pool.spawn_running id]
    exact hk
  | track _ =>
    refine ⟨rfl, fun k hk => ?_, fun k hk => (nomatch hk), fun k hk => (nomatch hk)⟩
    rcases List.mem_append.1 hk with hk | hk
    · exact .inl hk
    · exact .inr (congrArg some (List.mem_singleton.1 hk).symm)
  | pass _ =>
    exact ⟨rfl, fun k hk => .inl hk, fun k hk => .inl (List.mem_cons_of_mem _ hk), fun k hk => hk⟩
  | take _ => exact ⟨rfl, fun k hk => (nomatch hk), fun k hk => .inr hk, fun k hk => hk⟩
  | conclude _ _ | unwind _ _ | refuseJoin _ | beginJoin _ | read _ | look _ _ | join =>
    exact ⟨rfl, fun k hk => .inl hk, fun k hk => (nomatch hk), fun k hk => (nomatch hk)⟩

theorem Orderly.thread (h : s.Orderly config m P) (hl : s.shared.Listing)
    (hserves : s.thread.Serves s.errand) {u : Thread Machine} {q : Pool Machine}
    {ids : List TaskId} {event : Event Machine}
    (hstep : SharedPool.ThreadStep s.shared s.thread q u ids event) :
    Orderly config m P { s with pool := q, thread := u, returned := s.returned ++ ids } := by
  obtain ⟨hlen, hrunning, hbatch, hsubmitting⟩ := named_of_threadStep hserves hstep
  have hmove : s.pool.Move q := .touch (hstep.touch hl (c := 0) rfl)
  exact {
    reached := h.reached.still hmove (Nat.le_of_eq hlen)
    plain := h.plain.later hmove.grows (Nat.le_of_eq hlen) fun _ _ hp hl => by rwa [hl.body]
    within := by
      show s.errand.Within P q.tasks.length
      rw [hlen]
      exact h.within
    running := fun k hk => hlen ▸ (hrunning k hk).elim (h.running k) (h.submitting k)
    batch := fun k hk => hlen ▸ (hbatch k hk).elim (h.batch k) (h.running k)
    submitting := fun k hk => hlen ▸ h.submitting k (hsubmitting k hk) }

theorem Orderly.deed (h : s.Orderly config m P) {d : Deed} {next : d.Answer → Errand α}
    (he : s.errand = .deed d next) :
    Orderly config m P { s with
      pool := { s.pool with world := (d.perform run s.pool.world).1 }
      errand := next (d.perform run s.pool.world).2 } where
  reached := h.reached.still (.touch (.world _)) (Nat.le_refl _)
  plain := h.plain
  within := by
    have hw := h.within
    rw [he] at hw
    exact hw _
  running := h.running
  batch := h.batch
  submitting := h.submitting

theorem Orderly.submit (h : s.Orderly config m P) {spec : TaskSpec} {body : List Path → Chore}
    {next : TaskId → Errand α}
    (hspawned : s.pool.Each fun _ t => t.isSpawned = true) (he : s.errand = .submit spec body next) :
    Orderly config m P { s with
      pool := (s.pool.enlist (Task.fresh spec fun inputs => (body inputs).job run)).1
      thread := .listed .outside s.pool.tasks.length fun _ => .stop
      errand := next s.pool.tasks.length } := by
  have hw := h.within
  rw [he] at hw
  have hknows : s.pool.Knows spec := hspawned.knows fun k hk => hw.1 _ hk
  have hlen : (s.pool.enlist (Task.fresh spec fun inputs => (body inputs).job run)).1.tasks.length =
      s.pool.tasks.length + 1 := by simp
  exact {
    reached := h.reached.enlist spec _ hknows
    plain := Pool.Each.enlist h.plain fun inputs => (body inputs).plain_job run
    within := by
      show (next s.pool.tasks.length).Within P _
      rw [hlen]
      exact hw.2
    running := fun k hk => hlen ▸ Nat.lt_succ_of_lt (h.running k hk)
    batch := fun k hk => nomatch hk
    submitting := fun k hk => by
      obtain rfl := Option.some.inj hk
      exact hlen ▸ Nat.lt_succ_self _ }

/-- The workers have all tasks of a site but one that the thread has listed. -/
theorem Mirrors.spawned {here : Path} {policy : Policy} {x : Ideal α}
    (h : s.Mirrors run here policy x) (hlisting : s.thread.listing = none) :
    s.pool.Each fun _ t => t.isSpawned = true := by
  intro i t ht
  cases hs : t.stage with
  | listed =>
    have hid := h.listed i t ht hs
    rw [hlisting] at hid
    exact nomatch hid
  | created | gathering _ _ | working _ | tracking _ _ | ended _ => simp [Task.isSpawned, hs]

/-- What holds of a site wherever it has come to. -/
structure Sound (run : Runner) (config : PoolConfig) (m : Machine) (P : Nat → α → Prop) (s : Site α) :
    Prop where
  single : SharedPool.Single config m.here m s.shared
  orderly : s.Orderly config m P
  mirrored : ∃ x, s.Mirrors run m.here config.policy x

theorem sound_start (hw : e.Within P 0) : (start config m e).Sound run config m P where
  single := .start .stop
  orderly := ⟨.start, .start config m.here m, hw, fun _ hk => (nomatch hk), fun _ hk => (nomatch hk),
    fun _ hk => (nomatch hk)⟩
  mirrored := ⟨_, mirrors_start run config m e⟩

theorem Sound.step (h : s.Sound run config m P) (hstep : Step run s s') :
    s'.Sound run config m P := by
  obtain ⟨hsingle, horderly, x, hm⟩ := h
  obtain ⟨y, -, hm'⟩ := hm.step hsingle.listing hstep
  refine ⟨hstep.single hsingle, ?_, y, hm'⟩
  cases hstep with
  | task h => exact horderly.task h
  | thread h => exact horderly.thread hsingle.listing hm.serves h
  | deed ht he => exact horderly.deed he
  | submit ht he => exact horderly.submit (hm.spawned (by rw [ht]; rfl)) he
  | report ht he =>
    exact ⟨horderly.reached, horderly.plain, horderly.within, horderly.running,
      fun k hk => (nomatch hk), fun k hk => (nomatch hk)⟩

theorem Sound.runs (h : s.Sound run config m P) (hr : Runs run s s') : s'.Sound run config m P := by
  induction hr with
  | refl => exact h
  | tail _ hstep ih => exact ih.step hstep

theorem Reached.sound (hw : e.Within P 0) (h : Reached run config m e s) : s.Sound run config m P :=
  (sound_start hw).runs h

theorem Reached.orderly (hw : e.Within P 0) (h : Reached run config m e s) :
    s.Orderly config m P :=
  (h.sound hw).orderly

theorem Sound.serves (h : s.Sound run config m P) : s.thread.Serves s.errand := by
  obtain ⟨x, hm⟩ := h.mirrored
  exact hm.serves

theorem Sound.policy_eq (h : s.Sound run config m P) : s.pool.config.policy = config.policy := by
  obtain ⟨x, hm⟩ := h.mirrored
  exact hm.policy_eq

theorem Sound.steady (h : s.Sound run config m P) (hlisting : s.thread.listing = none) :
    s.pool.Steady config m.here m := by
  obtain ⟨x, hm⟩ := h.mirrored
  exact ⟨h.orderly.reached, hm.spawned hlisting, h.orderly.plain⟩

/-- The thread of a site may do something to the machine between two calls. -/
theorem Sound.act (h : s.Sound run config m P) (ht : s.thread = .free .stop) (w : Machine) :
    Sound run config m P { s with pool := { s.pool with world := w } } := by
  obtain ⟨hsingle, horderly, x, hm⟩ := h
  refine ⟨?_, ?_, { x with world := w }, ?_⟩
  · -- To the pool this is a thread that has the change for its plan, and makes its one step.
    have resumed : SharedPool.Single config m.here m
        (.alone s.pool (.free (.act (fun _ => w) .stop)) s.returned) := by
      refine .resume ?_ _
      rw [← ht]
      exact hsingle
    have acted := resumed.step (.thread (c := 0) rfl .act)
    simpa [shared, SharedPool.alone, ht] using acted
  · exact ⟨horderly.reached.still (.touch (.world _)) (Nat.le_refl _), horderly.plain,
      horderly.within, horderly.running, horderly.batch, horderly.submitting⟩
  · exact ⟨hm.here_eq, hm.policy_eq, rfl, hm.errand_eq, hm.length, hm.tasks, hm.serves, hm.listed,
      hm.unused⟩

/-- A site runs until all its tasks have ended, while the thread stays where it is. -/
theorem Sound.exists_ended (h : s.Sound run config m P) (hlisting : s.thread.listing = none) :
    ∃ s', Goes run s s' ∧ s'.thread = s.thread ∧ s'.errand = s.errand ∧
      s'.pool.Steady config m.here m ∧ s'.pool.Tracked ∧
      s'.pool.Each fun _ t => t.isEnded = true := by
  have hsteady := h.steady hlisting
  have hsettled := hsteady.settle.1
  obtain ⟨returned, hsettle⟩ := SharedPool.runs_settle s.pool s.thread s.returned
  obtain ⟨q, t, returned, log, heq, hgo⟩ := goes_of_shared run hsettle
  cases heq
  exact ⟨_, hgo, rfl, rfl, hsettled, hsteady.tracked_settle h.orderly.running,
    hsettled.ended_of_rest (Pool.advance?_settle _)⟩

theorem Sound.exists_free_of_spawned (h : s.Sound run config m P) {id : TaskId}
    (ht : s.thread = .spawned id fun _ => .stop) :
    ∃ s', Goes run s s' ∧ s'.thread = .free .stop ∧ s'.errand = s.errand ∧
      s'.pool.Steady config m.here m ∧ s'.pool.Tracked := by
  -- In inline mode the call returns only when its task has ended, so the tasks go on first.
  obtain ⟨s', hgo, hthread, herrand, hsteady, -, hended⟩ := h.exists_ended (by rw [ht]; rfl)
  have hsound := h.runs hgo.runs
  rw [ht] at hthread
  have hid : s'.pool.tasks[id]? = some _ := List.getElem?_eq_getElem
    (hsound.orderly.submitting id (by rw [hthread]; rfl))
  obtain ⟨q, hstep, hask⟩ : ∃ q, Step run s' { s' with
      pool := q
      thread := .free .stop
      returned := s'.returned ++ [id] } ∧ ¬ Asks s' { s' with
      pool := q
      thread := .free .stop
      returned := s'.returned ++ [id] } := by
    cases hm : s'.pool.config.mode with
    | pooled => exact ⟨_, .thread (by rw [hthread]; exact .track hm), fun h => (nomatch h.2)⟩
    | inline =>
      exact ⟨_, .thread (by
        rw [hthread]; exact .conclude hm (hsteady.ending?_eq hid (hended id _ hid))),
        fun h => (nomatch h.2)⟩
  obtain ⟨s'', hgo', hthread', herrand', hsteady', htracked, -⟩ :=
    (hsound.step hstep).exists_ended rfl
  exact ⟨s'', hgo.trans (.head ⟨hstep, hask⟩ hgo'), hthread', herrand'.trans herrand, hsteady',
    htracked⟩

/-- A thread that is not at its report comes to the end of the call that it is in. -/
theorem Sound.exists_free (h : s.Sound run config m P) (hr : ¬ s.thread.Reports) :
    ∃ s', Goes run s s' ∧ s'.thread = .free .stop ∧ s'.errand = s.errand ∧
      s'.pool.Steady config m.here m ∧ s'.pool.Tracked := by
  have hserves := h.serves
  generalize ht : s.thread = t at hserves hr
  cases hserves with
  | idle =>
    obtain ⟨s', hgo, hthread, herrand, hsteady, htracked, -⟩ := h.exists_ended (by rw [ht]; rfl)
    exact ⟨s', hgo, hthread.trans ht, herrand, hsteady, htracked⟩
  | spawned id => exact h.exists_free_of_spawned ht
  | listed id =>
    have hstep : Step run s { s with
        pool := s.pool.spawn id
        thread := .spawned id fun _ => .stop
        returned := s.returned ++ [] } := by
      refine .thread (e := .quiet) ?_
      rw [ht]
      exact .spawn (.inr rfl)
    obtain ⟨s', hgo, hrest⟩ := (h.step hstep).exists_free_of_spawned rfl
    exact ⟨s', .head ⟨hstep, fun h => (nomatch h.2)⟩ hgo, hrest⟩
  | asking _ | waiting _ _ _ | reading _ _ _ _ _ => exact absurd trivial hr

theorem Returns.reports {answer : Except Failure Report} (h : s.Returns answer) :
    s.thread.Reports := by
  obtain ⟨q, u, ids, due, late, seen, hstep⟩ := h
  generalize s.thread = t at hstep
  cases hstep
  trivial

/-- When the report returns, all tasks have come to an outcome, and the report tells of them. -/
theorem Sound.over (h : s.Sound run config m P) {answer : Except Failure Report}
    (hr : s.Returns answer) : answer = s.pool.verdict ∧
      ∀ t ∈ s.pool.tasks, t.isEnded = true ∧ t.outcome?.isSome = true := by
  obtain ⟨x, hm⟩ := h.mirrored
  obtain ⟨q, u, ids, due, late, seen, hstep⟩ := hr
  obtain ⟨hover, hanswer⟩ := hm.over h.single hstep
  refine ⟨hanswer, fun t ht => ?_⟩
  obtain ⟨i, hi⟩ := List.mem_iff_getElem?.1 ht
  obtain ⟨d, hd, hmirrors⟩ := hm.getElem? hi
  obtain ⟨o, ho⟩ := hover.duties d (List.mem_of_getElem? hd)
  have houtcome : t.outcome?.isSome = true := by
    rw [hmirrors.outcome?, Duty.outcome?, ho]
    rfl
  exact ⟨(h.orderly.reached.sound i t hi).outcome?_isSome ▸ houtcome, houtcome⟩

/-- Whether a site goes on to where the report returns. -/
def Arrives (run : Runner) (s : Site α) : Prop :=
  ∃ s' answer, Runs run s s' ∧ s'.Returns answer

theorem Arrives.of_runs {s' : Site α} (hr : Runs run s s') (h : Arrives run s') : Arrives run s := by
  obtain ⟨s'', answer, hr', hreturns⟩ := h
  exact ⟨s'', answer, Relation.ReflTransGen.trans hr hr', hreturns⟩

theorem Sound.arrives_reading (h : s.Sound run config m P) {due late : List TaskId} {count : Nat}
    {seen : List (Task Machine)} (ht : s.thread = .reading due late count seen fun _ => .stop) :
    Arrives run s := by
  obtain ⟨t, hthreads, htends⟩ := h.single.tends
  obtain rfl : s.thread = t := List.singleton_inj.1 hthreads
  obtain ⟨p, thread, returned, rest, log⟩ := s
  obtain rfl : thread = _ := ht
  obtain ⟨-, hcount, hle, hseen⟩ := htends.reads
  obtain rfl : count = p.tasks.length := hcount
  have hlook := SharedPool.runs_look due late returned (fun _ => .stop) (p := p)
    (Nat.add_sub_cancel' hle)
  rw [← show seen = p.tasks.take seen.length from hseen] at hlook
  obtain ⟨_, _, _, log', heq, hrun⟩ := goes_of_shared run (s := ⟨p, _, returned, rest, log⟩) hlook
  cases heq
  exact ⟨_, _, hrun.runs, returns_reading due late _ rest log'⟩

/-- A thread that waits for tasks finds them ended, and comes to its report. -/
theorem Sound.arrives_waiting (h : s.Sound run config m P) {due batch : List TaskId}
    (ht : s.thread = .waiting due batch (.report fun _ => .stop)) : Arrives run s := by
  obtain ⟨s', hgo, hthread, -, hsteady, htracked, hended⟩ := h.exists_ended (by rw [ht]; rfl)
  have horderly := (h.runs hgo.runs).orderly
  refine .of_runs hgo.runs ?_
  rw [ht] at hthread
  obtain ⟨p, thread, returned, rest, log⟩ := s'
  obtain rfl : thread = _ := hthread
  have hpass : ∀ k ∈ batch, (p.ending? k).isSome = true := fun k hk =>
    have hk : p.tasks[k]? = some _ := List.getElem?_eq_getElem (horderly.batch k hk)
    Pool.ending?_isSome hk (hended k _ hk)
  obtain ⟨q, -, hwait, -⟩ := hsteady.waitRounds htracked
  have passed := SharedPool.runs_pass due (.report fun _ => .stop) returned hpass
  obtain ⟨late, returned', waited⟩ := SharedPool.runs_waiting hwait due (fun _ => .stop) returned
  obtain ⟨_, _, _, log', heq, hrun'⟩ := goes_of_shared run (s := ⟨p, _, returned, rest, log⟩)
    (passed.trans waited)
  cases heq
  exact ⟨_, _, hrun'.runs, returns_reading due late _ rest log'⟩

theorem Sound.arrives_asking (h : s.Sound run config m P)
    (ht : s.thread = .free (.joinAll .outside fun _ => .stop)) : Arrives run s := by
  have hstep : Step run s { s with
      pool := s.pool
      thread := .waiting s.returned [] (.report fun _ => .stop)
      returned := s.returned ++ [] } := by
    refine .thread (e := .quiet) ?_
    rw [ht]
    exact .beginJoin rfl
  exact .of_runs (.single hstep) ((h.step hstep).arrives_waiting rfl)

theorem Sound.arrives_of_reports (h : s.Sound run config m P) (hr : s.thread.Reports) :
    Arrives run s := by
  have hserves := h.serves
  generalize ht : s.thread = t at hserves hr
  cases hserves with
  | idle | listed _ | spawned _ => exact hr.elim
  | asking _ => exact h.arrives_asking ht
  | waiting _ due batch => exact h.arrives_waiting ht
  | reading _ due late count seen => exact h.arrives_reading ht

theorem Sound.exists_done (h : s.Sound run config m P) (ht : s.thread = .free .stop)
    (hsteady : s.pool.Steady config m.here m) (htracked : s.pool.Tracked) :
    ∃ s' a, Goes run s s' ∧ s'.thread = .free .stop ∧ s'.errand = .done a ∧
      s'.pool.Steady config m.here m ∧ s'.pool.Tracked := by
  have hwithin := h.orderly.within
  obtain ⟨p, thread, returned, rest, log⟩ := s
  obtain rfl : thread = _ := ht
  obtain ⟨hsteady', htracked', returned', log', hfollow⟩ :=
    goes_follow run hsteady htracked hwithin returned log
  exact ⟨_, _, hfollow, rfl, rfl, hsteady', htracked'⟩

/-- Wherever a site has come to, it can go on to where the report returns. -/
theorem Reached.arrives (hw : e.Within P 0) (h : Reached run config m e s) : Arrives run s := by
  have hsound : s.Sound run config m P := h.sound hw
  by_cases hr : s.thread.Reports
  · exact hsound.arrives_of_reports hr
  · obtain ⟨s₁, hgo, ht, -, hsteady, htracked⟩ := hsound.exists_free hr
    have hsound₁ := hsound.runs hgo.runs
    obtain ⟨s₂, a, hgo', ht', he, -, -⟩ := hsound₁.exists_done ht hsteady htracked
    refine .of_runs ((hgo.trans hgo').runs.tail (.report ht' he)) ?_
    exact ((hsound₁.runs hgo'.runs).step (.report ht' he)).arrives_asking rfl

end Site

end NativeBuild
