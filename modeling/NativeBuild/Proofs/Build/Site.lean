import NativeBuild.Proofs.Build.Ideal
import NativeBuild.Proofs.Shared.Single

/-!
A build site: one thread runs an errand and then reports, while the tasks go on, in either mode and
with any number of permits.  Every order of steps of a site is one of the build that has a worker for
every task.
-/

namespace NativeBuild

/-- What an act does to the machine. -/
abbrev Effect := Machine → Machine × Except Failure String

/-- What a task does to the machine when it makes its next step. -/
def Pool.acting (p : Pool Machine) (i : TaskId) : List Effect :=
  match p.tasks[i]? with
  | some t =>
    match t.stage with
    | .working (.act effect _) => [effect]
    | _ => []
  | none => []

theorem Pool.acting_eq_nil {p : Pool Machine} {i : TaskId} {t : Task Machine}
    (ht : p.tasks[i]? = some t) (hs : ∀ effect next, t.stage ≠ .working (.act effect next)) :
    p.acting i = [] := by
  simp only [acting, ht]

/-- What a task has done by a log of what all tasks have done. -/
def effectsOf (log : List (TaskId × Effect)) (i : TaskId) : List Effect :=
  (log.filter fun e => e.1 == i).map Prod.snd

/-- What tasks have done after a step of the task `i`. -/
theorem effectsOf_append (log : List (TaskId × Effect)) (i : TaskId) (effects : List Effect)
    (j : TaskId) : effectsOf (log ++ effects.map (Prod.mk i)) j =
      if i = j then effectsOf log j ++ effects else effectsOf log j := by
  simp only [effectsOf, List.filter_append, List.map_append, List.filter_map, Function.comp_def]
  split
  · next heq => simp [heq, Function.comp_def]
  · next hne => simp [hne]

/-- A pool in the hands of one thread, what is left of the thread's errand, and what the tasks have
done to the machine so far. -/
structure Site (α : Type) where
  pool : Pool Machine
  thread : Thread Machine
  returned : List TaskId
  errand : Errand α
  log : List (TaskId × Effect)

namespace Site

variable {α : Type}

/-- A site whose thread has not begun with its errand. -/
def start (config : PoolConfig) (m : Machine) (e : Errand α) : Site α :=
  ⟨Pool.start config m.here m, .free .stop, [], e, []⟩

/-- The pool and its thread. -/
def shared (s : Site α) : SharedPool Machine :=
  .alone s.pool s.thread s.returned

/-- What a task has done so far. -/
def performed (s : Site α) (i : TaskId) : List Effect :=
  effectsOf s.log i

/-- The site after a step of the task `i`. -/
def goOn (s : Site α) (i : TaskId) (q : Pool Machine) : Site α :=
  { s with
    pool := q
    returned := s.returned ++ SharedPool.returning s.pool i
    log := s.log ++ (s.pool.acting i).map (Prod.mk i) }

/-- A step of a site.  Between two calls the thread does the next deed of its errand, or lists the
task that the errand submits, or, at the end of the errand, asks for the report; else it goes on with
its call.  The tasks make their steps at any time. -/
inductive Step (run : Runner) (s : Site α) : Site α → Prop where
  | task {i : TaskId} {q : Pool Machine} (h : s.pool.step? i = some q) : Step run s (s.goOn i q)
  | thread {u : Thread Machine} {q : Pool Machine} {ids : List TaskId} {e : Event Machine}
    (h : SharedPool.ThreadStep s.shared s.thread q u ids e) :
    Step run s { s with pool := q, thread := u, returned := s.returned ++ ids }
  | deed {d : Deed} {next : d.Answer → Errand α} (ht : s.thread = .free .stop)
    (he : s.errand = .deed d next) :
    Step run s { s with
      pool := { s.pool with world := (d.perform run s.pool.world).1 }
      errand := next (d.perform run s.pool.world).2 }
  | submit {spec : TaskSpec} {body : List Path → Chore} {next : TaskId → Errand α}
    (ht : s.thread = .free .stop) (he : s.errand = .submit spec body next) :
    Step run s { s with
      pool := (s.pool.enlist (Task.fresh spec fun inputs => (body inputs).job run)).1
      thread := .listed .outside s.pool.tasks.length fun _ => .stop
      errand := next s.pool.tasks.length }
  | report {a : α} (ht : s.thread = .free .stop) (he : s.errand = .done a) :
    Step run s { s with thread := .free (.joinAll .outside fun _ => .stop) }

/-- A run of steps. -/
def Runs (run : Runner) : Site α → Site α → Prop :=
  Relation.ReflTransGen (Step run)

/-- The states that steps lead to from the start. -/
def Reached (run : Runner) (config : PoolConfig) (m : Machine) (e : Errand α) (s : Site α) : Prop :=
  Runs run (start config m e) s

variable {run : Runner} {config : PoolConfig} {m : Machine} {e : Errand α} {s s' : Site α}

/-- The thread of a site stays a single thread, which makes its calls one after another. -/
theorem Step.single {here : Path} {world : Machine} (h : Step run s s')
    (hs : SharedPool.Single config here world s.shared) :
    SharedPool.Single config here world s'.shared := by
  have resumed (ht : s.thread = .free .stop) (plan : Plan Machine) :
      SharedPool.Single config here world (.alone s.pool (.free plan) s.returned) := by
    refine .resume ?_ plan
    rw [← ht]
    exact hs
  cases h with
  | task h => exact hs.step (.task h)
  | thread h => exact hs.step (.thread (c := 0) rfl h)
  | @deed d next ht he =>
    have acted := (resumed ht (.act (fun w => (d.perform run w).1) .stop)).step
      (.thread (c := 0) rfl .act)
    simpa [shared, SharedPool.alone, ht] using acted
  | @submit spec body next ht he =>
    have listed := (resumed ht (.submit .outside spec (fun inputs => (body inputs).job run)
      fun _ => .stop)).step (.thread (c := 0) rfl .enlist)
    simpa [shared, SharedPool.alone] using listed
  | report ht he => exact resumed ht _

theorem Reached.single (h : Reached run config m e s) :
    SharedPool.Single config m.here m s.shared := by
  induction h with
  | refl => exact .start .stop
  | tail _ hstep ih => exact hstep.single ih

end Site

/-! ### Tasks with a worker of their own -/

/-- How a task of a site, which has performed `effects`, is mirrored by one with a worker of its own.
While it gathers its inputs, those that it has found are known. -/
structure Duty.Mirrors {α : Type} (run : Runner) (here : Path) (policy : Policy) (s : Sheet α)
    (effects : List Effect) (t : Task Machine) (u : Duty) : Prop where
  spec : t.spec = u.spec
  body : t.body = fun inputs => (u.body inputs).job run
  calls : t.calls = u.calls
  effects : effects = u.acts.map fun a => a.perform run
  stage : match t.stage with
    | .listed | .created => u.progress = .waiting ∧ t.state = .pending
    | .gathering found rest => u.progress = .waiting ∧ t.state = .pending ∧
      ∃ before, u.spec.inputs = before ++ rest ∧ s.inputs? here policy before = some (.ok found)
    | .working w => ∃ chore, u.progress = .busy chore ∧ w = chore.job run ∧ t.state = .running
    | .tracking _ _ => False
    | .ended _ => ∃ o, u.progress = .ended o ∧ t.outcome? = some o

namespace Duty

variable {α : Type} {run : Runner} {here : Path} {policy : Policy} {s : Sheet α}
  {effects : List Effect} {t : Task Machine} {u : Duty}

theorem Mirrors.outcome? (h : u.Mirrors run here policy s effects t) : t.outcome? = u.outcome? := by
  have hstage := h.stage
  unfold Duty.outcome?
  split at hstage
  · rw [hstage.1, Task.outcome?, hstage.2]; rfl
  · rw [hstage.1, Task.outcome?, hstage.2]; rfl
  · rw [hstage.1, Task.outcome?, hstage.2.1]; rfl
  · obtain ⟨chore, hp, -, hstate⟩ := hstage
    rw [hp, Task.outcome?, hstate]
    rfl
  · exact hstage.elim
  · obtain ⟨o, hp, ho⟩ := hstage
    rw [hp, ho]

/-- A task that has ended is mirrored by one that has come to an outcome. -/
theorem Mirrors.outcome?_of_ended (h : u.Mirrors run here policy s effects t)
    (he : t.isEnded = true) : ∃ o, u.progress = .ended o := by
  have hstage := h.stage
  cases hs : t.stage with
  | ended unwound =>
    rw [hs] at hstage
    obtain ⟨o, hp, _⟩ := hstage
    exact ⟨o, hp⟩
  | listed | created | gathering _ _ | working _ | tracking _ _ => simp [Task.isEnded, hs] at he

/-- A task is mirrored while others take their turns. -/
theorem Mirrors.change (h : u.Mirrors run here policy s effects t) {b : Actor}
    {g : Sheet α → Sheet α} (hg : s.Change b g) : u.Mirrors run here policy (g s) effects t := by
  refine ⟨h.spec, h.body, h.calls, h.effects, ?_⟩
  have hstage := h.stage
  cases hs : t.stage with
  | gathering found rest =>
    rw [hs] at hstage
    obtain ⟨hp, hstate, before, hinputs, hfound⟩ := hstage
    exact ⟨hp, hstate, before, hinputs, hg.inputs? hfound⟩
  | listed | created | working _ | ended _ => simpa only [hs] using hstage
  | tracking _ _ => simp only [hs] at hstage

theorem mirrors_fresh (spec : TaskSpec) (body : List Path → Chore) :
    (fresh spec body).Mirrors run here policy s []
      (Task.fresh spec fun inputs => (body inputs).job run) :=
  ⟨rfl, rfl, rfl, rfl, rfl, rfl⟩

end Duty

theorem Sheet.inputs?_append {α : Type} {here : Path} {policy : Policy} {s : Sheet α}
    {before : List PathRef} {found : List Path}
    (h : s.inputs? here policy before = some (.ok found)) (rest : List PathRef) :
    s.inputs? here policy (before ++ rest) =
      (s.inputs? here policy rest).map fun r => r.map (found ++ ·) := by
  induction before generalizing found with
  | nil =>
    simp only [inputs?, Option.some.injEq, Except.ok.injEq] at h
    subst h
    rw [List.nil_append]
    cases s.inputs? here policy rest with
    | none => rfl
    | some r => cases r <;> rfl
  | cons ref before ih =>
    simp only [inputs?, List.cons_append] at h ⊢
    split at h
    · cases h
    · cases h
    · next path hpath =>
      obtain ⟨r, hr, hfound⟩ := Option.map_eq_some_iff.1 h
      cases r with
      | error e => cases hfound
      | ok more =>
        obtain rfl : path :: more = found := by simpa [Except.map] using hfound
        rw [ih hr]
        cases s.inputs? here policy rest with
        | none => rfl
        | some r => cases r <;> rfl

namespace Duty

variable {α : Type} {run : Runner} {here : Path} {policy : Policy} {s : Sheet α}
  {effects : List Effect} {t : Task Machine} {u : Duty} {found : List Path} {ref : PathRef}
  {rest : List PathRef}

theorem Mirrors.start (h : u.Mirrors run here policy s effects t) (hs : t.stage = .created) :
    u.Mirrors run here policy s effects { t with stage := .gathering [] t.spec.inputs } := by
  have hstage := h.stage
  simp only [hs] at hstage
  exact ⟨h.spec, h.body, h.calls, h.effects, hstage.1, hstage.2, [], by rw [h.spec]; rfl, rfl⟩

theorem Mirrors.find (h : u.Mirrors run here policy s effects t) {path : Path}
    (hs : t.stage = .gathering found (ref :: rest))
    (hp : s.pathNow? here policy ref = some (.ok path)) :
    u.Mirrors run here policy s effects
      { t with stage := .gathering (found ++ [path]) rest } := by
  have hstage := h.stage
  simp only [hs] at hstage
  obtain ⟨hprogress, hstate, before, hinputs, hfound⟩ := hstage
  refine ⟨h.spec, h.body, h.calls, h.effects, hprogress, hstate, before ++ [ref],
    by rw [hinputs, List.append_assoc]; rfl, ?_⟩
  rw [Sheet.inputs?_append hfound, Sheet.inputs?, hp]
  rfl

/-- A task with an input that is not to be had is mirrored by one that knows so. -/
theorem Mirrors.refuse (h : u.Mirrors run here policy s effects t) {e : Failure}
    (hs : t.stage = .gathering found (ref :: rest))
    (hp : s.pathNow? here policy ref = some (.error e)) :
    u.progress = .waiting ∧ s.inputs? here policy u.spec.inputs = some (.error e) ∧
      (u.start (.error e)).Mirrors run here policy s effects (t.refuse e) := by
  have hstage := h.stage
  simp only [hs] at hstage
  obtain ⟨hprogress, hstate, before, hinputs, hfound⟩ := hstage
  refine ⟨hprogress, ?_, h.spec, h.body, h.calls, h.effects, _, rfl, ?_⟩
  · rw [hinputs, Sheet.inputs?_append hfound, Sheet.inputs?, hp]
    rfl
  · simp [Task.refuse, Task.close, Task.outcome?, TaskState.finish, TaskState.outcome?, hstate,
      h.spec]

/-- A task that is called is mirrored by one that knows its inputs. -/
theorem Mirrors.call (h : u.Mirrors run here policy s effects t)
    (hs : t.stage = .gathering found []) :
    u.progress = .waiting ∧ s.inputs? here policy u.spec.inputs = some (.ok found) ∧
      (u.start (.ok found)).Mirrors run here policy s effects (t.call found) := by
  have hstage := h.stage
  simp only [hs] at hstage
  obtain ⟨hprogress, hstate, before, hinputs, hfound⟩ := hstage
  rw [List.append_nil] at hinputs
  refine ⟨hprogress, hinputs ▸ hfound, h.spec, h.body, ?_, h.effects, u.body found, rfl,
    congrFun h.body found, rfl⟩
  rw [Task.call, Duty.start, h.calls]

theorem Mirrors.finish (h : u.Mirrors run here policy s effects t) {result : Except Failure Unit}
    (hs : t.stage = .working (.done result)) :
    u.progress = .busy (.done result) ∧
      (u.finish result).Mirrors run here policy s effects (t.finish result) := by
  have hstage := h.stage
  simp only [hs] at hstage
  obtain ⟨chore, hprogress, hchore, hstate⟩ := hstage
  cases chore with
  | act a next => exact nomatch hchore
  | done result' =>
    obtain rfl : result = result' := by simpa [Chore.job] using hchore
    have ho : (t.finish result).outcome? = some (t.outcomeOf result) := by
      simp [Task.finish, Task.close, Task.outcome?, TaskState.finish, TaskState.outcome?, hstate]
    refine ⟨hprogress, ?_⟩
    cases result with
    | ok _ => exact ⟨h.spec, h.body, h.calls, h.effects, _, by rw [Task.outcomeOf, h.spec]; rfl, ho⟩
    | error e => exact ⟨h.spec, h.body, h.calls, h.effects, _, by rw [Task.outcomeOf, h.spec]; rfl, ho⟩

/-- A task that acts is mirrored by one that performs the same act. -/
theorem Mirrors.act (h : u.Mirrors run here policy s effects t) {effect : Effect}
    {next : Except Failure String → Job} (hs : t.stage = .working (.act effect next)) :
    ∃ a rest, u.progress = .busy (.act a rest) ∧ effect = a.perform run ∧
      ∀ r, (u.act a (rest r)).Mirrors run here policy s (effects ++ [effect])
        { t with stage := .working (next r) } := by
  have hstage := h.stage
  simp only [hs] at hstage
  obtain ⟨chore, hprogress, hchore, hstate⟩ := hstage
  cases chore with
  | done result => exact nomatch hchore
  | act a rest =>
    obtain ⟨rfl, rfl⟩ : effect = a.perform run ∧ next = fun r => (rest r).job run := by
      simpa [Chore.job] using hchore
    refine ⟨a, rest, hprogress, rfl, fun r => ⟨h.spec, h.body, h.calls, ?_, rest r, rfl, rfl, hstate⟩⟩
    rw [h.effects, Duty.act, List.map_append]
    rfl

end Duty

/-! ### Sites with a worker for every task -/

/-- What the one thread of a site is at: nothing, the submission of a task, or the report at the end of
its errand. -/
inductive Thread.Serves {α : Type} (e : Errand α) : Thread Machine → Prop where
  | idle : Serves e (.free .stop)
  | listed (id : TaskId) : Serves e (.listed .outside id fun _ => .stop)
  | spawned (id : TaskId) : Serves e (.spawned id fun _ => .stop)
  | asking {a : α} (h : e = .done a) : Serves e (.free (.joinAll .outside fun _ => .stop))
  | waiting {a : α} (h : e = .done a) (due batch : List TaskId) :
    Serves e (.waiting due batch (.report fun _ => .stop))
  | reading {a : α} (h : e = .done a) (due late : List TaskId) (count : Nat)
    (seen : List (Task Machine)) : Serves e (.reading due late count seen fun _ => .stop)

namespace Site

variable {α : Type} {run : Runner} {here : Path} {policy : Policy} {s s' : Site α} {x : Ideal α}

/-- How a site is mirrored by a build with a worker for every task. -/
structure Mirrors (run : Runner) (here : Path) (policy : Policy) (s : Site α) (x : Ideal α) :
    Prop where
  here_eq : s.pool.here = here
  policy_eq : s.pool.config.policy = policy
  world_eq : s.pool.world = x.world
  errand_eq : s.errand = x.sheet.errand
  length : s.pool.tasks.length = x.sheet.duties.length
  tasks : ∀ (i : Nat) t u, s.pool.tasks[i]? = some t → x.sheet.duties[i]? = some u →
    u.Mirrors run here policy x.sheet (s.performed i) t
  serves : s.thread.Serves s.errand
  listed : ∀ (i : Nat) t, s.pool.tasks[i]? = some t → t.stage = .listed →
    s.thread.listing = some i
  unused : ∀ i, s.pool.tasks.length ≤ i → s.performed i = []

theorem Mirrors.getElem? (h : s.Mirrors run here policy x) {i : Nat} {t : Task Machine}
    (ht : s.pool.tasks[i]? = some t) :
    ∃ u, x.sheet.duties[i]? = some u ∧ u.Mirrors run here policy x.sheet (s.performed i) t := by
  have hi : i < x.sheet.duties.length := h.length ▸ (List.getElem?_eq_some_iff.1 ht).1
  exact ⟨_, List.getElem?_eq_getElem hi, h.tasks i t _ ht (List.getElem?_eq_getElem hi)⟩

/-- A site and what mirrors it know the same paths. -/
theorem Mirrors.pathNow? (h : s.Mirrors run here policy x) (ref : PathRef) :
    x.sheet.pathNow? here policy ref = s.pool.pathNow? ref := by
  cases ref with
  | literal path => rw [Sheet.pathNow?, Pool.pathNow?, h.here_eq]
  | task k =>
    simp only [Sheet.pathNow?, Pool.pathNow?]
    cases ht : s.pool.tasks[k]? with
    | none =>
      have hk : x.sheet.duties[k]? = none := by
        rw [List.getElem?_eq_none_iff] at ht ⊢
        exact h.length ▸ ht
      rw [hk, Pool.outcome?_eq_none ht]
      rfl
    | some t =>
      obtain ⟨u, hu, hm⟩ := h.getElem? ht
      rw [hu, Pool.outcome?_eq ht, hm.outcome?]
      cases ho : u.outcome? with
      | none => simp only [ho, Option.map_none]
      | some o =>
        simp only [ho, Option.map_some, Pool.outcomePath, Pool.label, ht, h.here_eq, h.policy_eq,
          hm.spec]

/-- A task that is not listed goes on, and so may what mirrors it. -/
theorem Mirrors.set (h : s.Mirrors run here policy x) {i : TaskId} {t t' : Task Machine}
    {q : Pool Machine} {y : Ideal α} {u' : Duty} (ht : s.pool.tasks[i]? = some t)
    (hq : q.tasks = s.pool.tasks.set i t') (hstage : t'.stage ≠ .listed)
    (hhere : q.here = s.pool.here) (hconfig : q.config = s.pool.config) (hworld : q.world = y.world)
    (herrand : y.sheet.errand = x.sheet.errand)
    (hduties : y.sheet.duties = x.sheet.duties.set i u')
    (hkeep : ∀ effects t (u : Duty), u.Mirrors run here policy x.sheet effects t →
      u.Mirrors run here policy y.sheet effects t)
    (hu' : u'.Mirrors run here policy y.sheet (s.performed i ++ s.pool.acting i) t') :
    (s.goOn i q).Mirrors run here policy y where
  here_eq := hhere.trans h.here_eq
  policy_eq := by rw [← h.policy_eq]; exact congrArg PoolConfig.policy hconfig
  world_eq := hworld
  errand_eq := h.errand_eq.trans herrand.symm
  length := by
    rw [hduties, List.length_set, ← h.length]
    exact (congrArg List.length hq).trans List.length_set
  tasks j v w hv hw := by
    replace hv : (s.pool.tasks.set i t')[j]? = some v := hq ▸ hv
    rw [hduties] at hw
    rw [performed, goOn, effectsOf_append]
    rcases getElem?_set_cases hv with ⟨rfl, rfl⟩ | ⟨hne, hv⟩
    · obtain ⟨u, hu, _⟩ := h.getElem? ht
      rw [List.getElem?_set_self (List.getElem?_eq_some_iff.1 hu).1] at hw
      obtain rfl := Option.some.inj hw
      rw [if_pos rfl]
      exact hu'
    · rw [List.getElem?_set_ne hne] at hw
      rw [if_neg hne]
      exact hkeep _ _ _ (h.tasks j v w hv hw)
  serves := h.serves
  listed j v hv hs := by
    replace hv : (s.pool.tasks.set i t')[j]? = some v := hq ▸ hv
    rcases getElem?_set_cases hv with ⟨rfl, rfl⟩ | ⟨_, hv⟩
    · exact absurd hs hstage
    · exact h.listed j v hv hs
  unused j hj := by
    have hlen : q.tasks.length = s.pool.tasks.length :=
      (congrArg List.length hq).trans List.length_set
    replace hj : s.pool.tasks.length ≤ j := hlen ▸ hj
    have hi := (List.getElem?_eq_some_iff.1 ht).1
    rw [performed, goOn, effectsOf_append, if_neg (Nat.ne_of_lt (Nat.lt_of_lt_of_le hi hj))]
    exact h.unused j hj

/-- A step of a task is a turn of what mirrors it, or it only finds one more input or gets ready to. -/
theorem Mirrors.task (h : s.Mirrors run here policy x) {i : TaskId} {q : Pool Machine}
    (hstep : s.pool.step? i = some q) :
    ∃ y, Relation.ReflGen (Ideal.Step run here policy) x y ∧ (s.goOn i q).Mirrors run here policy y := by
  obtain ⟨t, ht, hkind⟩ := Pool.taskStep_of_step? hstep
  obtain ⟨u, hu, hm⟩ := h.getElem? ht
  have hquiet (hs : ∀ effect next, t.stage ≠ .working (.act effect next)) :
      s.performed i ++ s.pool.acting i = s.performed i := by
    rw [Pool.acting_eq_nil ht hs, List.append_nil]
  -- A step leaves the mirror where it is, or is a quiet turn of it, or its next act.
  have still {t' : Task Machine} (hq : q = s.pool.setTask i t') (hs : t'.stage ≠ .listed)
      (hacting : s.performed i ++ s.pool.acting i = s.performed i)
      (hm' : u.Mirrors run here policy x.sheet (s.performed i) t') :
      ∃ y, Relation.ReflGen (Ideal.Step run here policy) x y ∧ (s.goOn i q).Mirrors run here policy y := by
    subst hq
    refine ⟨x, .refl, h.set ht rfl hs rfl rfl h.world_eq rfl ?_ (fun _ _ _ hm => hm)
      (by rw [hacting]; exact hm')⟩
    obtain ⟨hi, rfl⟩ := List.getElem?_eq_some_iff.1 hu
    exact (List.set_getElem_self hi).symm
  have quiet {t' : Task Machine} {u' : Duty} {free : Nat}
      (hq : q = { s.pool with free }.setTask i t') (hs : t'.stage ≠ .listed)
      (hacting : s.performed i ++ s.pool.acting i = s.performed i)
      (htakes : x.sheet.Takes here policy (.task i) (.quiet fun s => s.setDuty i u'))
      (hm' : u'.Mirrors run here policy x.sheet (s.performed i) t') :
      ∃ y, Relation.ReflGen (Ideal.Step run here policy) x y ∧ (s.goOn i q).Mirrors run here policy y := by
    subst hq
    have hturn := htakes.turn?
    have hchange := Sheet.change_of_turn? hturn rfl
    exact ⟨_, .single (.take hturn), h.set ht rfl hs rfl rfl h.world_eq rfl rfl
      (fun _ _ _ hm => hm.change hchange) (by rw [hacting]; exact hm'.change hchange)⟩
  cases hkind with
  | start hs => exact still rfl (by simp) (hquiet (by simp [hs])) (hm.start hs)
  | find hs hp =>
    exact still rfl (by simp) (hquiet (by simp [hs])) (hm.find hs ((h.pathNow? _).trans hp))
  | refuse hs hp =>
    obtain ⟨hprogress, hknown, hm'⟩ := hm.refuse hs ((h.pathNow? _).trans hp)
    exact quiet rfl (by simp [Task.refuse, Task.close]) (hquiet (by simp [hs]))
      (.start hu hprogress hknown) hm'
  | call hs _ =>
    obtain ⟨hprogress, hknown, hm'⟩ := hm.call hs
    exact quiet rfl (by simp [Task.call]) (hquiet (by simp [hs])) (.start hu hprogress hknown) hm'
  | finish hs =>
    obtain ⟨hprogress, hm'⟩ := hm.finish hs
    exact quiet rfl (by simp [Task.finish, Task.close]) (hquiet (by simp [hs]))
      (.finish hu hprogress) hm'
  | @act effect next hs =>
    obtain ⟨a, rest, hprogress, rfl, hm'⟩ := hm.act hs
    have htakes : x.sheet.Takes here policy (.task i) _ := .act hu hprogress
    have hturn := htakes.turn?
    have hchange := Sheet.change_of_turn? hturn ⟨((Deed.act a).perform run x.world).2, rfl⟩
    have hacting : s.pool.acting i = [a.perform run] := by simp [Pool.acting, ht, hs]
    rw [h.world_eq]
    exact ⟨_, .single (.take hturn), h.set ht rfl (by simp) rfl rfl rfl rfl rfl
      (fun _ _ _ hm => hm.change hchange) (by rw [hacting]; exact (hm' _).change hchange)⟩
  | unwind hs | await hs _ | ask hs | submit hs _ | abandon hs _ =>
    -- The work of a chore only acts and returns.
    have hstage := hm.stage
    simp only [hs] at hstage
    obtain ⟨chore, _, hchore, _⟩ := hstage
    cases chore <;> cases hchore
  | track hs =>
    have hstage := hm.stage
    simp only [hs] at hstage

/-- What the thread makes of the pool without touching a task leaves the site mirrored. -/
theorem Mirrors.of_tasks (h : s.Mirrors run here policy x) {q : Pool Machine} {u : Thread Machine}
    {ids : List TaskId} (hq : q.tasks = s.pool.tasks) (hhere : q.here = s.pool.here)
    (hconfig : q.config = s.pool.config) (hworld : q.world = s.pool.world)
    (hserves : u.Serves s.errand) (hlisting : s.thread.listing = none) :
    Mirrors run here policy { s with pool := q, thread := u, returned := s.returned ++ ids } x where
  here_eq := hhere.trans h.here_eq
  policy_eq := by rw [← h.policy_eq]; exact congrArg PoolConfig.policy hconfig
  world_eq := hworld.trans h.world_eq
  errand_eq := h.errand_eq
  length := (congrArg List.length hq).trans h.length
  tasks i t v ht hv := h.tasks i t v (hq ▸ ht) hv
  serves := hserves
  listed i t ht hs := by
    have hnone := h.listed i t (hq ▸ ht) hs
    rw [hlisting] at hnone
    exact nomatch hnone
  unused i hi := h.unused i (congrArg List.length hq ▸ hi)

/-- The thread hands the task to the workers that it has listed. -/
theorem Mirrors.spawn (h : s.Mirrors run here policy x) {id : TaskId} {ids : List TaskId}
    {next : TaskId → Plan Machine} {task : Task Machine} (hthread : s.thread.listing = some id)
    (htask : s.pool.tasks[id]? = some task) (hs : task.stage = .listed)
    (hserves : (Thread.spawned id next).Serves s.errand) :
    Mirrors run here policy
      { s with pool := s.pool.spawn id, thread := .spawned id next, returned := s.returned ++ ids }
      x where
  here_eq := (s.pool.spawn_here id).trans h.here_eq
  policy_eq := by rw [← h.policy_eq]; exact congrArg PoolConfig.policy (s.pool.spawn_config id)
  world_eq := by
    rw [Pool.spawn_eq_setTask htask]
    exact h.world_eq
  errand_eq := h.errand_eq
  length := (s.pool.length_spawn id).trans h.length
  tasks i t v ht hv := by
    rw [Pool.spawn_eq_setTask htask] at ht
    rcases getElem?_set_cases ht with ⟨rfl, rfl⟩ | ⟨_, ht⟩
    · have hm := h.tasks id task v htask hv
      have hstage := hm.stage
      simp only [hs] at hstage
      exact ⟨hm.spec, hm.body, hm.calls, hm.effects, hstage⟩
    · exact h.tasks i t v ht hv
  serves := hserves
  listed i t ht hs := by
    rw [Pool.spawn_eq_setTask htask] at ht
    rcases getElem?_set_cases ht with ⟨rfl, rfl⟩ | ⟨hne, ht⟩
    · exact nomatch hs
    · have hid := h.listed i t ht hs
      rw [hthread] at hid
      exact absurd (Option.some.inj hid) hne
  unused i hi := h.unused i (s.pool.length_spawn id ▸ hi)

/-- A step of the thread's calls is no turn of anybody. -/
theorem Mirrors.thread (h : s.Mirrors run here policy x) (hl : s.shared.Listing)
    {u : Thread Machine} {q : Pool Machine} {ids : List TaskId} {e : Event Machine}
    (hstep : SharedPool.ThreadStep s.shared s.thread q u ids e) :
    Mirrors run here policy { s with pool := q, thread := u, returned := s.returned ++ ids } x := by
  have hserves := h.serves
  generalize ht : s.thread = t at hstep hserves
  cases hstep with
  | act | enlist | refuseIdle _ | beginIdle _ | panic _ | idle _ => exact nomatch hserves
  | @spawn caller id next _ =>
    have hlisting : s.thread.listing = some id := by rw [ht]; rfl
    obtain ⟨task, htask, hs⟩ := hl.listed 0 id s.thread rfl hlisting
    cases hserves
    exact h.spawn hlisting htask hs (.spawned id)
  | track _ | conclude _ _ | unwind _ _ | refuseJoin _ | join =>
    cases hserves
    exact h.of_tasks rfl rfl rfl rfl .idle (by rw [ht]; rfl)
  | beginJoin _ =>
    cases hserves with
    | asking he => exact h.of_tasks rfl rfl rfl rfl (.waiting he _ _) (by rw [ht]; rfl)
  | pass _ | take _ =>
    cases hserves with
    | waiting he => exact h.of_tasks rfl rfl rfl rfl (.waiting he _ _) (by rw [ht]; rfl)
  | read _ =>
    cases hserves with
    | waiting he => exact h.of_tasks rfl rfl rfl rfl (.reading he _ _ _ _) (by rw [ht]; rfl)
  | look _ _ =>
    cases hserves with
    | reading he => exact h.of_tasks rfl rfl rfl rfl (.reading he _ _ _ _) (by rw [ht]; rfl)

/-- The thread does the next deed of its errand. -/
theorem Mirrors.deed (h : s.Mirrors run here policy x) {d : Deed} {next : d.Answer → Errand α}
    (ht : s.thread = .free .stop) (he : s.errand = .deed d next) :
    ∃ y, Relation.ReflGen (Ideal.Step run here policy) x y ∧ Mirrors run here policy { s with
      pool := { s.pool with world := (d.perform run s.pool.world).1 }
      errand := next (d.perform run s.pool.world).2 } y := by
  have htakes : x.sheet.Takes here policy .driver _ := .deed (h.errand_eq.symm.trans he)
  have hturn := htakes.turn?
  have hchange := Sheet.change_of_turn? hturn ⟨(d.perform run x.world).2, rfl⟩
  rw [h.world_eq]
  refine ⟨_, .single (.take hturn), h.here_eq, h.policy_eq, rfl, rfl, h.length,
    fun i t u ht hu => (h.tasks i t u ht hu).change hchange, ?_, h.listed, h.unused⟩
  rw [ht]
  exact .idle

/-- The thread lists the task that its errand submits. -/
theorem Mirrors.submit (h : s.Mirrors run here policy x) {spec : TaskSpec}
    {body : List Path → Chore} {next : TaskId → Errand α} (ht : s.thread = .free .stop)
    (he : s.errand = .submit spec body next) :
    ∃ y, Relation.ReflGen (Ideal.Step run here policy) x y ∧ Mirrors run here policy { s with
      pool := (s.pool.enlist (Task.fresh spec fun inputs => (body inputs).job run)).1
      thread := .listed .outside s.pool.tasks.length fun _ => .stop
      errand := next s.pool.tasks.length } y := by
  have htakes : x.sheet.Takes here policy .driver _ := .submit (h.errand_eq.symm.trans he)
  have hturn := htakes.turn?
  have hchange := Sheet.change_of_turn? hturn rfl
  refine ⟨_, .single (.take hturn), h.here_eq, h.policy_eq, h.world_eq, ?_, ?_, ?_, .listed _, ?_, ?_⟩
  · rw [h.length]
    rfl
  · simp [Ideal.take, Sheet.submit, h.length]
  · intro i t u ht hu
    rw [Pool.enlist_tasks] at ht
    have hu : (x.sheet.duties ++ [.fresh spec body])[i]? = some u := hu
    rcases getElem?_concat_cases ht with ht | ⟨rfl, rfl⟩
    · have hi := (List.getElem?_eq_some_iff.1 ht).1
      rw [List.getElem?_append_left (h.length ▸ hi)] at hu
      exact (h.tasks i t u ht hu).change hchange
    · rw [h.length, List.getElem?_concat_length] at hu
      obtain rfl := Option.some.inj hu
      have hnone := h.unused _ (Nat.le_refl _)
      show Duty.Mirrors run here policy _ (s.performed s.pool.tasks.length) _ _
      rw [hnone]
      exact Duty.mirrors_fresh spec body
  · intro i t hti hs
    rw [Pool.enlist_tasks] at hti
    rcases getElem?_concat_cases hti with hti | ⟨rfl, _⟩
    · have hnone := h.listed i t hti hs
      rw [ht] at hnone
      cases hnone
    · rfl
  · intro i hi
    rw [Pool.enlist_tasks, List.length_append] at hi
    exact h.unused i (Nat.le_of_succ_le hi)

/-- A step of a site is one turn of what mirrors it, or none. -/
theorem Mirrors.step (h : s.Mirrors run here policy x) (hl : s.shared.Listing)
    (hstep : Step run s s') :
    ∃ y, Relation.ReflGen (Ideal.Step run here policy) x y ∧ s'.Mirrors run here policy y := by
  cases hstep with
  | task hstep => exact h.task hstep
  | thread hstep => exact ⟨x, .refl, h.thread hl hstep⟩
  | deed ht he => exact h.deed ht he
  | submit ht he => exact h.submit ht he
  | report ht he =>
    refine ⟨x, .refl, h.here_eq, h.policy_eq, h.world_eq, h.errand_eq, h.length, h.tasks, .asking he,
      fun i t hti hs => ?_, h.unused⟩
    have hnone := h.listed i t hti hs
    rw [ht] at hnone
    exact nomatch hnone

theorem mirrors_start (run : Runner) (config : PoolConfig) (m : Machine) (e : Errand α) :
    (start config m e).Mirrors run m.here config.policy (Ideal.start m e) := by
  refine ⟨rfl, rfl, rfl, rfl, rfl, ?_, .idle, ?_, fun _ _ => rfl⟩
  · exact fun i t u ht _ => nomatch ht
  · exact fun i t ht _ => nomatch ht

/-- Every order of steps of a site is one of turns, each with a worker for every task. -/
theorem Reached.mirrors {config : PoolConfig} {m : Machine} {e : Errand α}
    (h : Reached run config m e s) :
    ∃ x, Ideal.Runs run m.here config.policy (Ideal.start m e) x ∧
      s.Mirrors run m.here config.policy x := by
  induction h with
  | refl => exact ⟨_, .refl, mirrors_start run config m e⟩
  | tail hs hstep ih =>
    obtain ⟨x, hx, hm⟩ := ih
    obtain ⟨y, hy, hm⟩ := hm.step (Reached.single hs).listing hstep
    exact ⟨y, hx.trans hy.to_reflTransGen, hm⟩

/-- When the report returns, the errand is done and all tasks have come to an outcome. -/
theorem Mirrors.over {config : PoolConfig} {home : Path} {world : Machine}
    (hm : s.Mirrors run here policy x) (hs : SharedPool.Single config home world s.shared)
    {q : Pool Machine} {u : Thread Machine} {ids due late : List TaskId}
    {seen : List (Task Machine)} {answer : Except Failure Report}
    (hstep : SharedPool.ThreadStep s.shared s.thread q u ids (.joined due late seen answer)) :
    x.Over ∧ answer = s.pool.verdict := by
  obtain ⟨t, hthreads, htends⟩ := hs.tends
  obtain rfl : s.thread = t := List.singleton_inj.1 hthreads
  obtain ⟨hrest, -, hanswer⟩ := htends.joined hstep
  have hserves := hm.serves
  generalize hthread : s.thread = t at hstep hserves
  cases hstep with
  | join =>
  cases hserves with
  | @reading a he =>
  refine ⟨⟨⟨a, hm.errand_eq ▸ he⟩, fun u hu => ?_⟩, hanswer⟩
  obtain ⟨i, hi, rfl⟩ := List.mem_iff_getElem.1 hu
  have ht : s.pool.tasks[i]? = some _ := List.getElem?_eq_getElem (hm.length ▸ hi)
  rcases hrest i _ ht with hended | ⟨hs, _⟩
  · exact (hm.tasks i _ _ ht (List.getElem?_eq_getElem hi)).outcome?_of_ended hended
  · have hlisting := hm.listed i _ ht hs
    rw [hthread] at hlisting
    exact nomatch hlisting

theorem Reached.joined {config : PoolConfig} {m : Machine} {e : Errand α}
    (h : Reached run config m e s) {q : Pool Machine} {u : Thread Machine}
    {ids due late : List TaskId} {seen : List (Task Machine)} {answer : Except Failure Report}
    (hstep : SharedPool.ThreadStep s.shared s.thread q u ids (.joined due late seen answer)) :
    ∃ x, Ideal.Runs run m.here config.policy (Ideal.start m e) x ∧
      s.Mirrors run m.here config.policy x ∧ x.Over ∧ answer = s.pool.verdict := by
  obtain ⟨x, hx, hm⟩ := h.mirrors
  exact ⟨x, hx, hm, hm.over h.single hstep⟩

end Site

end NativeBuild
