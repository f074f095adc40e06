import NativeBuild.Proofs.Build.Arrive
import NativeBuild.Proofs.Build.Beside

/-!
Two sites in lockstep.  A declaration and its tasks go the same way from two directories in every
schedule: whatever step the one site makes, the other one can make too, and they stay alike in all but
their machines.
-/

namespace NativeBuild

/-- Whether a deed is answered the same on two machines, and leaves machines that `R` relates. -/
def Deed.Agrees (run : Runner) (R : Machine → Machine → Prop) (d : Deed) (m m' : Machine) : Prop :=
  R (d.perform run m).1 (d.perform run m').1 ∧ (d.perform run m).2 = (d.perform run m').2

/-- Whether a declaration finds the same on all machines that `R` relates, the one in the directory `here`
and the other in `here'`. -/
structure Build.Outlook (b : Build) (manifest : Manifest) (here here' : Path)
    (R : Machine → Machine → Prop) : Prop where
  directories : ∀ m m', R m m' → m.here = here ∧ m'.here = here'
  /-- What is not bound to the current directory is the same from both. -/
  declaration : ∀ m m', R m m' → ∀ d : Deed,
    d.OfDeclaration b.layout manifest → d.Agrees b.run R m m'
  /-- Nothing is found under a relative name. -/
  strays : ∀ m m', R m m' → ∀ p p', manifest.Strays here here' p p' →
    m.has p = false ∧ m'.has p' = false

/-- Whether the tasks act the same on all machines that `R` relates. -/
def Build.TasksAgree (b : Build) (manifest : Manifest) (R : Machine → Machine → Prop) : Prop :=
  ∀ m m', R m m' → ∀ a : Act, a.OfTasks b.layout b.toolchain manifest →
    (Deed.act a).Agrees b.run R m m'

section

variable {b : Build} {manifest : Manifest} {here here' : Path} {R : Machine → Machine → Prop}
  {p q : Pool Machine}

theorem Chore.Only.respects (htasks : b.TasksAgree manifest R) {c : Chore}
    (h : c.Only (Act.OfTasks b.layout b.toolchain manifest)) : (c.job b.run).Respects R := by
  induction h with
  | done => trivial
  | act ha _ ih => exact ⟨fun m m' hm => htasks m m' hm _ ha, ih⟩

namespace Pool

theorem Beside.setWorld (h : p.Beside R q) {m m' : Machine} (hm : R m m') :
    Beside R { p with world := m } { q with world := m' } := by
  obtain ⟨_⟩ := h
  exact ⟨hm⟩

theorem Beside.threadStep (h : p.Beside R q) (hp : p.Respects R) {α : Type} {e : Errand α}
    {t u : Thread Machine} (ht : t.Serves e) {returned ids : List TaskId} {event : Event Machine}
    {p' : Pool Machine}
    (hstep : SharedPool.ThreadStep (SharedPool.alone p t returned) t p' u ids event) :
    ∃ q' event', SharedPool.ThreadStep (SharedPool.alone q t returned) t q' u ids event' ∧
      p'.Beside R q' ∧ p'.Respects R := by
  cases hstep with
  -- These calls are none of a thread that serves an errand.
  | act | enlist | refuseIdle _ | beginIdle _ | panic _ | idle _ => exact nomatch ht
  | spawn hm =>
    refine ⟨_, _, .spawn ?_, h.spawn _, hp.spawn _⟩
    obtain ⟨_⟩ := h
    exact hm
  | track hm =>
    refine ⟨_, _, .track ?_, h.track _, hp⟩
    obtain ⟨_⟩ := h
    exact hm
  | conclude hm he =>
    obtain ⟨hworld⟩ := h
    exact ⟨_, _, .conclude hm he, ⟨hworld⟩, hp⟩
  | unwind hm he =>
    obtain ⟨hworld⟩ := h
    exact ⟨_, _, .unwind hm he, ⟨hworld⟩, hp⟩
  | refuseJoin he => exact ⟨_, _, .refuseJoin he, h, hp⟩
  | beginJoin he => exact ⟨_, _, .beginJoin he, h, hp⟩
  | pass he =>
    obtain ⟨hworld⟩ := h
    exact ⟨_, _, .pass he, ⟨hworld⟩, hp⟩
  | take hr =>
    obtain ⟨hworld⟩ := h
    exact ⟨_, _, .take hr, ⟨hworld⟩, hp⟩
  | read hr =>
    obtain ⟨hworld⟩ := h
    exact ⟨_, _, .read hr, ⟨hworld⟩, hp⟩
  | look hlt hu =>
    obtain ⟨hworld⟩ := h
    exact ⟨_, _, .look hlt hu, ⟨hworld⟩, hp⟩
  | join =>
    obtain ⟨hworld⟩ := h
    exact ⟨_, _, .join, ⟨hworld⟩, hp⟩

end Pool

namespace Site

variable {α : Type} {P : α → Prop} {s s' t : Site α}

/-- Whether two sites are alike in all but their machines, and both in the midst of one declaration. -/
structure Beside (b : Build) (manifest : Manifest) (here here' : Path) (R : Machine → Machine → Prop)
    (P : α → Prop) (s s' : Site α) : Prop where
  pool : s.pool.Beside R s'.pool
  respects : s.pool.Respects R
  errand : s.errand.Beside b.layout b.toolchain manifest here here' P s'.errand
  thread : s'.thread = s.thread
  returned : s'.returned = s.returned
  log : s'.log = s.log

theorem Beside.task (h : s.Beside b manifest here here' R P s') {i : TaskId} {q : Pool Machine}
    (hstep : s.pool.step? i = some q) :
    ∃ t', Step b.run s' t' ∧ (s.goOn i q).Beside b manifest here here' R P t' := by
  obtain ⟨t, ht, hkind⟩ := Pool.taskStep_of_step? hstep
  have hrel := h.pool.step? h.respects i
  rw [hstep] at hrel
  cases hq : s'.pool.step? i with
  | none => rw [hq] at hrel; cases hrel
  | some q' =>
    rw [hq] at hrel
    cases hrel with
    | some hbeside =>
      have htasks := h.pool.tasks_eq
      refine ⟨_, .task hq, hbeside, hkind.respects ht h.respects, h.errand, h.thread, ?_, ?_⟩
      · simp only [goOn, h.returned, SharedPool.returning, htasks]
      · simp only [goOn, h.log, Pool.acting, htasks]

/-- Whatever deed comes next, both sites do it, and are answered the same or find nothing. -/
theorem Beside.deed (hout : b.Outlook manifest here here' R)
    (h : s.Beside b manifest here here' R P s') {d : Deed} {next : d.Answer → Errand α}
    (ht : s.thread = .free .stop) (he : s.errand = .deed d next) :
    ∃ t', Step b.run s' t' ∧ Beside b manifest here here' R P { s with
      pool := { s.pool with world := (d.perform b.run s.pool.world).1 }
      errand := next (d.perform b.run s.pool.world).2 } t' := by
  have ht' := h.thread.trans ht
  have herrand := h.errand
  rw [he] at herrand
  generalize he' : s'.errand = e' at herrand
  cases herrand with
  | deed hd hnext =>
    obtain ⟨hkeep, hanswer⟩ := hout.declaration _ _ h.pool.world d hd
    refine ⟨_, .deed ht' he', h.pool.setWorld hkeep, h.respects, ?_, h.thread, h.returned, h.log⟩
    simp only [← hanswer]
    exact hnext _ (d.sound_perform b.run s.pool.world)
  | here hnext =>
    obtain ⟨hp, hq⟩ := hout.directories _ _ h.pool.world
    refine ⟨_, .deed ht' he', h.pool, h.respects, ?_, h.thread, h.returned, h.log⟩
    rw [← hp, ← hq] at hnext ⊢
    exact hnext
  | stray hstray hnext =>
    obtain ⟨hp, hq⟩ := hout.strays _ _ h.pool.world _ _ hstray
    refine ⟨_, .deed ht' he', h.pool, h.respects, ?_, h.thread, h.returned, h.log⟩
    simp only [Deed.perform, hp, hq]
    exact hnext

theorem Beside.submit (htasks : b.TasksAgree manifest R) (h : s.Beside b manifest here here' R P s')
    {spec : TaskSpec} {body : List Path → Chore} {next : TaskId → Errand α}
    (ht : s.thread = .free .stop) (he : s.errand = .submit spec body next) :
    ∃ t', Step b.run s' t' ∧ Beside b manifest here here' R P { s with
      pool := (s.pool.enlist (Task.fresh spec fun inputs => (body inputs).job b.run)).1
      thread := .listed .outside s.pool.tasks.length fun _ => .stop
      errand := next s.pool.tasks.length } t' := by
  have herrand := h.errand
  rw [he] at herrand
  generalize he' : s'.errand = e' at herrand
  cases herrand with
  | submit hspec hbody hnext =>
    have hlength : s'.pool.tasks.length = s.pool.tasks.length := by rw [h.pool.tasks_eq]
    refine ⟨_, .submit (h.thread.trans ht) he', h.pool.enlist _,
      h.respects.enlist hspec fun inputs => (hbody inputs).respects htasks, ?_, ?_, h.returned, h.log⟩
    · simp only [hlength]
      exact hnext _
    · simp only [hlength]

/-- Whatever step the one site makes, the other one makes too. -/
theorem Beside.step (hout : b.Outlook manifest here here' R) (htasks : b.TasksAgree manifest R)
    (h : s.Beside b manifest here here' R P s') (hserves : s.thread.Serves s.errand)
    (hstep : Step b.run s t) :
    ∃ t', Step b.run s' t' ∧ t.Beside b manifest here here' R P t' := by
  cases hstep with
  | task hstep => exact h.task hstep
  | @thread u q ids event hstep =>
    obtain ⟨q', event', hstep', hbeside, hrespects⟩ :=
      h.pool.threadStep h.respects hserves hstep
    rw [← h.thread, ← h.returned] at hstep'
    refine ⟨_, .thread hstep', hbeside, hrespects, h.errand, rfl, ?_, h.log⟩
    rw [h.returned]
  | deed ht he => exact h.deed hout ht he
  | submit ht he => exact h.submit htasks ht he
  | report ht he =>
    have herrand := h.errand
    rw [he] at herrand
    generalize he' : s'.errand = e' at herrand
    cases herrand with
    | done hP =>
      refine ⟨_, .report (h.thread.trans ht) he', h.pool, h.respects, ?_, rfl, h.returned, h.log⟩
      rw [he, he']
      exact .done hP

/-- Every schedule of the one site is one of the other. -/
theorem Reached.lockstep {config : PoolConfig} {m m' : Machine} {e e' : Errand α}
    {Q : Nat → α → Prop} (hout : b.Outlook manifest here here' R) (htasks : b.TasksAgree manifest R)
    (he : e.Beside b.layout b.toolchain manifest here here' P e') (hw : e.Within Q 0) (hm : R m m')
    (h : Reached b.run config m e s) :
    ∃ s', Reached b.run config m' e' s' ∧ s.Beside b manifest here here' R P s' := by
  induction h with
  | refl => exact ⟨start config m' e', .refl, ⟨hm⟩, .start config m.here m, he, rfl, rfl, rfl⟩
  | tail hr hstep ih =>
    obtain ⟨s', hs', hbeside⟩ := ih
    obtain ⟨t', hstep', hbeside'⟩ := hbeside.step hout htasks (Reached.sound hw hr).serves hstep
    exact ⟨t', hs'.tail hstep', hbeside'⟩

end Site

end

end NativeBuild
