import NativeBuild.Proofs.Build.Trace
import NativeBuild.Proofs.Build.Transparent

/-!
A best-effort build goes as its errand plans it.  Wherever a run has come to, each task is one that
was planned, its job has been called with the outputs of the tasks that it names, and what it has done
so far is what that job does first.
-/

namespace NativeBuild

/-! ### What is passed on to tasks -/

/-- Whether a path is what a reference stands for: where the task that it names puts its output. -/
inductive PathRef.Names (parts : List Part) (layout : Layout) (here : Path) :
    PathRef → Path → Prop where
  | literal (p : Path) : Names parts layout here (.literal p) (p.absolute here)
  | task {i : TaskId} {part : Part} (h : parts[i]? = some part) :
    Names parts layout here (.task i) ((part.output layout here).absolute here)

section

variable (run : Runner) (good : Machine → Prop) (layout : Layout) (toolchain : Toolchain)
  (here : Path) (parts : List Part)

/-- How far a task may get with some acts, of which each was done on some good machine. -/
def Part.Gets (part : Part) (acts : List Act) (c : Chore) : Prop :=
  ∃ inputs,
    List.Forall₂ (PathRef.Names parts layout here) (part.spec layout toolchain here).inputs inputs ∧
    Chore.Trace run good (part.chore layout toolchain here inputs) acts c

/-- Whether a task goes as planned. -/
structure Duty.Follows (part : Part) (u : Duty) : Prop where
  spec : u.spec = part.spec layout toolchain here
  body : u.body = part.chore layout toolchain here
  progress : match u.progress with
    | .waiting => u.acts = []
    | .busy c => part.Gets run good layout toolchain here parts u.acts c
    | .ended o => o.path? = some (part.output layout here) ∧
      ∃ result, part.Gets run good layout toolchain here parts u.acts (.done result)

/-- Whether the tasks of a build are those that have been planned, and its errand will plan the
others. -/
structure Sheet.Follows {α : Type} (P : List Part → α → Prop) (s : Sheet α) : Prop where
  errand : s.errand.Plans run good layout toolchain here P parts
  length : parts.length = s.duties.length
  duties : ∀ (i : Nat) part u, parts[i]? = some part → s.duties[i]? = some u →
    u.Follows run good layout toolchain here parts part

end

variable {run : Runner} {good : Machine → Prop} {layout : Layout} {toolchain : Toolchain}
  {here : Path} {parts parts' : List Part} {part : Part} {u : Duty}

theorem PathRef.Names.mono {ref : PathRef} {p : Path} (h : ref.Names parts layout here p)
    (hp : parts <+: parts') : ref.Names parts' layout here p := by
  cases h with
  | literal p => exact .literal p
  | task hi => exact .task (getElem?_mono hp hi)

theorem Part.Gets.mono {acts : List Act} {c : Chore}
    (h : part.Gets run good layout toolchain here parts acts c) (hp : parts <+: parts') :
    part.Gets run good layout toolchain here parts' acts c := by
  obtain ⟨inputs, hinputs, htrace⟩ := h
  exact ⟨inputs, hinputs.imp fun _ _ h => h.mono hp, htrace⟩

namespace Duty

theorem Follows.mono (h : u.Follows run good layout toolchain here parts part)
    (hp : parts <+: parts') : u.Follows run good layout toolchain here parts' part := by
  refine ⟨h.spec, h.body, ?_⟩
  have hprogress := h.progress
  cases hu : u.progress with
  | waiting => simpa only [hu] using hprogress
  | busy c =>
    simp only [hu] at hprogress
    exact hprogress.mono hp
  | ended o =>
    simp only [hu] at hprogress
    obtain ⟨hpath, result, hgets⟩ := hprogress
    exact ⟨hpath, result, hgets.mono hp⟩

theorem follows_fresh : (Duty.fresh (part.spec layout toolchain here)
    (part.chore layout toolchain here)).Follows run good layout toolchain here parts part :=
  ⟨rfl, rfl, rfl⟩

/-- A task whose inputs are known is called with the outputs of the tasks that it names. -/
theorem Follows.start (h : u.Follows run good layout toolchain here parts part)
    (hu : u.progress = .waiting) {inputs : List Path}
    (hinputs : List.Forall₂ (PathRef.Names parts layout here) u.spec.inputs inputs) :
    (u.start (.ok inputs)).Follows run good layout toolchain here parts part := by
  have hacts := h.progress
  simp only [hu] at hacts
  refine ⟨h.spec, h.body, inputs, h.spec ▸ hinputs, ?_⟩
  show Chore.Trace run good _ u.acts (u.body inputs)
  rw [hacts, h.body]
  exact .refl

theorem Follows.act (h : u.Follows run good layout toolchain here parts part) {a : Act}
    {next : Except Failure String → Chore} (hu : u.progress = .busy (.act a next)) {m : Machine}
    (hm : good m) :
    (u.act a (next (a.perform run m).2)).Follows run good layout toolchain here parts part := by
  have hgets := h.progress
  simp only [hu] at hgets
  obtain ⟨inputs, hinputs, htrace⟩ := hgets
  exact ⟨h.spec, h.body, inputs, hinputs, htrace.act hm⟩

theorem Follows.finish (h : u.Follows run good layout toolchain here parts part)
    {result : Except Failure Unit} (hu : u.progress = .busy (.done result)) :
    (u.finish result).Follows run good layout toolchain here parts part := by
  have hgets := h.progress
  simp only [hu] at hgets
  have houtput : u.spec.output = some (part.output layout here) := by
    rw [h.spec, Part.spec_output]
  cases result with
  | ok _ => exact ⟨h.spec, h.body, houtput, _, hgets⟩
  | error e => exact ⟨h.spec, h.body, houtput, _, hgets⟩

end Duty

/-! ### Turns -/

namespace Sheet

variable {α : Type} {P : List Part → α → Prop} {s : Sheet α}

theorem Follows.getElem? (h : s.Follows run good layout toolchain here parts P) {i : TaskId}
    (hu : s.duties[i]? = some u) :
    ∃ part, parts[i]? = some part ∧ u.Follows run good layout toolchain here parts part := by
  have hi : i < parts.length := h.length ▸ (List.getElem?_eq_some_iff.1 hu).1
  exact ⟨_, List.getElem?_eq_getElem hi, h.duties i _ u (List.getElem?_eq_getElem hi) hu⟩

/-- In a best-effort build what a task passes on is where its output was to be, whatever has become of
the task. -/
theorem Follows.pathNow? (h : s.Follows run good layout toolchain here parts P) {ref : PathRef}
    {r : Except Failure Path} (hr : s.pathNow? here .bestEffort ref = some r) :
    ∃ p, r = .ok p ∧ ref.Names parts layout here p := by
  cases ref with
  | literal p => exact ⟨_, (Option.some.inj hr).symm, .literal p⟩
  | task k =>
    simp only [Sheet.pathNow?] at hr
    split at hr
    · next u hu =>
      obtain ⟨part, hpart, hfollows⟩ := h.getElem? hu
      have hprogress := hfollows.progress
      cases hp : u.progress with
      | waiting | busy _ => simp [Duty.outcome?, hp] at hr
      | ended o =>
        simp only [hp] at hprogress
        obtain rfl : o.resolve here .bestEffort u.spec.label = r := by
          simpa [Duty.outcome?, hp] using hr
        refine ⟨_, ?_, .task hpart⟩
        cases o with
        | completed output =>
          obtain rfl : output = _ := hprogress.1
          rfl
        | failed nominal message =>
          obtain rfl : nominal = _ := hprogress.1
          rfl
    · cases hr

theorem Follows.inputs? (h : s.Follows run good layout toolchain here parts P)
    {refs : List PathRef} {r : Except Failure (List Path)}
    (hr : s.inputs? here .bestEffort refs = some r) :
    ∃ inputs, r = .ok inputs ∧ List.Forall₂ (PathRef.Names parts layout here) refs inputs := by
  induction refs generalizing r with
  | nil => exact ⟨[], (Option.some.inj hr).symm, .nil⟩
  | cons ref rest ih =>
    simp only [Sheet.inputs?] at hr
    split at hr
    · cases hr
    · next hp =>
      -- No input is refused in a best-effort build.
      obtain ⟨_, he, _⟩ := h.pathNow? hp
      cases he
    · next hp =>
      obtain ⟨_, hpath, hnames⟩ := h.pathNow? hp
      cases hpath
      obtain ⟨r', hr', rfl⟩ := Option.map_eq_some_iff.1 hr
      obtain ⟨inputs, rfl, hinputs⟩ := ih hr'
      exact ⟨_ :: inputs, rfl, .cons hnames hinputs⟩

theorem Follows.setDuty (h : s.Follows run good layout toolchain here parts P) {i : TaskId}
    (hu : s.duties[i]? = some u) {v : Duty}
    (hv : ∀ part, u.Follows run good layout toolchain here parts part →
      v.Follows run good layout toolchain here parts part) :
    (s.setDuty i v).Follows run good layout toolchain here parts P where
  errand := h.errand
  length := h.length.trans List.length_set.symm
  duties j part w hpart hw := by
    rcases getElem?_set_cases hw with ⟨rfl, rfl⟩ | ⟨_, hw⟩
    · exact hv part (h.duties i part u hpart hu)
    · exact h.duties j part w hpart hw

/-- A task that is submitted is one that is planned. -/
theorem Follows.submit (h : s.Follows run good layout toolchain here parts P)
    {next : TaskId → Errand α}
    (hnext : (next parts.length).Plans run good layout toolchain here P (parts ++ [part])) :
    (s.submit (part.spec layout toolchain here) (part.chore layout toolchain here) next).Follows run
      good layout toolchain here (parts ++ [part]) P where
  errand := by
    show (next s.duties.length).Plans run good layout toolchain here P _
    rw [← h.length]
    exact hnext
  length := by simp [Sheet.submit, h.length]
  duties i part' v hpart hv := by
    have hprefix : parts <+: parts ++ [part] := List.prefix_append _ _
    rcases getElem?_concat_cases hv with hv | ⟨rfl, rfl⟩
    · have hi := (List.getElem?_eq_some_iff.1 hv).1
      rw [List.getElem?_append_left (h.length ▸ hi)] at hpart
      exact (h.duties i part' v hpart hv).mono hprefix
    · rw [← h.length, List.getElem?_concat_length] at hpart
      obtain rfl := Option.some.inj hpart
      exact Duty.follows_fresh

end Sheet

namespace Ideal

variable {α : Type} {P : List Part → α → Prop} {x y : Ideal α}

/-- A turn on a good machine keeps to the plan, to which it may add one more task. -/
theorem Step.follows (h : x.sheet.Follows run good layout toolchain here parts P) (hm : good x.world)
    (hstep : Step run here .bestEffort x y) :
    ∃ parts', parts <+: parts' ∧ y.sheet.Follows run good layout toolchain here parts' P := by
  have hplans := h.errand
  obtain ⟨ht⟩ := hstep
  -- Only the errand adds a part; what a task does stays within its own.
  cases Sheet.takes_of_turn? ht with
  | deed he =>
    rw [he] at hplans
    exact ⟨parts, List.prefix_rfl, hplans.2 _ hm, h.length, h.duties⟩
  | submit he =>
    rw [he] at hplans
    obtain ⟨part, rfl, rfl, hnext⟩ := hplans
    exact ⟨parts ++ [part], List.prefix_append _ _, h.submit hnext⟩
  | start hu hp hr =>
    obtain ⟨inputs, rfl, hinputs⟩ := h.inputs? hr
    exact ⟨parts, List.prefix_rfl, h.setDuty hu fun part hfollows => hfollows.start hp hinputs⟩
  | act hu hp =>
    exact ⟨parts, List.prefix_rfl, h.setDuty hu fun part hfollows => hfollows.act hp hm⟩
  | finish hu hp =>
    exact ⟨parts, List.prefix_rfl, h.setDuty hu fun part hfollows => hfollows.finish hp⟩

end Ideal

/-! ### Runs on good machines -/

namespace Site

variable {α : Type} {config : PoolConfig} {m : Machine} {e : Errand α} {P : List Part → α → Prop}
  {s : Site α}

/-- A run of steps, each of them taken on a good machine. -/
def RunsOn (run : Runner) (good : Machine → Prop) : Site α → Site α → Prop :=
  Relation.ReflTransGen fun s s' => Step run s s' ∧ good s.pool.world

theorem RunsOn.reached (h : RunsOn run good (start config m e) s) : Reached run config m e s :=
  Relation.ReflTransGen.mono (fun _ _ hstep => hstep.1) _ _ h

/-- A run on good machines keeps to the plan. -/
theorem RunsOn.follows (h : RunsOn run good (start config m e) s)
    (hpolicy : config.policy = .bestEffort)
    (he : e.Plans run good layout toolchain m.here P []) :
    ∃ x parts, s.Mirrors run m.here config.policy x ∧
      x.sheet.Follows run good layout toolchain m.here parts P := by
  induction h with
  | refl =>
    exact ⟨_, [], mirrors_start run config m e, he, rfl, fun i part u hpart _ => nomatch hpart⟩
  | tail hs hstep ih =>
    obtain ⟨x, parts, hmirrors, hfollows⟩ := ih
    obtain ⟨y, hy, hmirrors'⟩ := hmirrors.step (RunsOn.reached hs).single.listing hstep.1
    rw [hpolicy] at hy
    cases hy with
    | refl => exact ⟨x, parts, hmirrors', hfollows⟩
    | single hy =>
      have hworld : good x.world := hmirrors.world_eq ▸ hstep.2
      obtain ⟨parts', _, hfollows'⟩ := hy.follows hfollows hworld
      exact ⟨y, parts', hmirrors', hfollows'⟩

/-- The thread of a build starts no command. -/
theorem RunsOn.quiet (h : RunsOn run good (start config m e) s)
    (hpolicy : config.policy = .bestEffort)
    (he : e.Plans run good layout toolchain m.here P []) {d : Deed} {next : d.Answer → Errand α}
    (hd : s.errand = .deed d next) : d.IsQuiet := by
  obtain ⟨x, parts, hmirrors, hfollows⟩ := h.follows hpolicy he
  have hplans := hfollows.errand
  rw [← hmirrors.errand_eq, hd] at hplans
  exact hplans.1

/-- Where the report returns, everything that was planned has been done. -/
theorem RunsOn.returns (h : RunsOn run good (start config m e) s)
    (hpolicy : config.policy = .bestEffort)
    (he : e.Plans run good layout toolchain m.here P []) {answer : Except Failure Report}
    (hr : s.Returns answer) :
    ∃ parts a, s.errand = .done a ∧ P parts a ∧ s.pool.tasks.length = parts.length ∧
      (∀ (i : Nat) part, parts[i]? = some part → ∃ acts result,
        part.Gets run good layout toolchain m.here parts acts (.done result) ∧
          s.performed i = acts.map fun a => a.perform run) ∧
      ∀ i, parts.length ≤ i → s.performed i = [] := by
  obtain ⟨x, parts, hmirrors, hfollows⟩ := h.follows hpolicy he
  obtain ⟨q, u, ids, due, late, seen, hstep⟩ := hr
  obtain ⟨⟨⟨a, ha⟩, hended⟩, -⟩ := hmirrors.over h.reached.single hstep
  have hlength : s.pool.tasks.length = parts.length := hmirrors.length.trans hfollows.length.symm
  have hplans := hfollows.errand
  rw [ha] at hplans
  refine ⟨parts, a, hmirrors.errand_eq.trans ha, hplans, hlength, fun i part hpart => ?_,
    fun i hi => hmirrors.unused i (hlength ▸ hi)⟩
  have hi : i < x.sheet.duties.length := hfollows.length ▸ (List.getElem?_eq_some_iff.1 hpart).1
  have hduty := List.getElem?_eq_getElem hi
  obtain ⟨o, ho⟩ := hended _ (List.getElem_mem hi)
  have hprogress := (hfollows.duties i part _ hpart hduty).progress
  simp only [ho] at hprogress
  obtain ⟨-, result, hgets⟩ := hprogress
  refine ⟨_, result, hgets, ?_⟩
  rw [hmirrors.performed_eq, Ideal.acts, hduty]

end Site

end NativeBuild
