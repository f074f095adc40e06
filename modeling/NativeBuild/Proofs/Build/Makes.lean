import NativeBuild.Proofs.Build.Planned

/-!
What the tasks of a build are there for.  Each of them compiles a source or links an artifact, and once
its job has been called it does what the job says, up to a command that is the last one: nothing else
that a task meets on the way keeps it from running that, but an object directory that cannot be made.
-/

namespace NativeBuild

/-! ### Jobs of a build -/

/-- A task of a build: the compilation of a source, or the linking of an artifact. -/
inductive Make where
  | compile (c : Compilation)
  | link (l : Linking)

namespace Make

/-- The task. -/
def spec : Make → TaskSpec
  | .compile c => c.spec
  | .link l => l.spec

/-- What it does, given the paths of its inputs. -/
def chore : Make → List Path → Chore
  | .compile c => fun _ => c.chore
  | .link l => l.chore

theorem exists_output (k : Make) : ∃ output, k.spec.output = some output := by
  cases k with
  | compile c => exact ⟨c.object, rfl⟩
  | link l => exact ⟨l.output, rfl⟩

/-- Whether a task is one of a build. -/
def Is (spec : TaskSpec) (body : List Path → Chore) : Prop :=
  ∃ k : Make, spec = k.spec ∧ body = k.chore

/-- How a task may have gone that was called with `inputs`: what it has done, each act on some good
machine, and its result.  A compilation has made the directory of its object and run the compiler, or
it could not make the directory; a linking has run the commands of its libraries and then the linker. -/
inductive Attempts (run : Runner) (good : Machine → Prop) (inputs : List Path) :
    Make → List Act → Except Failure Unit → Prop where
  | compile {c : Compilation} {m : Machine} (hm : good m) :
    Attempts run good inputs (.compile c)
      (c.object.above?.toList.map Act.directory ++ [.command c.command])
      ((run c.command m).2.map fun _ => ())
  | unmade {c : Compilation} {dir : Path} {m : Machine} {e : IoError}
    (hdir : c.object.above? = some dir) (hm : good m) (he : (m.makeDirectories dir).2 = .error e) :
    Attempts run good inputs (.compile c) [.directory dir] (.error (.io e))
  | link {l : Linking} {m : Machine} {added : List (List String)}
    (hadded : List.Forall₂ (Library.Adds run good l.toolchain.platform) l.inputs.libraries added)
    (hm : good m) :
    Attempts run good inputs (.link l)
      ((l.inputs.libraries.filterMap Library.command?).map Act.command ++
        [.command (l.command inputs added.flatten)])
      ((run (l.command inputs added.flatten) m).2.map fun _ => ())

end Make

section

variable {run : Runner} {good : Machine → Prop} {acts : List Act} {result : Except Failure Unit}
  {inputs : List Path}

theorem Compilation.attempts_of_trace {c : Compilation}
    (h : Chore.Trace run good c.chore acts (.done result)) :
    (Make.compile c).Attempts run good inputs acts result := by
  unfold Compilation.chore at h
  split at h
  · next hdir =>
    obtain ⟨rfl, m, hm, rfl⟩ := Command.result_of_trace h
    have hattempt : (Make.compile c).Attempts run good inputs _ _ := .compile hm
    rwa [hdir] at hattempt
  · next dir hdir =>
    obtain ⟨m, rest, hm, rfl, hrest⟩ := h.of_act
    have hmade : ((Act.directory dir).perform run m).2 = match (m.makeDirectories dir).2 with
        | .ok () => .ok ""
        | .error e => .error (.io e) := by
      simp only [Act.perform, ensureDirectory]
      cases m.makeDirectories dir with
      | mk m' made => cases made <;> rfl
    rw [hmade] at hrest
    cases he : (m.makeDirectories dir).2 with
    | ok _ =>
      rw [he] at hrest
      obtain ⟨rfl, m', hm', rfl⟩ := Command.result_of_trace hrest
      have hattempt : (Make.compile c).Attempts run good inputs _ _ := .compile hm'
      rwa [hdir] at hattempt
    | error e =>
      rw [he] at hrest
      obtain ⟨rfl, hdone⟩ := hrest.of_done
      obtain rfl := Chore.done.inj hdone
      exact .unmade hdir hm he

theorem Linking.attempts_of_trace {l : Linking}
    (h : Chore.Trace run good (l.chore inputs) acts (.done result)) :
    (Make.link l).Attempts run good inputs acts result := by
  obtain ⟨added, rest, hadded, rfl, hrest⟩ := Linking.acts_of_gather h
  obtain ⟨rfl, m, hm, rfl⟩ := Command.result_of_trace hrest
  exact .link hadded hm

theorem Make.attempts_of_trace {k : Make}
    (h : Chore.Trace run good (k.chore inputs) acts (.done result)) :
    k.Attempts run good inputs acts result := by
  cases k with
  | compile c => exact Compilation.attempts_of_trace h
  | link l => exact Linking.attempts_of_trace h

end

/-! ### Errands that submit tasks of a kind -/

namespace Errand

variable {α β : Type} {Q : TaskSpec → (List Path → Chore) → Prop}

/-- Whether an errand submits only tasks of a kind. -/
def Submits (Q : TaskSpec → (List Path → Chore) → Prop) : Errand α → Prop
  | .done _ => True
  | .deed _ next => ∀ answer, (next answer).Submits Q
  | .submit spec body next => Q spec body ∧ ∀ id, (next id).Submits Q

theorem Submits.bind {e : Errand α} {k : α → Errand β} (h : e.Submits Q) (hk : ∀ a, (k a).Submits Q) :
    (e.bind k).Submits Q := by
  induction e with
  | done a => exact hk a
  | deed d next ih => exact fun answer => ih answer (h answer)
  | submit spec body next ih => exact ⟨h.1, fun id => ih id (h.2 id)⟩

theorem Reads.submits {R : Deed → Prop} {e : Errand α} (h : e.Reads R) : e.Submits Q := by
  induction e with
  | done a => trivial
  | deed d next ih => exact fun answer => ih answer (h.2 answer)
  | submit spec body next ih => exact h.elim

variable {layout : Layout} {toolchain : Toolchain} {here : Path} {table : ObjectTable}
  {declared : List DeclaredTarget}

theorem submits_compile (source : Path) (flags : List String) :
    (compile layout toolchain here table source flags).Submits Make.Is := by
  simp only [compile]
  split
  · trivial
  · intro made
    cases made with
    | error e => trivial
    | ok _ => exact ⟨⟨.compile _, rfl, rfl⟩, fun _ => trivial⟩

theorem submits_compileAll (flags : List String) (files : List Path) :
    (compileAll layout toolchain here flags table files).Submits Make.Is := by
  induction files generalizing table with
  | nil => trivial
  | cons source rest ih =>
    refine (submits_compile source flags).bind fun made => ?_
    obtain ⟨table', made⟩ := made
    cases made with
    | error e => trivial
    | ok object => exact ih.bind fun _ => trivial

theorem submits_linkInputs (t : Manifest.Target) :
    (linkInputs layout toolchain here table declared t).Submits Make.Is := by
  have hsources : (sources layout t.sources).Reads fun _ => True :=
    reads_sources trivial fun _ _ _ _ => trivial
  refine hsources.submits.bind fun files => (submits_compileAll _ files).bind fun made => ?_
  obtain ⟨table', made⟩ := made
  cases made with
  | error e => trivial
  | ok sources =>
    have hlibraries : (libraries layout.librarySearchPaths t).Reads fun _ => True :=
      reads_libraries trivial (fun _ => trivial) _ t
    dsimp only
    split
    · trivial
    · exact hlibraries.submits.bind fun _ => trivial

theorem submits_target (kind : ArtifactKind) (output : Path) (inputs : LinkInputs) :
    (target layout toolchain here kind output inputs).Submits Make.Is := by
  simp only [target]
  split
  · exact ⟨⟨.link _, rfl, rfl⟩, fun _ => trivial⟩
  · intro made
    cases made with
    | error e => trivial
    | ok _ => exact ⟨⟨.link _, rfl, rfl⟩, fun _ => trivial⟩

theorem submits_declareFrom (targets : List Manifest.Target) :
    (declareFrom layout toolchain here table declared targets).Submits Make.Is := by
  induction targets generalizing table declared with
  | nil => trivial
  | cons t rest ih =>
    refine Submits.bind ?_ fun made => ?_
    · refine (submits_linkInputs t).bind fun found => ?_
      obtain ⟨table', found⟩ := found
      cases found with
      | error e => trivial
      | ok inputs =>
        refine (submits_target t.kind t.output inputs).bind fun made => ?_
        cases made <;> trivial
    · obtain ⟨table', made⟩ := made
      cases made with
      | error e => trivial
      | ok d => exact ih

/-- Declaring a manifest submits compilations and linkings, and nothing else. -/
theorem submits_declare (manifest : Manifest) :
    (declare layout toolchain here table manifest).Submits Make.Is := by
  unfold declare
  split
  · trivial
  · exact submits_declareFrom _

end Errand

/-! ### How far tasks have got -/

/-- The outcome of a task whose work has come to a result. -/
def TaskSpec.outcomeOf (spec : TaskSpec) : Except Failure Unit → Outcome
  | .ok () => .completed spec.output
  | .error e => .failed spec.output e.message

namespace Duty

variable {run : Runner} {good : Machine → Prop} {u : Duty}

/-- How a task that has ended got there: it has done what its job said when it was called, or it was
never called. -/
inductive Gone (run : Runner) (good : Machine → Prop) (u : Duty) (o : Outcome) : Prop where
  | called {inputs : List Path} {result : Except Failure Unit} (hc : u.calls = [inputs])
    (h : Chore.Trace run good (u.body inputs) u.acts (.done result)) (ho : o = u.spec.outcomeOf result)
  | refused (hc : u.calls = [])

/-- Whether a task has done so far what its job says, each act on some good machine. -/
def Goes (run : Runner) (good : Machine → Prop) (u : Duty) : Prop :=
  match u.progress with
  | .waiting => u.calls = [] ∧ u.acts = []
  | .busy c => ∃ inputs, u.calls = [inputs] ∧ Chore.Trace run good (u.body inputs) u.acts c
  | .ended o => u.Gone run good o

theorem goes_fresh (spec : TaskSpec) (body : List Path → Chore) :
    (fresh spec body).Goes run good :=
  ⟨rfl, rfl⟩

theorem Goes.start (h : u.Goes run good) (hu : u.progress = .waiting)
    (r : Except Failure (List Path)) : (u.start r).Goes run good := by
  simp only [Goes, hu] at h
  obtain ⟨hcalls, hacts⟩ := h
  cases r with
  | ok inputs =>
    refine ⟨inputs, by simp only [Duty.start, hcalls, List.nil_append], ?_⟩
    show Chore.Trace run good _ u.acts (u.body inputs)
    rw [hacts]
    exact .refl
  | error e => exact Gone.refused hcalls

theorem Goes.act (h : u.Goes run good) {a : Act} {next : Except Failure String → Chore}
    (hu : u.progress = .busy (.act a next)) {m : Machine} (hm : good m) :
    (u.act a (next (a.perform run m).2)).Goes run good := by
  simp only [Goes, hu] at h
  obtain ⟨inputs, hcalls, htrace⟩ := h
  exact ⟨inputs, hcalls, htrace.act hm⟩

theorem Goes.finish (h : u.Goes run good) {result : Except Failure Unit}
    (hu : u.progress = .busy (.done result)) : (u.finish result).Goes run good := by
  simp only [Goes, hu] at h
  obtain ⟨inputs, hcalls, htrace⟩ := h
  cases result with
  | ok _ => exact Gone.called hcalls htrace rfl
  | error e => exact Gone.called hcalls htrace rfl

end Duty

/-- Whether all tasks are of a kind, and will be, and have done so far what their jobs say. -/
structure Sheet.Goes {α : Type} (run : Runner) (good : Machine → Prop)
    (Q : TaskSpec → (List Path → Chore) → Prop) (s : Sheet α) : Prop where
  errand : s.errand.Submits Q
  kinds : ∀ u ∈ s.duties, Q u.spec u.body
  duties : ∀ u ∈ s.duties, u.Goes run good

namespace Sheet

variable {α : Type} {run : Runner} {good : Machine → Prop}
  {Q : TaskSpec → (List Path → Chore) → Prop} {s : Sheet α} {u v : Duty} {id : TaskId}

theorem Goes.setDuty (h : s.Goes run good Q) (hu : u ∈ s.duties) (hspec : v.spec = u.spec)
    (hbody : v.body = u.body) (hv : v.Goes run good) : (s.setDuty id v).Goes run good Q where
  errand := h.errand
  kinds w hw := by
    rcases List.mem_or_eq_of_mem_set hw with hw | rfl
    · exact h.kinds w hw
    · rw [hspec, hbody]
      exact h.kinds u hu
  duties w hw := by
    rcases List.mem_or_eq_of_mem_set hw with hw | rfl
    · exact h.duties w hw
    · exact hv

end Sheet

namespace Ideal

variable {α : Type} {run : Runner} {good : Machine → Prop}
  {Q : TaskSpec → (List Path → Chore) → Prop} {x y : Ideal α} {here : Path} {policy : Policy}

theorem Step.goes (h : x.sheet.Goes run good Q) (hm : good x.world)
    (hstep : Step run here policy x y) : y.sheet.Goes run good Q := by
  have herrand := h.errand
  obtain ⟨ht⟩ := hstep
  cases Sheet.takes_of_turn? ht with
  | deed he =>
    rw [he] at herrand
    exact ⟨herrand _, h.kinds, h.duties⟩
  | @submit spec body _ he =>
    rw [he] at herrand
    refine ⟨herrand.2 _, fun u hu => ?_, fun u hu => ?_⟩
    · rcases List.mem_append.1 hu with hu | hu
      · exact h.kinds u hu
      · rw [List.mem_singleton.1 hu]
        exact herrand.1
    · rcases List.mem_append.1 hu with hu | hu
      · exact h.duties u hu
      · rw [List.mem_singleton.1 hu]
        exact Duty.goes_fresh spec body
  | @start _ u r hu hp _ =>
    have hmem := List.mem_of_getElem? hu
    exact h.setDuty hmem (u.start_spec r) (by cases r <;> rfl) ((h.duties u hmem).start hp r)
  | @act _ u _ _ hu hp =>
    have hmem := List.mem_of_getElem? hu
    exact h.setDuty hmem rfl rfl ((h.duties u hmem).act hp hm)
  | @finish _ u result hu hp =>
    have hmem := List.mem_of_getElem? hu
    exact h.setDuty hmem (u.finish_spec result) (by cases result <;> rfl)
      ((h.duties u hmem).finish hp)

end Ideal

namespace Site

variable {α : Type} {run : Runner} {good : Machine → Prop} {config : PoolConfig} {m : Machine}
  {Q : TaskSpec → (List Path → Chore) → Prop} {e : Errand α} {s : Site α}

/-- On good machines the tasks do what their jobs say. -/
theorem RunsOn.goes (h : RunsOn run good (start config m e) s) (he : e.Submits Q) :
    ∃ x, s.Mirrors run m.here config.policy x ∧ x.sheet.Goes run good Q := by
  induction h with
  | refl =>
    exact ⟨_, mirrors_start run config m e, he, fun u hu => (nomatch hu), fun u hu => nomatch hu⟩
  | tail hs hstep ih =>
    obtain ⟨x, hmirrors, hgoes⟩ := ih
    obtain ⟨y, hy, hmirrors'⟩ := hmirrors.step (RunsOn.reached hs).single.listing hstep.1
    cases hy with
    | refl => exact ⟨x, hmirrors', hgoes⟩
    | single hy => exact ⟨y, hmirrors', hy.goes hgoes (hmirrors.world_eq ▸ hstep.2)⟩

end Site

end NativeBuild
