import Mathlib.Data.List.Forall2
import NativeBuild.Proofs.Build.Outline

/-!
What the tasks of a build run.  A compilation makes the directory of its object and runs the compiler;
a linking runs the commands of its libraries in their order and then the linker, whatever the commands
come to.
-/

namespace NativeBuild

/-- How far a job gets by some acts, each of them done on some good machine. -/
inductive Chore.Trace (run : Runner) (good : Machine → Prop) (c : Chore) :
    List Act → Chore → Prop where
  | refl : Trace run good c [] c
  | act {acts : List Act} {a : Act} {next : Except Failure String → Chore} {m : Machine}
    (h : Trace run good c acts (.act a next)) (hm : good m) :
    Trace run good c (acts ++ [a]) (next (a.perform run m).2)

/-- What a library adds to the arguments of the linker.  A command that fails adds nothing, and neither
does a library for another operating system. -/
inductive Library.Adds (run : Runner) (good : Machine → Prop) (host : Platform) :
    Library → List String → Prop where
  | prebuilt (p : Path) : Adds run good host (.prebuilt p) [p.text]
  | linker {name : String} {platform : Option Platform} (h : platform = none ∨ platform = some host) :
    Adds run good host (.linker name platform) ["-l" ++ name]
  | elsewhere {name : String} {platform : Platform} (h : platform ≠ host) :
    Adds run good host (.linker name (some platform)) []
  | printed {words : List String} {c : Command} {m : Machine} {output : String}
    (hc : Command.ofWords? words = some c) (hm : good m) (h : (run c m).2 = .ok output) :
    Adds run good host (.config words) ((Text.words output.toList).map String.ofList)
  | failed {words : List String} {c : Command} {m : Machine} {e : Failure}
    (hc : Command.ofWords? words = some c) (hm : good m) (h : (run c m).2 = .error e) :
    Adds run good host (.config words) []
  | wordless : Adds run good host (.config []) []

variable {run : Runner} {good : Machine → Prop} {host : Platform}

namespace Chore

variable {c d : Chore} {acts : List Act} {a : Act} {next : Except Failure String → Chore}
  {result : Except Failure Unit}

/-- A job either has not begun, or it has done its first act. -/
theorem Trace.first (h : Trace run good c acts d) :
    acts = [] ∧ d = c ∨ ∃ a next m rest, c = .act a next ∧ good m ∧ acts = a :: rest ∧
      Trace run good (next (a.perform run m).2) rest d := by
  induction h with
  | refl => exact .inl ⟨rfl, rfl⟩
  | @act acts a next m h hm ih =>
    rcases ih with ⟨rfl, rfl⟩ | ⟨b, after, m', rest, rfl, hm', rfl, hrest⟩
    · exact .inr ⟨a, next, m, [], rfl, hm, rfl, .refl⟩
    · exact .inr ⟨b, after, m', rest ++ [a], rfl, hm', rfl, hrest.act hm⟩

theorem Trace.of_done (h : Trace run good (.done result) acts d) : acts = [] ∧ d = .done result := by
  rcases h.first with h | ⟨_, _, _, _, hc, _⟩
  · exact h
  · exact nomatch hc

theorem Trace.of_act (h : Trace run good (.act a next) acts (.done result)) :
    ∃ m rest, good m ∧ acts = a :: rest ∧
      Trace run good (next (a.perform run m).2) rest (.done result) := by
  rcases h.first with ⟨_, hc⟩ | ⟨b, after, m, rest, hc, hm, hacts, h⟩
  · exact nomatch hc
  · obtain ⟨rfl, rfl⟩ := Chore.act.inj hc
    exact ⟨m, rest, hm, hacts, h⟩

end Chore

/-- Running one command comes to what the command comes to. -/
theorem Command.result_of_trace {c : Command} {acts : List Act} {result : Except Failure Unit}
    (h : Chore.Trace run good c.chore acts (.done result)) :
    acts = [.command c] ∧ ∃ m, good m ∧ result = (run c m).2.map fun _ => () := by
  obtain ⟨m, rest, hm, rfl, hrest⟩ := h.of_act
  obtain ⟨rfl, hdone⟩ := hrest.of_done
  exact ⟨rfl, m, hm, Chore.done.inj hdone⟩

theorem Command.acts_of_trace {c : Command} {acts : List Act} {result : Except Failure Unit}
    (h : Chore.Trace run good c.chore acts (.done result)) : acts = [.command c] :=
  (Command.result_of_trace h).1

/-- A compilation runs the compiler, if it can make the directory of its object. -/
theorem Compilation.acts_of_trace {c : Compilation} {acts : List Act} {result : Except Failure Unit}
    (hmake : ∀ dir, c.object.above? = some dir → CanMake good dir)
    (h : Chore.Trace run good c.chore acts (.done result)) :
    acts = c.object.above?.toList.map Act.directory ++ [.command c.command] := by
  unfold Compilation.chore at h
  split at h
  · next hdir =>
    rw [hdir, Command.acts_of_trace h]
    rfl
  · next dir hdir =>
    obtain ⟨m, rest, hm, rfl, hrest⟩ := h.of_act
    rw [(hmake dir hdir).answer run hm] at hrest
    rw [hdir, Command.acts_of_trace hrest]
    rfl

theorem Compilation.of_object (toolchain : Toolchain) (dir : Path) (key : ObjectKey) :
    (Compilation.of toolchain dir key).object = dir.child key.objectName := by
  rw [Compilation.of]

theorem Compilation.of_command (toolchain : Toolchain) (dir : Path) (key : ObjectKey) :
    (Compilation.of toolchain dir key).command =
      ⟨toolchain.cxx, toolchain.compileArgs key.source (dir.child key.objectName) key.flags⟩ := by
  rw [Compilation.of]

namespace Library

/-- A library without a command adds the same on every machine. -/
theorem adds_of_none {l : Library} (h : l.command? = none) :
    l.Adds run good host (l.args host (.ok "")) := by
  cases l with
  | prebuilt p => exact .prebuilt p
  | linker name platform =>
    simp only [args]
    split
    · next hplatform => exact .linker hplatform
    · next hplatform =>
      rw [not_or] at hplatform
      cases platform with
      | none => exact absurd rfl hplatform.1
      | some platform => exact .elsewhere fun heq => hplatform.2 (congrArg some heq)
  | config words =>
    cases words with
    | nil => exact .wordless
    | cons program rest => exact nomatch h

theorem adds_of_some {l : Library} {c : Command} {m : Machine} (h : l.command? = some c)
    (hm : good m) : l.Adds run good host (l.args host (run c m).2) := by
  cases l with
  | prebuilt p => exact nomatch h
  | linker name platform => exact nomatch h
  | config words =>
    simp only [args]
    cases hprinted : (run c m).2 with
    | ok output => exact .printed h hm hprinted
    | error e => exact .failed h hm hprinted

end Library

namespace Linking

/-- The libraries' commands are run in their order, and what libraries add is put together in
theirs. -/
theorem acts_of_gather {next : List String → Chore} {libraries : List Library} {args : List String}
    {acts : List Act} {result : Except Failure Unit}
    (h : Chore.Trace run good (gather host next libraries args) acts (.done result)) :
    ∃ added rest, List.Forall₂ (Library.Adds run good host) libraries added ∧
      acts = (libraries.filterMap Library.command?).map Act.command ++ rest ∧
      Chore.Trace run good (next (args ++ added.flatten)) rest (.done result) := by
  -- A library without a command adds its arguments without an act; the others act first.
  induction libraries generalizing args acts with
  | nil => exact ⟨[], acts, .nil, rfl, by simpa [gather] using h⟩
  | cons l libraries ih =>
    unfold gather at h
    split at h
    · next hnone =>
      obtain ⟨added, rest, hadded, rfl, hrest⟩ := ih h
      refine ⟨_ :: added, rest, .cons (Library.adds_of_none hnone) hadded, ?_, ?_⟩
      · rw [List.filterMap_cons_none hnone]
      · rwa [List.flatten_cons, ← List.append_assoc]
    · next c hsome =>
      obtain ⟨m, acts', hm, rfl, hacts⟩ := h.of_act
      obtain ⟨added, rest, hadded, rfl, hrest⟩ := ih hacts
      refine ⟨_ :: added, rest, .cons (Library.adds_of_some hsome hm) hadded, ?_, ?_⟩
      · rw [List.filterMap_cons_some hsome]
        rfl
      · rwa [List.flatten_cons, ← List.append_assoc]

/-- A linking runs the commands of its libraries and then the linker. -/
theorem acts_of_trace {l : Linking} {inputs : List Path} {acts : List Act}
    {result : Except Failure Unit} (h : Chore.Trace run good (l.chore inputs) acts (.done result)) :
    ∃ added, List.Forall₂ (Library.Adds run good l.toolchain.platform) l.inputs.libraries added ∧
      acts = (l.inputs.libraries.filterMap Library.command?).map Act.command ++
        [.command (l.command inputs added.flatten)] := by
  obtain ⟨added, rest, hadded, rfl, hrest⟩ := acts_of_gather h
  exact ⟨added, hadded, by rw [Command.acts_of_trace hrest, List.nil_append]⟩

end Linking

end NativeBuild
