import NativeBuild.Proofs.Build.ObjectName
import NativeBuild.Proofs.Build.Planned
import NativeBuild.Proofs.Manifest.Tools

/-!
What a best-effort build runs: the compiler once for each source and flags that targets ask for, the
linker once for each target, the commands of libraries before it, and nothing else.  This holds in
either mode, with any number of permits and in every schedule, whatever becomes of the commands, as
long as the directories of outputs can be made.
-/

namespace NativeBuild

/-! ### What a task runs -/

section

theorem forall₂_comp {α β γ : Type} {R : α → β → Prop} {S : β → γ → Prop} {T : α → γ → Prop}
    (himp : ∀ a b c, R a b → S b c → T a c) {as : List α} {bs : List β} {cs : List γ}
    (h : List.Forall₂ R as bs) (h' : List.Forall₂ S bs cs) : List.Forall₂ T as cs := by
  induction h generalizing cs with
  | nil =>
    cases h'
    exact .nil
  | cons hr _ ih =>
    obtain _ | ⟨hs, h'⟩ := h'
    exact .cons (himp _ _ _ hr hs) (ih h')

variable {run : Runner} {good : Machine → Prop} {layout : Layout} {toolchain : Toolchain}
  {here : Path} {parts : List Part} {part : Part} {acts : List Act} {result : Except Failure Unit}

/-- What a task of a build does.  A compilation makes the directory of its object and runs the
compiler.  A linking runs the commands of its libraries in their order, and then the linker on the
objects of the sources, the artifacts of the targets that are linked, and what the libraries add. -/
inductive Part.Runs (run : Runner) (good : Machine → Prop) (layout : Layout) (toolchain : Toolchain)
    (here : Path) (parts : List Part) : Part → List Act → Prop where
  | compile (key : ObjectKey) : Runs run good layout toolchain here parts (.compile key)
      ((layout.objectDir.child key.objectName).above?.toList.map Act.directory ++
        [.command ⟨toolchain.cxx, toolchain.stdlibFlags ++ toolchain.baseFlags ++ key.flags ++
          ["-c", key.source.text, "-o", (layout.objectDir.child key.objectName).text]⟩])
  | link {f : Finding} {objects artifacts : List Path} {added : List (List String)}
      (hobjects : List.Forall₂ (fun file p => ∃ key ∈ keysOf parts,
        key.Same (.of here file f.target.sources.flags) ∧
          p = (layout.objectDir.child key.objectName).absolute here) f.files objects)
      (hartifacts : List.Forall₂ (fun name p => ∃ g ∈ findingsOf parts, g.target.name = name ∧
        p = (g.output layout here).absolute here) f.target.link artifacts)
      (hadded : List.Forall₂ (Library.Adds run good toolchain.platform) f.inputs.libraries added) :
    Runs run good layout toolchain here parts (.link f)
      ((f.inputs.libraries.filterMap Library.command?).map Act.command ++
        [.command ⟨toolchain.cxx, toolchain.baseFlags ++ toolchain.stdlibFlags ++
          f.target.kind.flags toolchain.platform ++
          ["-o", (f.output layout here).text, "-L" ++ layout.libDir.text] ++
          toolchain.platform.linkFlags layout.libDir ++ objects.map Path.text ++
          artifacts.map Path.text ++ added.flatten⟩])

theorem mem_keysOf {i : Nat} {key : ObjectKey} (h : parts[i]? = some (.compile key)) :
    key ∈ keysOf parts :=
  List.mem_filterMap.2 ⟨_, List.mem_of_getElem? h, rfl⟩

theorem mem_findingsOf {i : Nat} {f : Finding} (h : parts[i]? = some (.link f)) :
    f ∈ findingsOf parts :=
  List.mem_filterMap.2 ⟨_, List.mem_of_getElem? h, rfl⟩

theorem IsObject.exists_of_names {key : ObjectKey} {ref : PathRef} {p : Path}
    (h : IsObject parts key ref) (hp : ref.Names parts layout here p) :
    ∃ k ∈ keysOf parts, k.Same key ∧ p = (layout.objectDir.child k.objectName).absolute here := by
  obtain ⟨i, k, rfl, hk, hsame⟩ := h
  cases hp with
  | task hpart =>
    obtain rfl := Option.some.inj (hk.symm.trans hpart)
    exact ⟨k, mem_keysOf hk, hsame, rfl⟩

theorem IsArtifact.exists_of_names {g : Finding} {ref : PathRef} {p : Path}
    (h : IsArtifact parts g ref) (hp : ref.Names parts layout here p) :
    g ∈ findingsOf parts ∧ p = (g.output layout here).absolute here := by
  obtain ⟨i, rfl, hg⟩ := h
  cases hp with
  | task hpart =>
    obtain rfl := Option.some.inj (hg.symm.trans hpart)
    exact ⟨mem_findingsOf hg, rfl⟩

/-- A task that has got to its end has run what is to be run, if what it is linked from is sound. -/
theorem Part.Gets.runs (h : part.Gets run good layout toolchain here parts acts (.done result))
    (hmake : ∀ (key : ObjectKey) dir, (layout.objectDir.child key.objectName).above? = some dir →
      CanMake good dir)
    (hsound : ∀ f, part = .link f → f.Sound run good layout here parts) :
    part.Runs run good layout toolchain here parts acts := by
  obtain ⟨inputs, hinputs, htrace⟩ := h
  cases part with
  | compile key =>
    have hobject : ∀ dir, (Compilation.of toolchain layout.objectDir key).object.above? = some dir →
        CanMake good dir := by
      rw [Compilation.of_object]
      exact hmake key
    rw [Compilation.acts_of_trace hobject htrace, Compilation.of_object, Compilation.of_command]
    exact .compile key
  | link f =>
    obtain ⟨added, hadded, rfl⟩ := Linking.acts_of_trace htrace
    have hf := hsound f rfl
    -- The objects of sources come first; the command splits its inputs at their number.
    have hflip : List.Forall₂ (flip (PathRef.Names parts layout here)) inputs
        (f.inputs.sources ++ f.inputs.objects) := hinputs.flip
    have hsources := (List.forall₂_take_append _ _ _ hflip).flip
    have hobjects := (List.forall₂_drop_append _ _ _ hflip).flip
    refine .link (forall₂_comp ?_ hf.sources hsources) (forall₂_comp ?_ hf.objects hobjects) hadded
    · exact fun file ref p h hp => h.exists_of_names hp
    · rintro name ref p ⟨g, hname, hg⟩ hp
      obtain ⟨hmem, hpath⟩ := hg.exists_of_names hp
      exact ⟨g, hmem, hname, hpath⟩

/-! ### What a build runs -/

namespace Errand

/-- What is read of good machines, if they all answer the same, is what is read of one of them. -/
theorem Comes.eq_follow {α : Type} {e : Errand α} {a : α} (h : e.Comes run good a)
    (hreads : e.Reads fun d => d.Idle run good) {p : Pool Machine} (hp : good p.world) :
    a = (p.follow run e).2 := by
  have huses := hreads.uses (fun _ hd => hd) (fun _ hd => hd) hp
  generalize (p.follow run e).2 = b at huses
  induction h with
  | done a =>
    cases huses with
    | done h => exact h
  | deed hm _ ih =>
    cases huses with
    | deed _ hnext => exact ih (hreads.2 _) (hnext _ hm)

end Errand

namespace Site

variable {config : PoolConfig} {m : Machine} {manifest : Manifest} {declared : List DeclaredTarget}
  {s : Site (ObjectTable × Except DeclareError (List DeclaredTarget))}

/-- Whether just what a manifest asks for has been done, by the tasks `parts`. -/
structure Fulfils (run : Runner) (good : Machine → Prop) (layout : Layout) (toolchain : Toolchain)
    (here : Path) (manifest : Manifest) (parts : List Part) (declared : List DeclaredTarget)
    (s : Site (ObjectTable × Except DeclareError (List DeclaredTarget))) : Prop where
  /-- There is an entry for each target, and a task for each target and for each key. -/
  answered : ∃ table, s.errand = .done (table, .ok declared) ∧
    Outline run good layout here manifest.targets parts table declared
  /-- There are no other tasks. -/
  tasks : s.pool.tasks.length = parts.length
  /-- Each task has run its commands. -/
  runs : ∀ (i : Nat) part, parts[i]? = some part → ∃ acts,
    part.Runs run good layout toolchain here parts acts ∧
      s.performed i = acts.map fun a => a.perform run
  /-- Nothing was done on behalf of any other task. -/
  rest : ∀ i, parts.length ≤ i → s.performed i = []

/-- Where the report returns, just what the manifest asks for has been done. -/
theorem RunsOn.fulfils (hpolicy : config.policy = .bestEffort) (hcheck : manifest.check = .ok ())
    (hmake : ∀ dir, OutputDirectory layout m.here manifest.targets dir → CanMake good dir)
    (h : RunsOn run good
      (start config m (Errand.declare layout toolchain m.here ⟨[]⟩ manifest)) s)
    {answer : Except Failure Report} (hr : s.Returns answer) :
    ∃ parts declared, s.Fulfils run good layout toolchain m.here manifest parts declared := by
  obtain ⟨parts, ⟨table, made⟩, herrand, ⟨declared, hmade, houtline⟩, htasks, hruns, hrest⟩ :=
    h.returns hpolicy (Errand.plans_declare hmake hcheck) hr
  cases hmade
  refine ⟨parts, declared, ⟨table, herrand, houtline⟩, htasks, fun i part hpart => ?_, hrest⟩
  obtain ⟨acts, result, hgets, hperformed⟩ := hruns i part hpart
  refine ⟨acts, hgets.runs (fun key dir hdir => hmake dir (.object hdir)) ?_, hperformed⟩
  rintro f rfl
  exact houtline.sound f (mem_findingsOf hpart)

theorem Reached.runsOn {α : Type} {e : Errand α} {s : Site α}
    (hgood : ∀ s, Reached run config m e s → good s.pool.world) (h : Reached run config m e s) :
    RunsOn run good (start config m e) s := by
  induction h with
  | refl => exact .refl
  | tail hs hstep ih => exact ih.tail ⟨hstep, hgood _ hs⟩

end Site

end

namespace Build

/-- What a manifest is carried out like in a fresh build, as long as the machine is good. -/
structure CarriesOut (run : Runner) (good : Machine → Prop) (config : PoolConfig) (m : Machine)
    (layout : Layout) (base toolchain : Toolchain) (manifest : Manifest) : Prop where
  /-- Whatever the schedule is, the thread that declares the manifest starts no command. -/
  quiet : ∀ s, Site.RunsOn run good
      (.start config m (Errand.declare layout toolchain m.here ⟨[]⟩ manifest)) s →
    ∀ d next, s.errand = .deed d next → d.IsQuiet
  /-- Whatever the schedule is, just what the manifest asks for has been done in the end. -/
  fulfils : ∀ s answer, Site.RunsOn run good
      (.start config m (Errand.declare layout toolchain m.here ⟨[]⟩ manifest)) s →
    s.Returns answer →
    ∃ parts declared, s.Fulfils run good layout toolchain m.here manifest parts declared
  /-- No schedule gets stuck before its end. -/
  arrives : ∀ s, Site.Reached run config m (Errand.declare layout toolchain m.here ⟨[]⟩ manifest) s →
    s.Arrives run
  /-- The calls of the build return, and they are one of the schedules. -/
  returns : (∀ s, Site.Reached run config m
      (Errand.declare layout toolchain m.here ⟨[]⟩ manifest) s → good s.pool.world) →
    ∃ (b : Build) (s : Site _) (parts : List Part) (declared : List DeclaredTarget),
      (Build.start run m layout toolchain config).declare manifest = (b, .ok declared) ∧
      b.finish .outside = ({ b with pool := s.pool }, some s.pool.verdict) ∧
      Site.Reports run config m (Errand.declare layout toolchain m.here ⟨[]⟩ manifest) s
        s.pool.verdict ∧
      s.Fulfils run good layout toolchain m.here manifest parts declared
  /-- The base flags end with those of the manifest and then with its macros, by their names. -/
  flags : toolchain.baseFlags = base.baseFlags ++ manifest.toolchain.flags ++
      manifest.toolchain.defines.entries.map (fun e => Toolchain.defineFlag e.1 e.2) ∧
    manifest.toolchain.defines.entries.Pairwise fun a b => a.1 < b.1
  /-- A name is that of one target alone. -/
  names : (manifest.targets.map Manifest.Target.name).Nodup

/-- In either mode, with any number of permits and in every schedule, a best-effort build runs just
the commands that a manifest which passes its check asks for, if the directories of outputs can be
made. -/
theorem runs_declared {run : Runner} {good : Machine → Prop} {config : PoolConfig} {m : Machine}
    {layout : Layout} {base : Toolchain} {manifest : Manifest}
    (hpolicy : config.policy = .bestEffort) (hcheck : manifest.check = .ok ())
    (hmake : ∀ dir, OutputDirectory layout m.here manifest.targets dir → CanMake good dir) :
    CarriesOut run good config m layout base (manifest.toolchain.apply m.here layout.root base)
      manifest where
  quiet s hs d next hd := hs.quiet hpolicy (Errand.plans_declare hmake hcheck) hd
  fulfils s answer hs hr := hs.fulfils hpolicy hcheck hmake hr
  arrives s hs := hs.arrives (Errand.within_declare layout _ m.here manifest)
  returns hgood := by
    obtain ⟨s, hs, herrand, hjoin⟩ := Site.exists_reports
      (Errand.within_declare layout _ m.here manifest) run config m
    obtain ⟨parts, declared, hfulfils⟩ := (hs.1.runsOn hgood).fulfils hpolicy hcheck hmake hs.2
    obtain ⟨table, hdone, _⟩ := hfulfils.answered
    have hfollow := Errand.done.inj (herrand.symm.trans hdone)
    refine ⟨_, s, parts, declared, Prod.ext rfl ?_, ?_, hs, hfulfils⟩
    · rw [declare_eq]
      exact congrArg (fun r => r.2) hfollow
    · rw [declare_eq]
      exact finish_eq hjoin
  flags := ⟨congrArg Toolchain.baseFlags (Manifest.Tools.apply_eq _ _ _ _),
    manifest.toolchain.defines.sorted⟩
  names := Manifest.nodup_of_check hcheck

/-- The build of a project has such a toolchain. -/
example (run : Runner) (m : Machine) (settings : Settings) (root : Path) (manifest : Manifest)
    (config : PoolConfig) : Build.forProject run m settings root manifest config =
      .start run m (.ofRoot m.here settings root)
        (manifest.toolchain.apply m.here (Layout.ofRoot m.here settings root).root
          (.default m settings (.ofRoot m.here settings root) Platform.host)) config :=
  rfl

end Build

/-! ### Two targets with one source -/

namespace SharedSource

open TwoTargets (top tree layout toolchain)

/-- Commands that print nothing and change nothing. -/
def idler : Runner := fun _ m => (m, .ok "")

/-- A machine with a build directory. -/
def machine : Machine :=
  tree []

/-- The machine as it is for the whole build. -/
def Still (m : Machine) : Prop :=
  m = machine

/-- The source that both targets have, with its flags. -/
def sources : Manifest.Sources :=
  ⟨[], [⟨"x.cpp".toList⟩], "cpp", ["-O2"]⟩

def library : Manifest.Target :=
  ⟨"l", .sharedLibrary, ⟨"build/libl.so".toList⟩, sources, [], [], [], []⟩

/-- The program is linked with the library, and with one that the linker looks up. -/
def program : Manifest.Target :=
  ⟨"p", .executable, ⟨"build/p".toList⟩, sources, [], ["l"], [.linker "m" none], [["--version"]]⟩

def manifest : Manifest :=
  ⟨.none, [library, program]⟩

def config : PoolConfig :=
  ⟨2, .pooled, .bestEffort⟩

theorem makeDirectories_build : machine.makeDirectories (top "build") = (machine, .ok ()) := by
  cbv

theorem above?_object (key : ObjectKey) :
    ((top "build").child key.objectName).above? = some (top "build") :=
  key.above?_child rfl rfl

/-- All outputs go into the build directory. -/
theorem outputDirectory_eq {dir : Path}
    (h : OutputDirectory layout machine.here manifest.targets dir) : dir = top "build" := by
  cases h with
  | objects => rfl
  | object h => exact Option.some.inj (h.symm.trans (above?_object _))
  | artifact ht h =>
    rcases List.mem_cons.1 ht with rfl | ht
    · exact Option.some.inj h.symm
    · obtain rfl := List.mem_singleton.1 ht
      exact Option.some.inj h.symm

theorem canMake (dir : Path) (h : OutputDirectory layout machine.here manifest.targets dir) :
    CanMake Still dir := by
  rw [outputDirectory_eq h]
  rintro _ rfl
  rw [makeDirectories_build]

theorem idle_of_eq {d : Deed} (h : (d.perform idler machine).1 = machine) : d.Idle idler Still := by
  rintro _ rfl
  refine ⟨h, ?_⟩
  rintro _ rfl
  rfl

theorem idle_directory : (Deed.act (.directory (top "build"))).Idle idler Still :=
  idle_of_eq (by simp only [Deed.perform, Act.perform, ensureDirectory, makeDirectories_build])

theorem uses_command (c : Command) : c.chore.Uses idler Still fun d => d.Idle idler Still :=
  Command.uses_chore (idle_of_eq rfl)

theorem independent_idle : Deed.Independent idler Still fun d => d.Idle idler Still where
  closed d hd m hm := by
    rw [(hd m hm).1]
    exact hm
  commute d e hd he m hm := by
    refine .of_eq (by rw [(he m hm).1]) (by rw [(hd m hm).1]) ?_
    rw [(hd m hm).1, (he m hm).1, (hd m hm).1]

theorem uses_compilation (toolchain : Toolchain) (key : ObjectKey) :
    (Compilation.of toolchain (top "build") key).chore.Uses idler Still
      fun d => d.Idle idler Still := by
  unfold Compilation.chore
  rw [Compilation.of_object, above?_object]
  refine .act idle_directory fun m hm => ?_
  split
  · exact uses_command _
  · exact .done

theorem uses_linking (l : Linking) (inputs : List Path) :
    (l.chore inputs).Uses idler Still fun d => d.Idle idler Still := by
  unfold Linking.chore
  generalize l.inputs.libraries = libraries
  generalize ([] : List String) = args
  induction libraries generalizing args with
  | nil => exact uses_command _
  | cons library rest ih =>
    unfold Linking.gather
    split
    · exact ih _
    · exact .act (idle_of_eq rfl) fun m hm => ih _

/-- The pool that the build begins with. -/
def pool : Pool Machine :=
  .start config machine.here machine

theorem uses_target (toolchain : Toolchain) {t : Manifest.Target} (ht : t ∈ manifest.targets) :
    t.Uses idler Still (fun d => d.Idle idler Still) layout toolchain machine.here pool := by
  have hsources : t.sources = sources := by
    rcases List.mem_cons.1 ht with rfl | ht
    · rfl
    · rw [List.mem_singleton.1 ht]
      rfl
  refine ⟨fun dir hdir => ?_, fun source _ => uses_compilation toolchain _, fun dir hdir => ?_,
    fun inputs _ _ _ paths _ => uses_linking _ paths⟩
  · rw [hsources] at hdir
    exact nomatch hdir
  · rw [outputDirectory_eq (.artifact ht hdir)]
    exact idle_directory

/-- The toolchain of the build. -/
def tools : Toolchain :=
  manifest.toolchain.apply machine.here layout.root toolchain

/-- The machine stays as it is in every schedule. -/
theorem still {s : Site (ObjectTable × Except DeclareError (List DeclaredTarget))}
    (h : Site.Reached idler config machine (Errand.declare layout tools machine.here ⟨[]⟩ manifest)
      s) : Still s.pool.world := by
  obtain ⟨x, hx, hm⟩ := h.mirrors
  have huses : (Errand.declare layout tools machine.here ⟨[]⟩ manifest).Uses idler Still
      (fun d => d.Idle idler Still) fun _ => True :=
    Errand.uses_declare idle_directory (fun d hd => hd) (idle_of_eq rfl) (fun p => idle_of_eq rfl)
      (p := pool) rfl (fun t ht => uses_target tools ht) ⟨[]⟩
  have hstart : (Ideal.start machine (Errand.declare layout tools machine.here ⟨[]⟩ manifest)).Uses
      idler Still fun d => d.Idle idler Still := ⟨rfl, huses, fun u hu => nomatch hu⟩
  rw [hm.world_eq]
  exact (hstart.runs independent_idle hx).world

/-- The key of the one source. -/
def key : ObjectKey :=
  ⟨top "x.cpp", ["-O2"]⟩

theorem requests_eq {f : Finding} {parts : List Part} (hf : f.target ∈ manifest.targets)
    (h : f.Sound idler Still layout machine.here parts) : f.requests machine.here = [key] := by
  have hsources : f.target.sources = sources := by
    rcases List.mem_cons.1 hf with hf | hf
    · rw [hf]
      rfl
    · rw [List.mem_singleton.1 hf]
      rfl
  have hreads : (Errand.sources layout sources).Reads fun d => d.Idle idler Still :=
    Errand.reads_sources (idle_of_eq rfl) fun dir hdir => nomatch hdir
  have hfiles := h.files
  rw [hsources] at hfiles
  rw [Finding.requests, hfiles.eq_follow hreads (p := pool) rfl, hsources]
  rfl

theorem keysOf_eq {parts : List Part} {table : ObjectTable} {declared : List DeclaredTarget}
    (h : Outline idler Still layout machine.here manifest.targets parts table declared) :
    keysOf parts = [key] := by
  have hrequests : ∀ f ∈ findingsOf parts, f.requests machine.here = [key] := fun f hf =>
    requests_eq (h.targets ▸ List.mem_map_of_mem hf) (h.sound f hf)
  have hkey : ∀ k ∈ keysOf parts, k = key := by
    intro k hk
    obtain ⟨f, hf, hrequest⟩ := List.mem_flatMap.1 (h.keyed.first.subset hk)
    rw [hrequests f hf] at hrequest
    exact List.mem_singleton.1 hrequest
  obtain ⟨f, hf⟩ : ∃ f, f ∈ findingsOf parts := by
    refine List.exists_mem_of_ne_nil _ fun hnil => ?_
    have htargets := h.targets
    rw [hnil] at htargets
    exact nomatch htargets
  obtain ⟨k, hk, -⟩ := h.keyed.covered key
    (List.mem_flatMap.2 ⟨f, hf, hrequests f hf ▸ List.mem_singleton.2 rfl⟩)
  -- There is a key, all keys are this one, and no two of them are the same.
  have hdistinct := h.keyed.distinct
  match hkeys : keysOf parts with
  | [] => exact absurd (hkeys ▸ hk) List.not_mem_nil
  | [k] => rw [hkey k (hkeys ▸ List.mem_singleton.2 rfl)]
  | k :: k' :: rest =>
    rw [hkeys] at hdistinct hkey
    have hsame : k = k' := (hkey k (by simp)).trans (hkey k' (by simp)).symm
    exact absurd (hsame ▸ .refl k) (List.rel_of_pairwise_cons hdistinct List.mem_cons_self)

/-- The source is compiled once for both targets, and an entry is answered for each of them. -/
theorem runs_declared_sharedSource :
    manifest.check = .ok () ∧ config.policy = .bestEffort ∧
    (∀ dir, OutputDirectory layout machine.here manifest.targets dir → CanMake Still dir) ∧
    ∃ (b : Build) (s : Site _) (parts : List Part) (declared : List DeclaredTarget),
      (Build.start idler machine layout tools config).declare manifest = (b, .ok declared) ∧
      b.finish .outside = ({ b with pool := s.pool }, some s.pool.verdict) ∧
      Site.Reports idler config machine (Errand.declare layout tools machine.here ⟨[]⟩ manifest) s
        s.pool.verdict ∧
      s.Fulfils idler Still layout tools machine.here manifest parts declared ∧
      keysOf parts = [key] ∧ declared.map DeclaredTarget.name = ["l", "p"] := by
  have hcheck : manifest.check = .ok () := rfl
  have hcarries : Build.CarriesOut idler Still config machine layout toolchain tools manifest :=
    Build.runs_declared rfl hcheck canMake
  obtain ⟨b, s, parts, declared, hdeclare, hfinish, hreports, hfulfils⟩ :=
    hcarries.returns fun s hs => still hs
  obtain ⟨table, -, houtline⟩ := hfulfils.answered
  refine ⟨hcheck, rfl, canMake, b, s, parts, declared, hdeclare, hfinish, hreports, hfulfils,
    keysOf_eq houtline, ?_⟩
  exact houtline.map_name

end SharedSource

end NativeBuild
