import Mathlib
import NativeBuild.Proofs.Build.Arrive
import NativeBuild.Proofs.Build.Races
import NativeBuild.Proofs.Pool.Complete

/-!
A build without races comes to the same in every schedule, in either mode and with any number of
permits: the same targets are declared, every task runs the same commands and comes to the same
outcome, and the report says the same.  With races it does not: what a declaration finds depends on how
far the tasks are.
-/

namespace NativeBuild

/-! ### What does not depend on the schedule -/

namespace Duty

variable {α : Type} {run : Runner} {here : Path} {policy : Policy} {s : Sheet α}
  {effects : List Effect} {t : Task Machine} {u : Duty}

/-- The fate of a task that has come to an outcome. -/
def fate? (u : Duty) : Option Fate :=
  u.outcome?.map fun o => ⟨u.spec.label, o, u.calls⟩

theorem Mirrors.fate? (h : u.Mirrors run here policy s effects t) : t.fate? = u.fate? := by
  rw [Task.fate?, Duty.fate?, h.outcome?, h.spec, h.calls]

end Duty

namespace Ideal

variable {α : Type} {x : Ideal α}

/-- What a task has done so far. -/
def acts (x : Ideal α) (i : TaskId) : List Act :=
  match x.sheet.duties[i]? with
  | some u => u.acts
  | none => []

/-- When everything is over, all tasks have met their fates. -/
theorem Over.map_fate? (h : x.Over) :
    x.sheet.duties.map Duty.fate? = (x.sheet.duties.filterMap Duty.fate?).map some := by
  have hsome : ∀ u ∈ x.sheet.duties, ∃ f, u.fate? = some f := by
    intro u hu
    obtain ⟨o, ho⟩ := h.duties u hu
    exact ⟨_, by rw [Duty.fate?, Duty.outcome?, ho]; rfl⟩
  generalize x.sheet.duties = duties at hsome
  induction duties with
  | nil => rfl
  | cons u rest ih =>
    obtain ⟨f, hf⟩ := hsome u List.mem_cons_self
    rw [List.map_cons, List.filterMap_cons, hf, ih fun v hv => hsome v (List.mem_cons_of_mem _ hv)]
    rfl

end Ideal

namespace Site

variable {α : Type} {run : Runner} {here : Path} {policy : Policy} {s : Site α} {x : Ideal α}

theorem Mirrors.map_fate? (h : s.Mirrors run here policy x) :
    s.pool.tasks.map Task.fate? = x.sheet.duties.map Duty.fate? := by
  refine List.ext_getElem (by simp [h.length]) fun i hi hi' => ?_
  rw [List.length_map] at hi hi'
  rw [List.getElem_map, List.getElem_map]
  exact (h.tasks i _ _ (List.getElem?_eq_getElem hi) (List.getElem?_eq_getElem hi')).fate?

theorem Mirrors.performed_eq (h : s.Mirrors run here policy x) (i : TaskId) :
    s.performed i = (x.acts i).map fun a => a.perform run := by
  unfold Ideal.acts
  cases hu : x.sheet.duties[i]? with
  | none => exact h.unused i (h.length ▸ List.getElem?_eq_none_iff.1 hu)
  | some u =>
    have hi : i < s.pool.tasks.length := h.length ▸ (List.getElem?_eq_some_iff.1 hu).1
    exact (h.tasks i _ u (List.getElem?_eq_getElem hi) hu).effects

/-- What a site has come to where its report returns is what a build has come to, without races, in
which everything is over. -/
theorem Reports.determined {config : PoolConfig} {m : Machine} {e : Errand α}
    (hrace : (Ideal.start m e).RaceFree run m.here config.policy)
    (hx : Ideal.Runs run m.here config.policy (Ideal.start m e) x) (hover : x.Over)
    {answer : Except Failure Report} (h : s.Reports run config m e answer) :
    s.errand = x.sheet.errand ∧
      s.pool.tasks.map Task.fate? = (x.sheet.duties.filterMap Duty.fate?).map some ∧
      (∀ i, s.performed i = (x.acts i).map fun a => a.perform run) ∧
      answer = Fate.verdict config.policy (x.sheet.duties.filterMap Duty.fate?) ∧
      Machine.Alike run x.world s.pool.world := by
  obtain ⟨hs, q, u, ids, due, late, seen, hstep⟩ := h
  obtain ⟨y, hy, hm, hovery, rfl⟩ := hs.joined hstep
  have halike := hrace.final_alike hy hx hovery.final hover.final
  have hfates : s.pool.tasks.map Task.fate? = (x.sheet.duties.filterMap Duty.fate?).map some := by
    rw [hm.map_fate?, ← halike.sheet, hover.map_fate?]
  have hacts (i : TaskId) : y.acts i = x.acts i := by rw [Ideal.acts, Ideal.acts, halike.sheet]
  refine ⟨by rw [hm.errand_eq, halike.sheet], hfates, fun i => ?_, ?_, ?_⟩
  · rw [hm.performed_eq, hacts]
  · rw [← hm.policy_eq]
    exact Pool.verdict_eq hfates
  · rw [hm.world_eq]
    exact halike.world

end Site

namespace Build

theorem finish_eq {b : Build} {caller : Caller} {q : Pool Machine}
    {answer : Option (Except Failure Report)} (h : b.pool.joinAll caller = (q, answer)) :
    b.finish caller = ({ b with pool := q }, answer) := by
  rw [finish, h]

/-- What declaring a manifest in a fresh build and finishing it comes to: what is declared, the fates of
the tasks, what each of them does, and the machine in the end, up to what can be told of it. -/
structure ComesTo (run : Runner) (config : PoolConfig) (m : Machine) (layout : Layout)
    (toolchain : Toolchain) (manifest : Manifest)
    (result : Except DeclareError (List DeclaredTarget)) (fates : List Fate)
    (acts : TaskId → List Act) (final : Machine) : Prop where
  /-- The calls of the build return, and they are one of the schedules. -/
  returns : ∃ b s, (Build.start run m layout toolchain config).declare manifest = (b, result) ∧
    b.finish .outside = ({ b with pool := s.pool }, some (Fate.verdict config.policy fates)) ∧
    Site.Reports run config m (Errand.declare layout toolchain m.here ⟨[]⟩ manifest) s
      (Fate.verdict config.policy fates)
  /-- No schedule gets stuck before the report. -/
  arrives : ∀ s, Site.Reached run config m (Errand.declare layout toolchain m.here ⟨[]⟩ manifest) s →
    Site.Arrives run s
  /-- Every schedule comes to the same. -/
  reports : ∀ s answer,
    Site.Reports run config m (Errand.declare layout toolchain m.here ⟨[]⟩ manifest) s answer →
    (∃ table, s.errand = .done (table, result)) ∧
      s.pool.tasks.map Task.fate? = fates.map some ∧
      (∀ i, s.performed i = (acts i).map fun a => a.perform run) ∧
      answer = Fate.verdict config.policy fates ∧ Machine.Alike run final s.pool.world

/-- Declaring a manifest in a fresh build and finishing it comes to the same in either mode, with any
number of permits and in every schedule, unless deeds race. -/
theorem transparent {run : Runner} {m : Machine} {layout : Layout} {toolchain : Toolchain}
    {policy : Policy} {manifest : Manifest}
    (h : (Ideal.start m (Errand.declare layout toolchain m.here ⟨[]⟩ manifest)).RaceFree run m.here
      policy) :
    ∃ result fates acts final, ∀ config : PoolConfig, config.policy = policy →
      ComesTo run config m layout toolchain manifest result fates acts final := by
  have hwithin := Errand.within_declare layout toolchain m.here manifest
  -- Some schedule comes to an end, and what that end is decides for all of them.
  obtain ⟨s₀, ⟨hreached, q, u, ids, due, late, seen, hjoined⟩, herrand₀, _⟩ :=
    Site.exists_reports hwithin run ⟨1, .inline, policy⟩ m
  obtain ⟨x, hx, hm, hover, _⟩ := hreached.joined hjoined
  obtain ⟨table, result, hresult⟩ : ∃ table result, x.sheet.errand = .done (table, result) :=
    ⟨_, _, hm.errand_eq.symm.trans herrand₀⟩
  refine ⟨result, x.sheet.duties.filterMap Duty.fate?, x.acts, x.world, fun config hpolicy => ?_⟩
  subst hpolicy
  refine ⟨?_, fun s hs => hs.arrives hwithin, fun s answer hs => ?_⟩
  · obtain ⟨s, hs, herrand, hjoin⟩ := Site.exists_reports hwithin run config m
    obtain ⟨herrands, _, _, hanswer, _⟩ := hs.determined h hx hover
    have hfollow : ((Pool.start config m.here m).follow run
        (Errand.declare layout toolchain m.here ⟨[]⟩ manifest)).2 = (table, result) :=
      Errand.done.inj (herrand.symm.trans (herrands.trans hresult))
    rw [hanswer] at hs hjoin
    refine ⟨_, s, Prod.ext rfl ?_, ?_, hs⟩
    · rw [declare_eq]
      exact congrArg (fun r => r.2) hfollow
    · rw [declare_eq]
      exact finish_eq hjoin
  · obtain ⟨herrands, hfates, hacts, hanswer, halike⟩ := hs.determined h hx hover
    exact ⟨⟨table, herrands.trans hresult⟩, hfates, hacts, hanswer, halike⟩

end Build

/-! ### A library, and a program that is linked with it by its name -/

namespace TwoTargets

/-- The argument that comes after the word `-o`. -/
def outputOf? : List String → Option String
  | word :: output :: rest => if word = "-o" then some output else outputOf? (output :: rest)
  | _ => none

/-- What is in a file that holds a text. -/
def bytes (text : String) : List UInt8 :=
  Text.encode text.toList

/-- A linker that writes its last argument into its output. -/
def recorder : Runner := fun c m =>
  match outputOf? c.args with
  | some output =>
    let written := Entry.file (bytes (c.args.getLastD "")) false
    ({ m with files := m.files.put (Machine.placeOf output) written }, .ok "")
  | none => (m, .ok "")

/-- A path below the root. -/
def top (name : String) : Path :=
  ⟨'/' :: name.toList⟩

/-- The layout of a project at the root, in which objects go into the build directory. -/
def layout : Layout :=
  ⟨top "", top "src", top "build", top "build", top "gen", top "include", top "bin", top "lib"⟩

/-- A toolchain without base flags. -/
def toolchain : Toolchain :=
  ⟨⟨"cc".toList⟩, ⟨"c++".toList⟩, .linux, []⟩

/-- A machine whose build directory holds these files. -/
def tree (artifacts : List (String × List UInt8)) : Machine where
  files :=
    { entries := (["build".toList], .directory) ::
        artifacts.map fun a => (["build".toList, a.1.toList], .file a.2 false) }
  here := top ""
  env := []

/-- The target `a` is a library. -/
def targetA : Manifest.Target :=
  ⟨"a", .sharedLibrary, ⟨"build/liba.so".toList⟩, .none, [], [], [], []⟩

/-- The target `b` is a program.  It does not link the target `a`, but a prebuilt object of that
name. -/
def targetB : Manifest.Target :=
  ⟨"b", .executable, ⟨"build/b".toList⟩, .none, ["a"], [], [], []⟩

def manifest : Manifest :=
  ⟨.none, [targetA, targetB]⟩

/-- How the library is linked. -/
def linkA : Linking :=
  ⟨toolchain, layout.libDir, .sharedLibrary, top "build/liba.so", ⟨[], [], []⟩⟩

/-- How the program is linked, when this is what was found for the name. -/
def linkB (library : Path) : Linking :=
  ⟨toolchain, layout.libDir, .executable, top "build/b", ⟨[], [], [.prebuilt library]⟩⟩

/-- The machines on which both have been built before, from whatever. -/
def Stale (m : Machine) : Prop :=
  ∃ x y, m = tree [("liba.so", x), ("b", y)]

/-- Linking the two, when the library is found. -/
def Links (d : Deed) : Prop :=
  d = .act (.command (linkA.command [] [])) ∨
    d = .act (.command ((linkB (top "build/liba.so")).command [] ["/build/liba.so"]))

/-- What is used on stale machines. -/
def Used (d : Deed) : Prop :=
  d.Idle recorder Stale ∨ Links d

theorem recorder_eq (output written : String) (place : Location) {c : Command} (m : Machine)
    (ho : outputOf? c.args = some output) (hp : Machine.placeOf output = place)
    (hw : c.args.getLastD "" = written) :
    recorder c m = ({ m with files := m.files.put place (.file (bytes written) false) }, .ok "") := by
  rw [recorder, ho, hw, ← hp]

/-- Writing one of the two files again. -/
theorem put_tree (x y z : List UInt8) :
    (tree [("liba.so", x), ("b", y)]).files.put ["build".toList, "liba.so".toList] (.file z false) =
        (tree [("liba.so", z), ("b", y)]).files ∧
      (tree [("liba.so", x), ("b", y)]).files.put ["build".toList, "b".toList] (.file z false) =
        (tree [("liba.so", x), ("b", z)]).files := by
  constructor <;> cbv

theorem run_linkA (x y : List UInt8) :
    recorder (linkA.command [] []) (tree [("liba.so", x), ("b", y)]) =
      (tree [("liba.so", bytes "-Wl,-E"), ("b", y)], .ok "") := by
  rw [recorder_eq "/build/liba.so" "-Wl,-E" ["build".toList, "liba.so".toList] _ rfl (by decide) rfl,
    (put_tree x y _).1]
  rfl

theorem run_linkB (x y : List UInt8) :
    recorder ((linkB (top "build/liba.so")).command [] ["/build/liba.so"])
        (tree [("liba.so", x), ("b", y)]) =
      (tree [("liba.so", x), ("b", bytes "/build/liba.so")], .ok "") := by
  rw [recorder_eq "/build/b" "/build/liba.so" ["build".toList, "b".toList] _ rfl (by decide) rfl,
    (put_tree x y _).2]
  rfl

theorem independent_links : Deed.Independent recorder Stale Links where
  closed d hd m hm := by
    obtain ⟨x, y, rfl⟩ := hm
    rcases hd with rfl | rfl
    · exact ⟨_, _, congrArg Prod.fst (run_linkA x y)⟩
    · exact ⟨_, _, congrArg Prod.fst (run_linkB x y)⟩
  commute d e hd he m hm := by
    obtain ⟨x, y, rfl⟩ := hm
    rcases hd with rfl | rfl <;> rcases he with rfl | rfl <;> refine .of_eq ?_ ?_ ?_ <;>
      simp only [Deed.perform, Act.perform, run_linkA, run_linkB] <;> rfl

theorem sameShape_tree (x y x' y' : List UInt8) :
    (tree [("liba.so", x), ("b", y)]).files.SameShape (tree [("liba.so", x'), ("b", y')]).files := by
  intro loc
  simp only [tree, Files.at?, List.map_cons, List.map_nil, List.lookup_cons, List.lookup_nil]
  split
  · exact .inl rfl
  · split
    · exact .inl rfl
    · split
      · exact .inr ⟨x, x', false, false, rfl, rfl⟩
      · split
        · exact .inr ⟨y, y', false, false, rfl, rfl⟩
        · exact .inl rfl

/-- A deed that changes nothing on stale machines and is answered there in one way is idle. -/
theorem idle_of_eq {d : Deed}
    (h : ∀ x y, (d.perform recorder (tree [("liba.so", x), ("b", y)])).1 =
      tree [("liba.so", x), ("b", y)])
    (h' : ∀ x y x' y', (d.perform recorder (tree [("liba.so", x), ("b", y)])).2 =
      (d.perform recorder (tree [("liba.so", x'), ("b", y')])).2) : d.Idle recorder Stale := by
  rintro _ ⟨x, y, rfl⟩
  refine ⟨h x y, ?_⟩
  rintro _ ⟨x', y', rfl⟩
  exact h' x' y' x y

theorem idle_here : Deed.here.Idle recorder Stale :=
  idle_of_eq (fun _ _ => rfl) fun _ _ _ _ => rfl

theorem idle_probe (p : Path) : (Deed.probe p).Idle recorder Stale :=
  idle_of_eq (fun _ _ => rfl) fun x y x' y' => (sameShape_tree x y x' y').has p

theorem makeDirectories_build (x y : List UInt8) :
    (tree [("liba.so", x), ("b", y)]).makeDirectories (top "build") =
      (tree [("liba.so", x), ("b", y)], .ok ()) := by
  cbv

theorem idle_directory : (Deed.act (.directory (top "build"))).Idle recorder Stale := by
  have hkeep (x y : List UInt8) :
      (Act.directory (top "build")).perform recorder (tree [("liba.so", x), ("b", y)]) =
        (tree [("liba.so", x), ("b", y)], .ok "") := by
    simp only [Act.perform, ensureDirectory, makeDirectories_build]
  refine idle_of_eq (fun x y => ?_) fun x y x' y' => ?_
  · simp only [Deed.perform, hkeep]
  · simp only [Deed.perform, hkeep]
    rfl

/-- A machine on which both have been built before. -/
def stale : Machine :=
  tree [("liba.so", bytes "old"), ("b", bytes "old")]

/-- A pool on that machine. -/
def pool : Pool Machine :=
  .start ⟨1, .inline, .strict⟩ (top "") stale

/-- A target that is linked from libraries alone uses its one command. -/
theorem uses_of_command {t : Manifest.Target} {libraries : List Library} {D : Deed → Prop}
    (hs : t.sources = .none) (hl : t.link = [])
    (hdir : (t.output.resolveAgainst (top "") layout.root).above? = some (top "build"))
    (hmake : D (.act (.directory (top "build"))))
    (hlib : (pool.follow recorder (Errand.libraries layout.librarySearchPaths t)).2 = .ok libraries)
    (hchore : (Linking.chore ⟨toolchain, layout.libDir, t.kind,
      t.output.resolveAgainst (top "") layout.root, ⟨[], [], libraries⟩⟩ []).Uses recorder Stale D) :
    t.Uses recorder Stale D layout toolchain (top "") pool where
  gather dir h := by
    rw [hs] at h
    exact nomatch h
  compile source h := by
    have hnone : (pool.follow recorder (Errand.sources layout .none)).2 = [] := rfl
    rw [hs, hnone] at h
    exact nomatch h
  output dir h := by
    obtain rfl : top "build" = dir := Option.some.inj (hdir.symm.trans h)
    exact hmake
  link inputs hsources hobjects hlibraries paths hpaths := by
    obtain ⟨sources, objects, libraries'⟩ := inputs
    have hnone : (pool.follow recorder (Errand.sources layout .none)).2 = [] := rfl
    rw [hs, hnone] at hsources
    rw [hl] at hobjects
    obtain rfl : sources = [] := List.eq_nil_of_length_eq_zero hsources
    obtain rfl : objects = [] := List.eq_nil_of_length_eq_zero hobjects
    obtain rfl : libraries = libraries' := Except.ok.inj (hlib.symm.trans hlibraries)
    obtain rfl : paths = [] := List.eq_nil_of_length_eq_zero hpaths
    exact hchore

theorem libraries_targetB :
    (pool.follow recorder (Errand.libraries layout.librarySearchPaths targetB)).2 =
      .ok [.prebuilt (top "build/liba.so")] := by
  cbv

/-- No deeds race when both have been built before: whatever is in the library, it is found. -/
theorem raceFree_stale (policy : Policy) :
    (Ideal.start stale (Errand.declare layout toolchain stale.here ⟨[]⟩ manifest)).RaceFree recorder
      stale.here policy := by
  have hstale : Stale stale := ⟨_, _, rfl⟩
  have hmake : Used (.act (.directory (top "build"))) := .inl idle_directory
  have htargets : ∀ t ∈ manifest.targets,
      t.Uses recorder Stale Used layout toolchain (top "") pool := by
    intro t ht
    rcases List.mem_cons.1 ht with rfl | ht
    · exact uses_of_command rfl rfl rfl hmake rfl (Command.uses_chore (.inr (.inl rfl)))
    · rw [List.mem_singleton.1 ht]
      exact uses_of_command rfl rfl rfl hmake libraries_targetB
        (Command.uses_chore (.inr (.inr rfl)))
  have huses : (Errand.declare layout toolchain (top "") ⟨[]⟩ manifest).Uses recorder Stale Used
      fun _ => True :=
    Errand.uses_declare hmake (fun d hd => .inl hd) idle_here idle_probe hstale htargets ⟨[]⟩
  exact Ideal.Uses.raceFree independent_links.or_idle ⟨hstale, huses, fun u hu => nomatch hu⟩

theorem transparent_stale :
    (Ideal.start stale (Errand.declare layout toolchain stale.here ⟨[]⟩ manifest)).RaceFree recorder
        stale.here .strict ∧
      ∃ result fates acts final, ∀ config : PoolConfig, config.policy = .strict →
        Build.ComesTo recorder config stale layout toolchain manifest result fates acts final :=
  ⟨raceFree_stale .strict, Build.transparent (raceFree_stale .strict)⟩

/-! ### Where deeds race -/

/-- A build on a machine, with these tasks. -/
def build (mode : Mode) (m : Machine) (tasks : List (Task Machine)) (running : List TaskId) : Build :=
  { layout, toolchain
    run := recorder
    pool := ⟨⟨4, mode, .bestEffort⟩, top "", 4, m, tasks, running⟩
    table := ⟨[]⟩ }

/-- The task of a linking when it has completed. -/
def linked (l : Linking) : Task Machine :=
  ⟨l.spec, l.job recorder, .finished (.completed (some l.output)), .ended false, [[]]⟩

def declaredA : DeclaredTarget :=
  ⟨"a", ⟨.sharedLibrary, top "build/liba.so", .task 0⟩, []⟩

def declaredB : DeclaredTarget :=
  ⟨"b", ⟨.executable, top "build/b", .task 1⟩, []⟩

/-- The files when the library has been found. -/
def treeFound : Machine :=
  tree [("liba.so", bytes "-Wl,-E"), ("b", bytes "/build/liba.so")]

/-- The files when it has not. -/
def treeMissed : Machine :=
  tree [("liba.so", bytes "-Wl,-E"), ("b", bytes "a")]

/-- Declaring a target that is linked from libraries alone submits one task. -/
theorem declareTarget_of_submit {b : Build} {declared : List DeclaredTarget} {t : Manifest.Target}
    {l : Linking} {dir : Path} {q : Pool Machine} {id : TaskId} {s : Submission}
    (hinputs : b.linkInputs declared t = (b, .ok l.inputs))
    (hl : (⟨b.toolchain, b.layout.libDir, t.kind,
      t.output.resolveAgainst b.pool.here b.layout.root, l.inputs⟩ : Linking) = l)
    (hdir : l.output.above? = some dir) (hmade : b.ensureDirectory dir = (b, .ok ()))
    (hsubmit : b.pool.submit .outside l.spec (l.job b.run) = (q, id, s)) :
    b.declareTarget declared t =
      ({ b with pool := q }, .ok ⟨t.name, ⟨t.kind, l.output, .task id⟩, t.run⟩) := by
  have ho : t.output.resolveAgainst b.pool.here b.layout.root = l.output := congrArg Linking.output hl
  rw [ho] at hl
  simp only [Build.declareTarget, hinputs, Build.target, ho, hdir, hmade, hl, Build.submit, hsubmit]


theorem declare_inline :
    (build .inline (tree []) [] []).declare manifest =
      (build .inline treeFound [linked linkA, linked (linkB (top "build/liba.so"))] [],
        .ok [declaredA, declaredB]) := by
  have ha : (build .inline (tree []) [] []).declareTarget [] targetA =
      (build .inline (tree [("liba.so", bytes "-Wl,-E")]) [linked linkA] [], .ok declaredA) := by
    exact declareTarget_of_submit (l := linkA) (s := .returned) rfl rfl rfl rfl
      (Pool.submit_eq_of_settle rfl (Pool.settle_eq_of_advances (n := 4) rfl rfl))
  have hb : (build .inline (tree [("liba.so", bytes "-Wl,-E")]) [linked linkA] []).declareTarget
      [declaredA] targetB =
      (build .inline treeFound [linked linkA, linked (linkB (top "build/liba.so"))] [],
        .ok declaredB) := by
    exact declareTarget_of_submit (l := linkB (top "build/liba.so")) (s := .returned) rfl rfl rfl rfl
      (Pool.submit_eq_of_settle rfl (Pool.settle_eq_of_advances (n := 4) rfl rfl))
  rw [Build.declare, show manifest.check = .ok () from rfl]
  simp only [manifest, Build.declareFrom, ha, List.nil_append, hb, List.cons_append]

/-- The task of a linking when the workers have it. -/
def created (l : Linking) : Task Machine :=
  { Task.fresh l.spec (l.job recorder) with stage := .created }

theorem finish_inline :
    (build .inline treeFound [linked linkA, linked (linkB (top "build/liba.so"))] []).finish .outside =
      (build .inline treeFound [linked linkA, linked (linkB (top "build/liba.so"))] [],
        some (.ok ⟨2, []⟩)) := by
  refine Build.finish_eq ?_
  rw [Pool.joinAll, Pool.waitIdle, Pool.waitRounds]
  rfl

theorem declare_pooled :
    (build .pooled (tree []) [] []).declare manifest =
      (build .pooled (tree []) [created linkA, created (linkB ⟨['a']⟩)] [0, 1],
        .ok [declaredA, declaredB]) := rfl

theorem finish_pooled :
    (build .pooled (tree []) [created linkA, created (linkB ⟨['a']⟩)] [0, 1]).finish .outside =
      (build .pooled treeMissed [linked linkA, linked (linkB ⟨['a']⟩)] [], some (.ok ⟨2, []⟩)) := by
  have hdrain : (build .pooled (tree []) [created linkA, created (linkB ⟨['a']⟩)] [0, 1]).pool.drain =
      (build .pooled treeMissed [linked linkA, linked (linkB ⟨['a']⟩)] []).pool :=
    Pool.settle_eq_of_advances (n := 8) rfl rfl
  refine Build.finish_eq ?_
  rw [Pool.joinAll, Pool.waitIdle, Pool.waitRounds, hdrain, Pool.waitRounds]
  rfl

/-- The two modes link the same targets on the same files with different arguments.  Inline, the library
has been linked when the program is declared, and is found; in pooled mode it is not there yet. -/
theorem exists_mode_dependent :
    ∃ found missed : Build,
      (Build.start recorder (tree []) layout toolchain ⟨4, .inline, .bestEffort⟩).declare manifest =
          (found, .ok [declaredA, declaredB]) ∧
        (Build.start recorder (tree []) layout toolchain ⟨4, .pooled, .bestEffort⟩).declare manifest =
          (missed, .ok [declaredA, declaredB]) ∧
        (found.finish .outside).2 = some (.ok ⟨2, []⟩) ∧
        (missed.finish .outside).2 = some (.ok ⟨2, []⟩) ∧
        (found.finish .outside).1.machine =
          tree [("liba.so", bytes "-Wl,-E"), ("b", bytes "/build/liba.so")] ∧
        (missed.finish .outside).1.machine =
          tree [("liba.so", bytes "-Wl,-E"), ("b", bytes "a")] ∧
        bytes "/build/liba.so" ≠ bytes "a" := by
  refine ⟨_, _, declare_inline, declare_pooled, ?_⟩
  rw [finish_inline, finish_pooled]
  exact ⟨rfl, rfl, rfl, rfl, by decide⟩

end TwoTargets

end NativeBuild
