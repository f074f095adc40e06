import NativeBuild.Proofs.Build.Commands
import NativeBuild.Proofs.Build.Lockstep
import NativeBuild.Proofs.Machine.Moved

/-!
A build does not depend on where it is started, with one exception.  A manifest that is declared from two
directories submits the same tasks, as long as the files and the commands that it uses are the same from
both, and nothing lies in either directory under a relative name that it looks a library up by.
-/

namespace NativeBuild

/-- Errands beside each other come to the same on pools beside each other, and submit the same. -/
theorem Errand.Beside.follow {α : Type} {b : Build} {manifest : Manifest} {here here' : Path}
    {R : Machine → Machine → Prop} (hout : b.Outlook manifest here here' R) {P : α → Prop}
    {e e' : Errand α} (h : e.Beside b.layout b.toolchain manifest here here' P e')
    {p q : Pool Machine} (hpq : p.Beside R q)
    (htasks : p.config.mode = .inline → b.TasksAgree manifest R ∧ p.Respects R) :
    (p.follow b.run e).1.Beside R (q.follow b.run e').1 ∧
      (p.follow b.run e).2 = (q.follow b.run e').2 ∧
      p.assignments b.run e = q.assignments b.run e' := by
  induction h generalizing p q with
  | done _ => exact ⟨hpq, rfl, rfl⟩
  | @deed d next next' hd _ ih =>
    obtain ⟨hkeep, hanswer⟩ := hout.declaration _ _ hpq.world d hd
    simp only [Pool.follow, Pool.assignments, ← hanswer]
    exact ih _ (d.sound_perform b.run p.world) (hpq.setWorld hkeep) htasks
  | @here next next' _ ih =>
    obtain ⟨hp', hq'⟩ := hout.directories _ _ hpq.world
    have hanswers := ih hpq htasks
    rw [← hp', ← hq'] at hanswers
    exact hanswers
  | @stray s s' next next' hs _ ih =>
    obtain ⟨hp', hq'⟩ := hout.strays _ _ hpq.world _ _ hs
    simp only [Pool.follow, Pool.assignments, Deed.perform, hp', hq']
    exact ih hpq htasks
  | @submit spec body next next' hspec hbody _ ih =>
    obtain ⟨hsubmitted, hid, hrespects⟩ := hpq.submit fun hinline =>
      ⟨(htasks hinline).2, hspec, fun inputs => (hbody inputs).respects (htasks hinline).1⟩
    have hconfig := Pool.submit_config p spec fun inputs => (body inputs).job b.run
    obtain ⟨hbeside, hanswer, hassigned⟩ := ih (p.submit .outside spec fun inputs =>
      (body inputs).job b.run).2.1 hsubmitted fun hinline =>
        ⟨(htasks (hconfig ▸ hinline)).1, hrespects (hconfig ▸ hinline)⟩
    simp only [Pool.follow, Pool.assignments, ← hid, ← hassigned, and_true]
    exact ⟨hbeside, hanswer⟩

/-! ### The tasks of a pool are what was submitted -/

/-- A task as it is submitted. -/
def Assignment.order (run : Runner) (a : Assignment) : TaskSpec × (List Path → Job) :=
  (a.spec, fun inputs => (a.body inputs).job run)

namespace Pool

variable {σ : Type} {config : PoolConfig} {here : Path} {world : σ} {p q : Pool σ}

/-- The tasks of a pool as they were submitted. -/
def orders (p : Pool σ) : List (TaskSpec × (List Path → Work σ)) :=
  p.tasks.map fun t => (t.spec, t.body)

theorem Grows.orders_eq (h : p.Grows q) (hlen : q.tasks.length = p.tasks.length) :
    q.orders = p.orders := by
  refine List.ext_getElem (by simp [orders, hlen]) fun i hi hi' => ?_
  simp only [orders, List.length_map] at hi hi'
  obtain ⟨u, hu, hlater⟩ := h i _ (List.getElem?_eq_getElem hi')
  obtain rfl := Option.some.inj ((List.getElem?_eq_getElem hi).symm.trans hu)
  simp only [orders, List.getElem_map, hlater.spec, hlater.body]

theorem grows_settle (p : Pool σ) : p.Grows p.settle := by
  fun_induction settle p with
  | case1 p _ => exact .refl p
  | case2 p q hq ih =>
    obtain ⟨i, hstep⟩ := step_of_advance? hq
    exact (Move.step hstep).grows.trans ih

/-- A submission lists one task, and the tasks that there were stay what they are. -/
theorem Steady.orders_accept {spec : TaskSpec} {body : List Path → Work σ}
    (h : (p.handOver spec body).Steady config here world) :
    (p.accept spec body).orders = p.orders ++ [(spec, body)] := by
  have hlisted : (p.handOver spec body).orders = p.orders ++ [(spec, body)] := by
    rw [orders, handOver_tasks, List.map_append]
    rfl
  unfold accept
  split
  · exact hlisted
  · exact ((grows_settle _).orders_eq h.settle.2.1).trans hlisted

/-- Running an errand lists what it submits, in this order, and nothing else. -/
theorem orders_follow {here : Path} {world : Machine} {p : Pool Machine} {α : Type} (run : Runner)
    {P : Nat → α → Prop} {e : Errand α} (hs : p.Steady config here world) (ht : p.Tracked)
    (hw : e.Within P p.tasks.length) :
    (p.follow run e).1.orders = p.orders ++ (p.assignments run e).map (Assignment.order run) := by
  induction e generalizing p with
  | done a => exact (List.append_nil _).symm
  | deed d next ih =>
    exact ih _ (hs.move (.touch (.world _)) (Nat.le_refl _)) ⟨ht.pending, ht.valid⟩ (hw _)
  | submit spec body next ih =>
    have hknows : p.Knows spec := hs.spawned.knows fun k hk => hw.1 _ hk
    have hplain (inputs : List Path) : ((body inputs).job run).Plain := (body inputs).plain_job run
    obtain ⟨hsubmit, hs', ht', hlen⟩ := hs.submit ht hknows hplain
    simp only [follow, assignments, hsubmit]
    rw [ih _ hs' ht' (hlen ▸ hw.2), (hs.handOver hknows hplain).orders_accept, List.append_assoc]
    rfl

end Pool

/-! ### Two directories -/

namespace Build

/-- What declaring a manifest submits. -/
def assignments (b : Build) (manifest : Manifest) : List Assignment :=
  b.pool.assignments b.run
    (Errand.declare b.layout b.toolchain b.pool.here b.table manifest)

variable {run : Runner} {settings : Settings} {root : Path} {manifest : Manifest}
  {config : PoolConfig} {m m' : Machine} {R : Machine → Machine → Prop}

/-- Whether two machines have the same prebuilt compilers in a directory. -/
def SameCompilers (m m' : Machine) (binDir : Path) : Prop :=
  m.isFile (binDir.child "clang") = m'.isFile (binDir.child "clang") ∧
    m.isFile (binDir.child "clang++") = m'.isFile (binDir.child "clang++")

/-- A project with an absolute root has the same layout and the same toolchain wherever its build is
started. -/
theorem exists_toolchain (run : Runner) (manifest : Manifest) (config : PoolConfig)
    (hroot : root.isAbsolute = true)
    (hcompilers : SameCompilers m m' (Layout.ofRoot m.here settings root).binDir) :
    ∃ toolchain,
      forProject run m settings root manifest config =
        start run m (.ofRoot m.here settings root) toolchain config ∧
      forProject run m' settings root manifest config =
        start run m' (.ofRoot m.here settings root) toolchain config := by
  have hlayout := Layout.ofRoot_elsewhere hroot settings m'.here m.here
  have htoolchain : Toolchain.default m' settings (Layout.ofRoot m.here settings root) .host =
      Toolchain.default m settings (Layout.ofRoot m.here settings root) .host := by
    simp only [Toolchain.default, Toolchain.pickCompiler, hcompilers.1, hcompilers.2]
  refine ⟨_, rfl, ?_⟩
  simp only [forProject, hlayout, htoolchain,
    manifest.toolchain.apply_elsewhere (Layout.isAbsolute_root hroot) _ m'.here m.here]

/-- Whether two builds that declare a manifest do the same: they submit the same tasks in the same order,
with the same labels, outputs, inputs and commands, and come to the same. -/
structure DeclaresAs (b b' : Build) (manifest : Manifest) : Prop where
  assignments : b'.assignments manifest = b.assignments manifest
  result : (b'.declare manifest).2 = (b.declare manifest).2
  tasks : (b'.declare manifest).1.pool.tasks = (b.declare manifest).1.pool.tasks
  /-- What is submitted is what the pool has then. -/
  orders : (b.declare manifest).1.pool.orders =
    (b.assignments manifest).map (Assignment.order b.run)

/-- The site of a build that declares a manifest, in some schedule. -/
def Schedules (b : Build) (m : Machine) (manifest : Manifest)
    (s : Site (ObjectTable × Except DeclareError (List DeclaredTarget))) : Prop :=
  Site.Reached b.run b.pool.config m
    (Errand.declare b.layout b.toolchain m.here ⟨[]⟩ manifest) s

theorem declare_start {layout : Layout} {toolchain : Toolchain}
    (hroot : layout.root.isAbsolute = true) (hobjects : layout.objectDir.isAbsolute = true)
    (hout : (start run m layout toolchain config).Outlook manifest m.here m'.here R) (hm : R m m')
    (htasks : config.mode = .inline → (start run m layout toolchain config).TasksAgree manifest R) :
    (start run m layout toolchain config).DeclaresAs (start run m' layout toolchain config)
      manifest := by
  have hpools : (Pool.start config m.here m).Beside R (Pool.start config m'.here m') := ⟨hm⟩
  obtain ⟨hbeside, hanswer, hassigned⟩ := (Errand.beside_declare hroot hobjects).follow hout hpools
    fun hinline => ⟨htasks hinline, .start config m.here m⟩
  have horders := Pool.orders_follow run (.start : (Pool.start config m.here m).Steady ..) .start
    (Errand.within_declare layout toolchain m.here manifest)
  refine ⟨hassigned.symm, ?_, ?_, ?_⟩
  · rw [declare_eq, declare_eq]
    exact congrArg (·.2) hanswer.symm
  · rw [declare_eq, declare_eq]
    exact hbeside.tasks_eq
  · rw [declare_eq]
    exact horders

/-- A project with an absolute root is declared the same from two directories: the same tasks are
submitted in the same order, with the same labels, outputs, inputs and commands.  So it is also in every
schedule, if the tasks act the same from both. -/
theorem declare_elsewhere (hroot : root.isAbsolute = true)
    (hcompilers : SameCompilers m m' (Layout.ofRoot m.here settings root).binDir)
    (hout : (forProject run m settings root manifest config).Outlook manifest m.here m'.here R)
    (hm : R m m')
    (htasks : config.mode = .inline →
      (forProject run m settings root manifest config).TasksAgree manifest R) :
    (forProject run m settings root manifest config).DeclaresAs
        (forProject run m' settings root manifest config) manifest ∧
      ((forProject run m settings root manifest config).TasksAgree manifest R →
        ∀ s, (forProject run m settings root manifest config).Schedules m manifest s →
          ∃ s', (forProject run m' settings root manifest config).Schedules m' manifest s' ∧
            s'.pool.tasks = s.pool.tasks ∧ s'.log = s.log ∧
            ∀ r, s.errand = .done r → s'.errand = .done r) := by
  have hlayout : (Layout.ofRoot m.here settings root).root.isAbsolute = true :=
    Layout.isAbsolute_root hroot
  have hobjects : (Layout.ofRoot m.here settings root).objectDir.isAbsolute = true :=
    Layout.isAbsolute_objectDir hroot
  obtain ⟨toolchain, hstart, hstart'⟩ := exists_toolchain run manifest config hroot hcompilers
  rw [hstart] at hout htasks
  rw [hstart, hstart']
  refine ⟨declare_start hlayout hobjects hout hm htasks, fun hagree s hs => ?_⟩
  obtain ⟨s', hs', hbeside⟩ := Site.Reached.lockstep hout hagree
    (Errand.beside_declare hlayout hobjects)
    (Errand.within_declare _ toolchain m.here manifest) hm hs
  refine ⟨s', hs', hbeside.pool.tasks_eq, hbeside.log, fun r hr => ?_⟩
  have herrand := hbeside.errand
  rw [hr] at herrand
  generalize s'.errand = e' at herrand
  cases herrand with
  | done _ => rfl

/-! ### Trees without a link to the current directory -/

/-- Whether two machines differ in nothing but their directory, to which nothing leads back, and the files
are as `K` says. -/
structure Displaced (here here' : Path) (K : Files → Prop) (m m' : Machine) : Prop where
  here : m.here = here
  here' : m'.here = here'
  moved : m.Moved m'
  kept : K m.files

variable {b : Build} {here here' : Path} {K : Files → Prop}

theorem Displaced.agrees_directory (h : Displaced here here' K m m') {dir : Path}
    (hdir : dir.isAbsolute = true) (hkeep : K ((Act.directory dir).perform run m).1.files) :
    (Deed.act (.directory dir)).Agrees run (Displaced here here' K) m m' := by
  obtain ⟨hmoved, hanswer⟩ := h.moved.ensureDirectory hdir
  exact ⟨⟨(Machine.ensureDirectory_here m dir).trans h.here,
    (Machine.ensureDirectory_here m' dir).trans h.here', hmoved, hkeep⟩, hanswer⟩

/-- On machines that differ in nothing but their directory, a declaration is answered the same. -/
theorem outlook_of_displaced (hroot : b.layout.root.isAbsolute = true)
    (hobjects : b.layout.objectDir.isAbsolute = true)
    (hlibraries : ∀ dir ∈ b.layout.librarySearchPaths, dir.isAbsolute = true)
    (hkeep : ∀ m m', Displaced here here' K m m' → ∀ dir,
      (Deed.act (.directory dir)).OfDeclaration b.layout manifest →
      K ((Act.directory dir).perform b.run m).1.files)
    (hstrays : ∀ m m', Displaced here here' K m m' → ∀ p p', manifest.Strays here here' p p' →
      m.has p = false ∧ m'.has p' = false) :
    b.Outlook manifest here here' (Displaced here here' K) where
  directories m m' h := ⟨h.here, h.here'⟩
  strays := hstrays
  declaration m m' h d hd := by
    have hkept := hkeep m m' h
    cases hd with
    | objects => exact h.agrees_directory hobjects (hkept _ .objects)
    | output ht hdir =>
      exact h.agrees_directory (Path.isAbsolute_of_above? (Layout.isAbsolute_rooted hroot _) hdir)
        (hkept _ (.output ht hdir))
    | sources ht hdir found =>
      exact ⟨h, h.moved.addDirectory (Layout.isAbsolute_rooted hroot _) found⟩
    | candidate ht hname hp =>
      refine ⟨h, h.moved.has ?_⟩
      obtain ⟨dir, hdir, hp⟩ := List.mem_flatMap.1 hp
      obtain ⟨ext, -, hp⟩ := List.mem_flatMap.1 hp
      obtain ⟨lead, -, rfl⟩ := List.mem_map.1 hp
      exact Path.isAbsolute_child (hlibraries dir hdir) _
    | named ht hname habsolute => exact ⟨h, h.moved.has (Path.isAbsolute_absolute habsolute)⟩

end Build

/-! ### A project that is built from two directories -/

namespace TwoDirectories

open TwoTargets (top)
open SharedSource (idler)

/-- Files with a source and a build directory at the root, two directories to start from, and more. -/
def files (more : List (Location × Entry)) : Files where
  entries := [(["build".toList], .directory), (["src".toList], .directory),
    (["src".toList, "x.cpp".toList], .file [] false), (["v".toList], .directory),
    (["w".toList], .directory)] ++ more

/-- A machine that was started in a directory. -/
def machine (start : String) (more : List (Location × Entry)) : Machine :=
  ⟨files more, top start, []⟩

/-- Objects go into the build directory. -/
def settings : Settings :=
  ⟨none, none, some "/build", none, none⟩

def config : PoolConfig :=
  ⟨2, .pooled, .bestEffort⟩

/-- A manifest with one target. -/
def manifest (t : Manifest.Target) : Manifest :=
  ⟨.none, [t]⟩

/-- The build of the project at the root, on a machine. -/
def build (t : Manifest.Target) (m : Machine) : Build :=
  .forProject idler m settings (top "") (manifest t) config

/-- A program with a source directory, a prebuilt object and a command that prints arguments. -/
def program : Manifest.Target :=
  ⟨"p", .executable, ⟨"build/p".toList⟩, ⟨[⟨"src".toList⟩], [], "cpp", ["-O2"]⟩, ["z"], [],
    [.config ["m-config", "--libs"]], []⟩

/-- The machines that were started in the two directories, with nothing made. -/
def Apart : Machine → Machine → Prop :=
  Build.Displaced (top "v") (top "w") (· = files [])

theorem moved_machine {more : List (Location × Entry)} (h : (files more).Free) :
    (machine "v" more).Moved (machine "w" more) :=
  ⟨rfl, rfl, h⟩

theorem free_files : (files []).Free := by
  unfold Files.Free
  decide

theorem apart : Apart (machine "v" []) (machine "w" []) :=
  ⟨rfl, rfl, moved_machine free_files, rfl⟩

/-- The build directory is there. -/
theorem files_directory {m : Machine} (hfiles : m.files = files []) (hhere : m.here = top "v") :
    ((Act.directory (top "build")).perform idler m).1.files = files [] := by
  obtain ⟨_, _, env⟩ := m
  cases hfiles
  cases hhere
  cbv

/-- There is no file `z` in either directory. -/
theorem missed_z {m m' : Machine} (h : Apart m m') :
    m.has ((Path.ofString "z").absolute (top "v")) = false ∧
      m'.has ((Path.ofString "z").absolute (top "w")) = false := by
  obtain ⟨_, _, env⟩ := m
  obtain ⟨_, _, env'⟩ := m'
  obtain ⟨hhere, hhere', hmoved, hfiles⟩ := h
  cases hhere
  cases hhere'
  cases hfiles
  cases hmoved.files
  exact ⟨rfl, rfl⟩

theorem outlook_program : (build program (machine "v" [])).Outlook (manifest program) (top "v")
    (top "w") Apart := by
  refine Build.outlook_of_displaced rfl rfl
    (fun dir => Layout.isAbsolute_of_mem_librarySearchPaths rfl) ?_ ?_
  · intro m m' h dir hdir
    have hbuild : dir = top "build" := by
      cases hdir with
      | objects => rfl
      | output ht hdir =>
        obtain rfl := List.mem_singleton.1 ht
        exact Option.some.inj hdir.symm
    rw [hbuild]
    exact files_directory h.kept h.here
  · intro m m' h p p' hp
    obtain ⟨ht, hname, -⟩ := hp
    obtain rfl := List.mem_singleton.1 ht
    rcases hname with hname | hname
    · obtain rfl := List.mem_singleton.1 hname
      exact missed_z h
    · simp [program] at hname

theorem tasksAgree_program :
    (build program (machine "v" [])).TasksAgree (manifest program) Apart := by
  intro m m' h a ha
  cases ha with
  | @object key dir hdir =>
    rw [Compilation.of_object] at hdir
    obtain rfl : top "build" = dir :=
      Option.some.inj ((SharedSource.above?_object key).symm.trans hdir)
    exact h.agrees_directory rfl (files_directory h.kept h.here)
  | compiler | config => exact ⟨h, rfl⟩

/-- Where there is no file `z`, the program is declared the same from both directories: a compilation and
a linking are submitted. -/
theorem declaresAs_program :
    (manifest program).check = .ok () ∧
    ((build program (machine "v" [])).assignments (manifest program)).map (·.spec.label) =
      ["compile /src/x.cpp", "link /build/p"] ∧
    (build program (machine "v" [])).DeclaresAs (build program (machine "w" []))
      (manifest program) ∧
    ∀ s, (build program (machine "v" [])).Schedules (machine "v" []) (manifest program) s →
      ∃ s', (build program (machine "w" [])).Schedules (machine "w" []) (manifest program) s' ∧
        s'.pool.tasks = s.pool.tasks ∧ s'.log = s.log ∧
        ∀ r, s.errand = .done r → s'.errand = .done r := by
  have hroot : (top "").isAbsolute = true := rfl
  have hcompilers : Build.SameCompilers (machine "v" []) (machine "w" [])
      (Layout.ofRoot (top "v") settings (top "")).binDir :=
    ⟨apart.moved.isFile rfl, apart.moved.isFile rfl⟩
  obtain ⟨hdeclares, hschedules⟩ := Build.declare_elsewhere hroot hcompilers outlook_program apart
    fun _ => tasksAgree_program
  exact ⟨rfl, by decide +kernel, hdeclares, hschedules tasksAgree_program⟩

/-! ### Where a build does depend on it -/

/-- A program that is linked from a prebuilt object alone. -/
def wrapper : Manifest.Target :=
  ⟨"p", .executable, ⟨"build/p".toList⟩, .none, ["z"], [], [], []⟩

/-- A file `z` in one of the two directories. -/
def stray : List (Location × Entry) :=
  [(["w".toList, "z".toList], .file [] false)]

theorem free_stray : (files stray).Free := by
  unfold Files.Free
  decide

/-- How the program is linked, when this is what was found for the name. -/
def link (toolchain : Toolchain) (library : Path) : Linking :=
  ⟨toolchain, top "third_party/lib", .executable, top "build/p", ⟨[], [], [.prebuilt library]⟩⟩

theorem assignments_wrapper (toolchain : Toolchain) :
    (Build.start idler (machine "v" stray) (.ofRoot (top "v") settings (top "")) toolchain
        config).assignments (manifest wrapper) =
      [⟨(link toolchain ⟨['z']⟩).spec, (link toolchain ⟨['z']⟩).chore⟩] ∧
    (Build.start idler (machine "w" stray) (.ofRoot (top "v") settings (top "")) toolchain
        config).assignments (manifest wrapper) =
      [⟨(link toolchain (top "w/z")).spec, (link toolchain (top "w/z")).chore⟩] := by
  constructor <;> cbv

/-- The last argument is the library. -/
theorem getLast?_link (toolchain : Toolchain) (library : Path) :
    ((link toolchain library).command [] [library.text]).args.getLast? = some library.text := by
  simp only [Linking.command, Toolchain.linkArgs, List.getLast?_append, List.getLast?_singleton,
    Option.some_or]

/-- Different libraries are linked by different commands. -/
theorem library_eq_of_chore {toolchain : Toolchain} {library library' : Path}
    (h : (link toolchain library).chore [] = (link toolchain library').chore []) :
    library.text = library'.text := by
  have hcommand : (link toolchain library).command [] [library.text] =
      (link toolchain library').command [] [library'.text] :=
    Act.command.inj (Chore.act.inj h).1
  have hlast := congrArg (fun c : Command => c.args.getLast?) hcommand
  simp only [getLast?_link] at hlast
  exact Option.some.inj hlast

/-- The same project with the same files is linked from one directory with the bare name of an object,
and from the other one with a file that lies there and has this name. -/
theorem exists_place_dependent :
    (manifest wrapper).check = .ok () ∧
    machine "w" stray = { machine "v" stray with here := top "w" } ∧
    ¬ (build wrapper (machine "v" stray)).DeclaresAs (build wrapper (machine "w" stray))
      (manifest wrapper) ∧
    ∃ missed found : Linking,
      (build wrapper (machine "v" stray)).assignments (manifest wrapper) =
        [⟨missed.spec, missed.chore⟩] ∧
      (build wrapper (machine "w" stray)).assignments (manifest wrapper) =
        [⟨found.spec, found.chore⟩] ∧
      missed.chore [] = (missed.command [] ["z"]).chore ∧
      found.chore [] = (found.command [] ["/w/z"]).chore ∧
      (missed.command [] ["z"]).args.getLast? = some "z" ∧
      (found.command [] ["/w/z"]).args.getLast? = some "/w/z" := by
  have hroot : (top "").isAbsolute = true := rfl
  have hmoved := moved_machine free_stray
  have hcompilers : Build.SameCompilers (machine "v" stray) (machine "w" stray)
      (Layout.ofRoot (top "v") settings (top "")).binDir :=
    ⟨hmoved.isFile rfl, hmoved.isFile rfl⟩
  obtain ⟨toolchain, hv, hw⟩ :=
    Build.exists_toolchain idler (manifest wrapper) config hroot hcompilers
  have hmissed : (build wrapper (machine "v" stray)).assignments (manifest wrapper) =
      [⟨(link toolchain ⟨['z']⟩).spec, (link toolchain ⟨['z']⟩).chore⟩] := by
    rw [build, hv]
    exact (assignments_wrapper toolchain).1
  have hfound : (build wrapper (machine "w" stray)).assignments (manifest wrapper) =
      [⟨(link toolchain (top "w/z")).spec, (link toolchain (top "w/z")).chore⟩] := by
    rw [build, hw]
    exact (assignments_wrapper toolchain).2
  refine ⟨rfl, rfl, fun hsame => ?_, _, _, hmissed, hfound, rfl, rfl, getLast?_link _ _,
    getLast?_link _ _⟩
  have hassignments := hsame.assignments
  rw [hmissed, hfound] at hassignments
  have hbody := (Assignment.mk.inj (List.cons.inj hassignments).1).2
  exact absurd (library_eq_of_chore (congrFun hbody [])) (by decide)

end TwoDirectories

end NativeBuild
