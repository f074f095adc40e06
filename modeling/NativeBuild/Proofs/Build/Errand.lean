import NativeBuild.Build.Declare
import NativeBuild.Proofs.Pool.Step

/-!
Declarations and jobs as programs.  A job is a chain of acts on the machine; a declaration is a chain
of deeds, which act on the machine or read it, and of submissions.  What comes next depends on the
answers alone, so between two links of a chain anything else may go on.
-/

namespace NativeBuild

/-- What a job does at one go: it makes a directory and those above it, or it runs a command. -/
inductive Act where
  | directory (p : Path)
  | command (c : Command)
  deriving DecidableEq

/-- What an act makes of a machine, and its answer. -/
def Act.perform (run : Runner) : Act → Machine → Machine × Except Failure String
  | .directory p => ensureDirectory p
  | .command c => run c

/-- What a build does to its machine, or reads off it, at one go: besides acting it looks whether a
path leads to something, adds the files of a directory to those found so far, and asks for the
current directory. -/
inductive Deed where
  | act (a : Act)
  | probe (p : Path)
  | gather (found : SourceSet) (dir : Path)
  | here

namespace Deed

/-- What a deed is answered with. -/
def Answer : Deed → Type
  | .act _ => Except Failure String
  | .probe _ => Bool
  | .gather _ _ => SourceSet
  | .here => Path

/-- What a deed makes of a machine, and its answer. -/
def perform (run : Runner) : (d : Deed) → Machine → Machine × d.Answer
  | .act a, m => a.perform run m
  | .probe p, m => (m, m.has p)
  | .gather found dir, m => (m, found.addDirectory m dir)
  | .here, m => (m, m.here)

end Deed

/-! ### Jobs -/

/-- The acts of a job, one after another. -/
inductive Chore where
  | done (result : Except Failure Unit)
  | act (a : Act) (next : Except Failure String → Chore)

/-- The job that performs the acts. -/
def Chore.job (run : Runner) : Chore → Job
  | .done result => .done result
  | .act a next => .act (a.perform run) fun answer => (next answer).job run

/-- Running one command. -/
def Command.chore (c : Command) : Chore :=
  .act (.command c) fun printed => .done (printed.map fun _ => ())

/-- The acts of a compilation. -/
def Compilation.chore (c : Compilation) : Chore :=
  match c.object.above? with
  | none => c.command.chore
  | some dir =>
    .act (.directory dir) fun
      | .ok _ => c.command.chore
      | .error e => .done (.error e)

theorem Compilation.job_chore (run : Runner) (c : Compilation) : c.chore.job run = c.job run := by
  unfold Compilation.chore Compilation.job
  cases c.object.above? with
  | none => rfl
  | some dir =>
    simp only [Chore.job]
    refine congrArg _ (funext fun made => ?_)
    cases made <;> rfl

namespace Linking

/-- The acts that gather the arguments of libraries, and what comes after them. -/
def gather (host : Platform) (next : List String → Chore) : List Library → List String → Chore
  | [], args => next args
  | library :: rest, args =>
    match library.command? with
    | none => gather host next rest (args ++ library.args host (.ok ""))
    | some c =>
      .act (.command c) fun printed => gather host next rest (args ++ library.args host printed)

/-- The acts of a linking. -/
def chore (l : Linking) (inputs : List Path) : Chore :=
  gather l.toolchain.platform (fun args => (l.command inputs args).chore) l.inputs.libraries []

theorem job_gather (run : Runner) (host : Platform) (next : List String → Chore)
    (libraries : List Library) (args : List String) :
    (gather host next libraries args).job run =
      withLibraries run host (fun args => (next args).job run) libraries args := by
  induction libraries generalizing args with
  | nil => rfl
  | cons library rest ih =>
    rw [gather, withLibraries]
    cases library.command? with
    | none => exact ih _
    | some c => exact congrArg _ (funext fun printed => ih _)

theorem job_chore (run : Runner) (l : Linking) (inputs : List Path) :
    (l.chore inputs).job run = l.job run inputs :=
  job_gather run _ _ _ _

end Linking

/-! ### Declarations -/

/-- The deeds and submissions of a declaration, one after another, and what it comes to. -/
inductive Errand (α : Type) where
  | done (a : α)
  | deed (d : Deed) (next : d.Answer → Errand α)
  | submit (spec : TaskSpec) (body : List Path → Chore) (next : TaskId → Errand α)

namespace Errand

variable {α β : Type}

/-- One errand after another. -/
def bind : Errand α → (α → Errand β) → Errand β
  | .done a, k => k a
  | .deed d next, k => .deed d fun answer => (next answer).bind k
  | .submit spec body next, k => .submit spec body fun id => (next id).bind k

end Errand

/-- Run an errand on a pool, without anything else going on between its deeds. -/
def Pool.follow {α : Type} (run : Runner) (p : Pool Machine) : Errand α → Pool Machine × α
  | .done a => (p, a)
  | .deed d next =>
    follow run { p with world := (d.perform run p.world).1 } (next (d.perform run p.world).2)
  | .submit spec body next =>
    let (q, id, _) := p.submit .outside spec fun inputs => (body inputs).job run
    follow run q (next id)

namespace Pool

variable {α β : Type} {run : Runner}

theorem follow_bind (p : Pool Machine) (e : Errand α) (k : α → Errand β) :
    p.follow run (e.bind k) = (p.follow run e).1.follow run (k (p.follow run e).2) := by
  induction e generalizing p with
  | done a => rfl
  | deed d next ih => exact ih _ _
  | submit spec body next ih => exact ih _ _

theorem settle_here {σ : Type} (p : Pool σ) : p.settle.here = p.here := by
  fun_induction settle p with
  | case1 p h => rfl
  | case2 p q h ih =>
    obtain ⟨i, hstep⟩ := step_of_advance? h
    obtain ⟨t, _, hstep⟩ := taskStep_of_step? hstep
    exact ih.trans hstep.here_eq

@[simp] theorem spawn_here {σ : Type} (p : Pool σ) (id : TaskId) : (p.spawn id).here = p.here := by
  unfold spawn
  split <;> rfl

theorem submit_here {σ : Type} (p : Pool σ) (caller : Caller) (spec : TaskSpec)
    (body : List Path → Work σ) : (p.submit caller spec body).1.here = p.here := by
  simp only [submit, enlist_config]
  split
  · rw [track_here, spawn_here, enlist_here]
  · rfl
  · split <;> simp only [settle_here, spawn_here, enlist_here]

theorem follow_here (run : Runner) (p : Pool Machine) (e : Errand α) : (p.follow run e).1.here = p.here := by
  induction e generalizing p with
  | done a => rfl
  | deed d next ih => exact ih _ _
  | submit spec body next ih => exact (ih _ _).trans (submit_here p _ _ _)

end Pool

namespace Errand

/-- Add the files of directories in turn to those found so far. -/
def gatherAll (rooted : Path → Path) : List Path → SourceSet → Errand SourceSet
  | [], found => .done found
  | dir :: rest, found => .deed (.gather found (rooted dir)) fun found => gatherAll rooted rest found

/-- Find the sources of a target. -/
def sources (layout : Layout) (s : Manifest.Sources) : Errand (List Path) :=
  .deed .here fun here =>
    (gatherAll (·.resolveAgainst here layout.root) s.dirs (.empty s.extension)).bind fun found =>
      .done (s.files.foldl (fun set file =>
        SourceSet.addFile here set (file.resolveAgainst here layout.root)) found).files

/-- Look at candidates for a library in turn. -/
def find (name : String) : List Path → Errand Path
  | [] => .done (Path.ofString name)
  | candidate :: rest => .deed (.probe candidate) fun
    | true => .done candidate
    | false => find name rest

/-- Find a library, whose name may be a path seen from the current directory. -/
def findFrom (dirs : List Path) (name : String) (here : Path) : Errand Path :=
  .deed (.probe ((Path.ofString name).absolute here)) fun
    | true => .done ((Path.ofString name).absolute here)
    | false => find name (libraryCandidates dirs name)

/-- Find a library. -/
def findLibrary (dirs : List Path) (name : String) : Errand Path :=
  .deed .here (findFrom dirs name)

/-- Find prebuilt objects in turn. -/
def prebuilts (dirs : List Path) : List String → Errand (List Library)
  | [] => .done []
  | name :: rest =>
    (findLibrary dirs name).bind fun p =>
      (prebuilts dirs rest).bind fun more => .done (.prebuilt p :: more)

/-- Find what a library entry stands for. -/
def entry (dirs : List Path) : Manifest.LibraryEntry → Errand (Except Manifest.Refusal Library)
  | .prebuilt name => (findLibrary dirs name).bind fun p => .done (.ok (.prebuilt p))
  | .linker name none => .done (.ok (.linker name none))
  | .linker name (some id) =>
    match Platform.ofHostId id with
    | .ok platform => .done (.ok (.linker name (some platform)))
    | .error unknown => .done (.error (.platform unknown))
  | .config command => .done (.ok (.config command))

/-- Find what library entries stand for, up to the first that is refused. -/
def entries (dirs : List Path) :
    List Manifest.LibraryEntry → Errand (Except Manifest.Refusal (List Library))
  | [] => .done (.ok [])
  | e :: rest =>
    (entry dirs e).bind fun
      | .error refusal => .done (.error refusal)
      | .ok library => (entries dirs rest).bind fun more => .done (more.map (library :: ·))

/-- Find the libraries of a target. -/
def libraries (dirs : List Path) (t : Manifest.Target) :
    Errand (Except Manifest.Refusal (List Library)) :=
  (prebuilts dirs t.objects).bind fun found =>
    (entries dirs t.libraries).bind fun more => .done (more.map (found ++ ·))

section

variable (layout : Layout) (toolchain : Toolchain) (here : Path)

/-- Ask for the object of a source. -/
def compile (table : ObjectTable) (source : Path) (flags : List String) :
    Errand (ObjectTable × Except Failure PathRef) :=
  let key := ObjectKey.of here source flags
  match table.lookup? key with
  | some object => .done (table, .ok object)
  | none =>
    let c := Compilation.of toolchain layout.objectDir key
    .deed (.act (.directory layout.objectDir)) fun
      | .error e => .done (table, .error e)
      | .ok _ => .submit c.spec (fun _ => c.chore) fun id =>
        .done (table.insert key (.task id), .ok (.task id))

/-- Ask for the objects of sources in turn, up to the first that fails. -/
def compileAll (flags : List String) (table : ObjectTable) :
    List Path → Errand (ObjectTable × Except Failure (List PathRef))
  | [] => .done (table, .ok [])
  | source :: rest =>
    (compile layout toolchain here table source flags).bind fun
      | (table, .error e) => .done (table, .error e)
      | (table, .ok object) =>
        (compileAll flags table rest).bind fun (table, objects) =>
          .done (table, objects.map (object :: ·))

/-- Find out what a target is linked from, and ask for the objects of its sources on the way. -/
def linkInputs (table : ObjectTable) (declared : List DeclaredTarget) (t : Manifest.Target) :
    Errand (ObjectTable × Except DeclareError LinkInputs) :=
  (sources layout t.sources).bind fun files =>
    (compileAll layout toolchain here t.sources.flags table files).bind fun
      | (table, .error e) => .done (table, .error (.failed e))
      | (table, .ok sources) =>
        match Build.artifactsOf declared t.name t.link with
        | .error e => .done (table, .error (.refused e))
        | .ok objects =>
          (libraries layout.librarySearchPaths t).bind fun found =>
            .done (table, (found.map (⟨sources, objects, ·⟩)).mapError .refused)

/-- Declare an artifact. -/
def target (kind : ArtifactKind) (output : Path) (inputs : LinkInputs) :
    Errand (Except Failure LinkTarget) :=
  let output := output.resolveAgainst here layout.root
  let l : Linking := ⟨toolchain, layout.libDir, kind, output, inputs⟩
  let link : Errand (Except Failure LinkTarget) :=
    .submit l.spec l.chore fun id => .done (.ok ⟨kind, output, .task id⟩)
  match output.above? with
  | none => link
  | some dir => .deed (.act (.directory dir)) fun
    | .error e => .done (.error e)
    | .ok _ => link

/-- Declare one target after others. -/
def declareTarget (table : ObjectTable) (declared : List DeclaredTarget) (t : Manifest.Target) :
    Errand (ObjectTable × Except DeclareError DeclaredTarget) :=
  (linkInputs layout toolchain here table declared t).bind fun
    | (table, .error e) => .done (table, .error e)
    | (table, .ok inputs) =>
      (target layout toolchain here t.kind t.output inputs).bind fun
        | .error e => .done (table, .error (.failed e))
        | .ok target => .done (table, .ok ⟨t.name, target, t.run⟩)

/-- Declare targets after others, up to the first that fails. -/
def declareFrom (table : ObjectTable) (declared : List DeclaredTarget) :
    List Manifest.Target → Errand (ObjectTable × Except DeclareError (List DeclaredTarget))
  | [] => .done (table, .ok declared)
  | t :: rest =>
    (declareTarget layout toolchain here table declared t).bind fun
      | (table, .error e) => .done (table, .error e)
      | (table, .ok d) => declareFrom table (declared ++ [d]) rest

/-- Declare the targets of a manifest that passes its check. -/
def declare (table : ObjectTable) (manifest : Manifest) :
    Errand (ObjectTable × Except DeclareError (List DeclaredTarget)) :=
  match manifest.check with
  | .error e => .done (table, .error (.refused e))
  | .ok () => declareFrom layout toolchain here table [] manifest.targets

end

end Errand

namespace Pool

variable {run : Runner} {p : Pool Machine}

theorem follow_gatherAll (rooted : Path → Path) (dirs : List Path) (found : SourceSet) :
    p.follow run (Errand.gatherAll rooted dirs found) =
      (p, dirs.foldl (fun set dir => SourceSet.addDirectory p.world set (rooted dir)) found) := by
  induction dirs generalizing found with
  | nil => rfl
  | cons dir rest ih => exact ih _

theorem follow_find (name : String) (candidates : List Path) :
    p.follow run (Errand.find name candidates) =
      (p, (candidates.find? p.world.has).getD (Path.ofString name)) := by
  induction candidates with
  | nil => rfl
  | cons candidate rest ih =>
    cases hhas : p.world.has candidate with
    | true => simp [Errand.find, follow, Deed.perform, hhas]
    | false => simpa [Errand.find, follow, Deed.perform, hhas] using ih

theorem follow_findLibrary (dirs : List Path) (name : String) :
    p.follow run (Errand.findLibrary dirs name) = (p, findLibrary p.world dirs name) := by
  unfold findLibrary
  cases hhas : p.world.has ((Path.ofString name).absolute p.world.here) with
  | true => simp [Errand.findLibrary, Errand.findFrom, follow, Deed.perform, hhas]
  | false =>
    simpa [Errand.findLibrary, Errand.findFrom, follow, Deed.perform, hhas] using follow_find name _

theorem follow_prebuilts (dirs : List Path) (names : List String) :
    p.follow run (Errand.prebuilts dirs names) =
      (p, names.map fun name => .prebuilt (findLibrary p.world dirs name)) := by
  induction names with
  | nil => rfl
  | cons name rest ih =>
    simp only [Errand.prebuilts, follow_bind, follow_findLibrary, ih, follow, List.map_cons]

theorem follow_entry (dirs : List Path) (e : Manifest.LibraryEntry) :
    p.follow run (Errand.entry dirs e) = (p, e.toLibrary p.world dirs) := by
  cases e with
  | prebuilt name => simp only [Errand.entry, follow_bind, follow_findLibrary, follow,
      Manifest.LibraryEntry.toLibrary]
  | linker name os =>
    cases os with
    | none => rfl
    | some id =>
      simp only [Errand.entry, Manifest.LibraryEntry.toLibrary]
      cases Platform.ofHostId id <;> rfl
  | config command => rfl

theorem follow_entries (dirs : List Path) (es : List Manifest.LibraryEntry) :
    p.follow run (Errand.entries dirs es) =
      (p, es.mapM fun e => e.toLibrary p.world dirs) := by
  induction es with
  | nil => rfl
  | cons e rest ih =>
    rw [Errand.entries, follow_bind, follow_entry, List.mapM_cons]
    cases e.toLibrary p.world dirs with
    | error refusal => rfl
    | ok library =>
      simp only [follow_bind, ih]
      cases rest.mapM fun e => e.toLibrary p.world dirs <;> rfl

end Pool

namespace Build

variable {b : Build}

/-- The build when its pool and its table are these, and what an errand came to. -/
def resume {α : Type} (b : Build) (r : Pool Machine × ObjectTable × α) : Build × α :=
  ({ b with pool := r.1, table := r.2.1 }, r.2.2)

theorem follow_sources (s : Manifest.Sources) :
    b.pool.follow b.run (Errand.sources b.layout s) = (b.pool, b.sourcesOf s) := by
  simp only [Errand.sources, Pool.follow, Deed.perform, Pool.follow_bind, Pool.follow_gatherAll]
  rfl

theorem follow_libraries (t : Manifest.Target) :
    b.pool.follow b.run (Errand.libraries b.layout.librarySearchPaths t) =
      (b.pool, b.librariesOf t) := by
  simp only [Errand.libraries, Pool.follow_bind, Pool.follow_prebuilts, Pool.follow_entries,
    librariesOf, machine]
  cases t.libraries.mapM fun e => e.toLibrary b.pool.world b.layout.librarySearchPaths <;> rfl

/-- Making a directory is an act. -/
theorem ensureDirectory_eq_perform (b : Build) (p : Path) :
    b.ensureDirectory p =
      (b.setMachine ((Act.directory p).perform b.run b.pool.world).1,
        ((Act.directory p).perform b.run b.pool.world).2.map fun _ => ()) := by
  simp only [ensureDirectory, Act.perform, NativeBuild.ensureDirectory, machine]
  cases b.pool.world.makeDirectories p with
  | mk m made => cases made <;> rfl

theorem compile_eq (source : Path) (flags : List String) :
    b.compile source flags = b.resume (b.pool.follow b.run
      (Errand.compile b.layout b.toolchain b.pool.here b.table source flags)) := by
  cases hl : b.table.lookup? (.of b.pool.here source flags) with
  | some object =>
    simp only [compile, Errand.compile, hl]
    rfl
  | none =>
    simp only [compile, Errand.compile, hl, ensureDirectory_eq_perform, Pool.follow, Deed.perform]
    cases ((Act.directory b.layout.objectDir).perform b.run b.pool.world).2 with
    | error e => rfl
    | ok _ =>
      simp only [Except.map, submit, Pool.follow, Compilation.job_chore]
      rfl

theorem compileAll_eq (flags : List String) (files : List Path) :
    b.compileAll flags files = b.resume (b.pool.follow b.run
      (Errand.compileAll b.layout b.toolchain b.pool.here flags b.table files)) := by
  induction files generalizing b with
  | nil => rfl
  | cons source rest ih =>
    rw [compileAll, compile_eq, Errand.compileAll, Pool.follow_bind]
    have hhere := Pool.follow_here b.run b.pool
      (Errand.compile b.layout b.toolchain b.pool.here b.table source flags)
    generalize b.pool.follow b.run
      (Errand.compile b.layout b.toolchain b.pool.here b.table source flags) = r at hhere ⊢
    obtain ⟨p, table, made⟩ := r
    replace hhere : p.here = b.pool.here := hhere
    cases made with
    | error e => rfl
    | ok object =>
      simp only [resume, ih, Pool.follow_bind, hhere]
      generalize p.follow b.run
        (Errand.compileAll b.layout b.toolchain b.pool.here flags table rest) = r
      obtain ⟨q, table, made⟩ := r
      cases made <;> rfl

theorem linkInputs_eq (declared : List DeclaredTarget) (t : Manifest.Target) :
    b.linkInputs declared t = b.resume (b.pool.follow b.run
      (Errand.linkInputs b.layout b.toolchain b.pool.here b.table declared t)) := by
  rw [linkInputs, compileAll_eq, Errand.linkInputs, Pool.follow_bind, follow_sources,
    Pool.follow_bind]
  generalize b.pool.follow b.run (Errand.compileAll b.layout b.toolchain b.pool.here
    t.sources.flags b.table (b.sourcesOf t.sources)) = r
  obtain ⟨p, table, made⟩ := r
  cases made with
  | error e => rfl
  | ok sources =>
    simp only [resume]
    cases artifactsOf declared t.name t.link with
    | error e => rfl
    | ok objects =>
      have hlibraries := follow_libraries (b := { b with pool := p, table }) t
      simp only [Pool.follow_bind, hlibraries]
      cases librariesOf { b with pool := p, table } t <;> rfl

theorem target_eq (kind : ArtifactKind) (output : Path) (inputs : LinkInputs) :
    b.target kind output inputs =
      ({ b with pool := (b.pool.follow b.run (Errand.target b.layout b.toolchain b.pool.here kind
          output inputs)).1 },
        (b.pool.follow b.run (Errand.target b.layout b.toolchain b.pool.here kind output
          inputs)).2) := by
  simp only [target, Errand.target]
  cases (output.resolveAgainst b.pool.here b.layout.root).above? with
  | none =>
    simp only [submit, Pool.follow, Linking.job_chore]
  | some dir =>
    simp only [ensureDirectory_eq_perform, Pool.follow, Deed.perform]
    cases ((Act.directory dir).perform b.run b.pool.world).2 with
    | error e => rfl
    | ok _ =>
      simp only [Except.map, submit, Pool.follow, Linking.job_chore]
      rfl

theorem declareTarget_eq (declared : List DeclaredTarget) (t : Manifest.Target) :
    b.declareTarget declared t = b.resume (b.pool.follow b.run
      (Errand.declareTarget b.layout b.toolchain b.pool.here b.table declared t)) := by
  rw [declareTarget, linkInputs_eq, Errand.declareTarget, Pool.follow_bind]
  have hhere := Pool.follow_here b.run b.pool
    (Errand.linkInputs b.layout b.toolchain b.pool.here b.table declared t)
  generalize b.pool.follow b.run
    (Errand.linkInputs b.layout b.toolchain b.pool.here b.table declared t) = r at hhere ⊢
  obtain ⟨p, table, made⟩ := r
  replace hhere : p.here = b.pool.here := hhere
  cases made with
  | error e => rfl
  | ok inputs =>
    simp only [resume, target_eq, Pool.follow_bind, hhere]
    generalize p.follow b.run
      (Errand.target b.layout b.toolchain b.pool.here t.kind t.output inputs) = r
    obtain ⟨q, made⟩ := r
    cases made <;> rfl

theorem declareFrom_eq (declared : List DeclaredTarget) (targets : List Manifest.Target) :
    b.declareFrom declared targets = b.resume (b.pool.follow b.run
      (Errand.declareFrom b.layout b.toolchain b.pool.here b.table declared targets)) := by
  induction targets generalizing b declared with
  | nil => rfl
  | cons t rest ih =>
    rw [declareFrom, declareTarget_eq, Errand.declareFrom, Pool.follow_bind]
    have hhere := Pool.follow_here b.run b.pool
      (Errand.declareTarget b.layout b.toolchain b.pool.here b.table declared t)
    generalize b.pool.follow b.run
      (Errand.declareTarget b.layout b.toolchain b.pool.here b.table declared t) = r at hhere ⊢
    obtain ⟨p, table, made⟩ := r
    replace hhere : p.here = b.pool.here := hhere
    cases made with
    | error e => rfl
    | ok d =>
      simp only [resume, ih, hhere]

/-- Declaring a manifest is running its errand. -/
theorem declare_eq (manifest : Manifest) :
    b.declare manifest = b.resume (b.pool.follow b.run
      (Errand.declare b.layout b.toolchain b.pool.here b.table manifest)) := by
  unfold declare Errand.declare
  cases manifest.check with
  | error e => rfl
  | ok _ => exact declareFrom_eq [] manifest.targets

end Build

end NativeBuild
