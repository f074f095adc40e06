import NativeBuild.Proofs.Build.Scope
import NativeBuild.Proofs.Pool.Beside

/-!
A manifest that is declared twice, from two current directories.  Both declarations do the same deeds and
submit the same tasks, as long as they are answered the same, but for one kind of deed: they look for a
library with a relative name each in its own directory.
-/

namespace NativeBuild

/-! ### What a build does to its machine -/

/-- Whether a target looks up a library by this name. -/
def Manifest.Target.LooksUp (t : Manifest.Target) (name : String) : Prop :=
  name ∈ t.objects ∨ .prebuilt name ∈ t.libraries

/-- The acts of the tasks: they make the directories of objects, and they run the compiler and the
commands of libraries. -/
inductive Act.OfTasks (layout : Layout) (toolchain : Toolchain) (manifest : Manifest) :
    Act → Prop where
  | object {key : ObjectKey} {dir : Path}
    (h : (Compilation.of toolchain layout.objectDir key).object.above? = some dir) :
    OfTasks layout toolchain manifest (.directory dir)
  | compiler (args : List String) :
    OfTasks layout toolchain manifest (.command ⟨toolchain.cxx, args⟩)
  | config {t : Manifest.Target} {words : List String} {c : Command} (ht : t ∈ manifest.targets)
    (hwords : .config words ∈ t.libraries) (hc : Command.ofWords? words = some c) :
    OfTasks layout toolchain manifest (.command c)

/-- The deeds of the declaration that are not bound to the current directory. -/
inductive Deed.OfDeclaration (layout : Layout) (manifest : Manifest) : Deed → Prop where
  | objects : OfDeclaration layout manifest (.act (.directory layout.objectDir))
  | output {t : Manifest.Target} {dir : Path} (ht : t ∈ manifest.targets)
    (hdir : (layout.rooted t.output).above? = some dir) :
    OfDeclaration layout manifest (.act (.directory dir))
  | sources {t : Manifest.Target} {dir : Path} (ht : t ∈ manifest.targets)
    (hdir : dir ∈ t.sources.dirs) (found : SourceSet) :
    OfDeclaration layout manifest (.gather found (layout.rooted dir))
  | candidate {t : Manifest.Target} {name : String} {p : Path} (ht : t ∈ manifest.targets)
    (hname : t.LooksUp name) (hp : p ∈ libraryCandidates layout.librarySearchPaths name) :
    OfDeclaration layout manifest (.probe p)
  | named {t : Manifest.Target} {name : String} (ht : t ∈ manifest.targets)
    (hname : t.LooksUp name) (habsolute : (Path.ofString name).isAbsolute = true) :
    OfDeclaration layout manifest (.probe ((Path.ofString name).absolute layout.root))

/-- The paths that stand for one relative name of a library in two directories. -/
inductive Manifest.Strays (manifest : Manifest) (here here' : Path) : Path → Path → Prop where
  | mk {t : Target} {name : String} (ht : t ∈ manifest.targets) (hname : t.LooksUp name)
    (hrelative : (Path.ofString name).isAbsolute = false) :
    Strays manifest here here' ((Path.ofString name).absolute here)
      ((Path.ofString name).absolute here')

/-- What can be said of an answer without knowing the machine: an absolute directory adds absolute files.
-/
def Deed.Sound : (d : Deed) → d.Answer → Prop
  | .gather found dir, s => dir.isAbsolute = true → found.IsAbsolute → SourceSet.IsAbsolute s
  | .act _, _ | .probe _, _ | .here, _ => True

theorem Deed.sound_perform (run : Runner) (d : Deed) (m : Machine) : d.Sound (d.perform run m).2 := by
  cases d with
  | gather found dir => exact fun hdir hfound => hfound.addDirectory hdir m
  | act _ | probe _ | here => trivial

/-- Whether a job does no acts but those in `A`. -/
inductive Chore.Only (A : Act → Prop) : Chore → Prop where
  | done {result : Except Failure Unit} : Only A (.done result)
  | act {a : Act} {next : Except Failure String → Chore} (ha : A a)
    (h : ∀ answer, (next answer).Only A) : Only A (.act a next)

section

variable {layout : Layout} {toolchain : Toolchain} {manifest : Manifest}

theorem Command.only_chore {A : Act → Prop} {c : Command} (h : A (.command c)) : c.chore.Only A :=
  .act h fun _ => .done

theorem Compilation.only_chore (key : ObjectKey) :
    (Compilation.of toolchain layout.objectDir key).chore.Only
      (Act.OfTasks layout toolchain manifest) := by
  have hcommand : (Compilation.of toolchain layout.objectDir key).command.chore.Only
      (Act.OfTasks layout toolchain manifest) := Command.only_chore (.compiler _)
  unfold Compilation.chore
  split
  · exact hcommand
  · next dir hdir =>
    refine .act (.object hdir) fun made => ?_
    cases made with
    | ok _ => exact hcommand
    | error e => exact .done

theorem Compilation.rooted_spec (hobjects : layout.objectDir.isAbsolute = true) (key : ObjectKey) :
    (Compilation.of toolchain layout.objectDir key).spec.Rooted where
  output p hp := by
    obtain rfl := Option.some.inj hp
    simp only [Compilation.of]
    exact Path.isAbsolute_child hobjects key.objectName
  inputs ref href := by cases href

theorem Linking.only_gather {A : Act → Prop} {host : Platform} {next : List String → Chore}
    (hnext : ∀ args, (next args).Only A) {libraries : List Library}
    (h : ∀ l ∈ libraries, ∀ c, l.command? = some c → A (.command c)) (args : List String) :
    (gather host next libraries args).Only A := by
  induction libraries generalizing args with
  | nil => exact hnext args
  | cons l rest ih =>
    have hrest := ih fun l' hl' => h l' (List.mem_cons_of_mem _ hl')
    unfold gather
    split
    · exact hrest _
    · next c hc => exact .act (h l List.mem_cons_self c hc) fun _ => hrest _

/-- Whether all commands of libraries are among those of a target. -/
def Manifest.Target.Configures (t : Manifest.Target) (libraries : List Library) : Prop :=
  ∀ words, .config words ∈ libraries → .config words ∈ t.libraries

theorem Linking.only_chore {t : Manifest.Target} (ht : t ∈ manifest.targets) {l : Linking}
    (htoolchain : l.toolchain = toolchain) (hlibraries : t.Configures l.inputs.libraries)
    (inputs : List Path) : (l.chore inputs).Only (Act.OfTasks layout toolchain manifest) := by
  subst htoolchain
  refine only_gather (fun args => Command.only_chore (.compiler _)) (fun library hl c hc => ?_) []
  cases library with
  | prebuilt p => cases hc
  | linker name platform => cases hc
  | config words => exact .config ht (hlibraries words hl) hc

end

/-! ### Two declarations -/

/-- What is submitted: a task, and what it does when its inputs are there. -/
structure Assignment where
  spec : TaskSpec
  body : List Path → Chore

/-- What an errand submits when it is run on a pool. -/
def Pool.assignments {α : Type} (run : Runner) (p : Pool Machine) : Errand α → List Assignment
  | .done _ => []
  | .deed d next =>
    assignments run { p with world := (d.perform run p.world).1 } (next (d.perform run p.world).2)
  | .submit spec body next =>
    let (q, id, _) := p.submit .outside spec fun inputs => (body inputs).job run
    ⟨spec, body⟩ :: assignments run q (next id)

section

variable (layout : Layout) (toolchain : Toolchain) (manifest : Manifest) (here here' : Path)

/-- Errands beside each other, the one in the directory `here` and the other in `here'`: they come to
the same, which is as `P` says, if they are answered the same and nothing is found under the paths that
stand for a relative name. -/
inductive Errand.Beside {α : Type} (P : α → Prop) : Errand α → Errand α → Prop where
  | done {a : α} (h : P a) : Beside P (.done a) (.done a)
  | deed {d : Deed} {next next' : d.Answer → Errand α} (hd : d.OfDeclaration layout manifest)
    (h : ∀ answer, d.Sound answer → Beside P (next answer) (next' answer)) :
    Beside P (.deed d next) (.deed d next')
  | here {next next' : Path → Errand α} (h : Beside P (next here) (next' here')) :
    Beside P (.deed .here next) (.deed .here next')
  | stray {p p' : Path} {next next' : Bool → Errand α} (hp : manifest.Strays here here' p p')
    (h : Beside P (next false) (next' false)) :
    Beside P (.deed (.probe p) next) (.deed (.probe p') next')
  | submit {spec : TaskSpec} {body : List Path → Chore} {next next' : TaskId → Errand α}
    (hspec : spec.Rooted)
    (hbody : ∀ inputs, (body inputs).Only (Act.OfTasks layout toolchain manifest))
    (h : ∀ id, Beside P (next id) (next' id)) :
    Beside P (.submit spec body next) (.submit spec body next')

end

/-- Whether a table names no path that is seen from the current directory. -/
def ObjectTable.Rooted (table : ObjectTable) : Prop :=
  ∀ e ∈ table.entries, e.2.Rooted

namespace Errand

variable {α β ε : Type} {layout : Layout} {toolchain : Toolchain} {manifest : Manifest}
  {here here' : Path} {t : Manifest.Target} {table : ObjectTable} {declared : List DeclaredTarget}

theorem Beside.bind {P : α → Prop} {Q : β → Prop} {e e' : Errand α} {k k' : α → Errand β}
    (h : e.Beside layout toolchain manifest here here' P e')
    (hk : ∀ a, P a → (k a).Beside layout toolchain manifest here here' Q (k' a)) :
    (e.bind k).Beside layout toolchain manifest here here' Q (e'.bind k') := by
  induction h with
  | done h => exact hk _ h
  | deed hd _ ih => exact .deed hd ih
  | here _ ih => exact .here ih
  | stray hp _ ih => exact .stray hp ih
  | submit hspec hbody _ ih => exact .submit hspec hbody ih

/-! #### Sources -/

theorem beside_gatherAll (hroot : layout.root.isAbsolute = true) (ht : t ∈ manifest.targets)
    {dirs : List Path} (hdirs : ∀ dir ∈ dirs, dir ∈ t.sources.dirs) {found : SourceSet}
    (hfound : found.IsAbsolute) :
    (gatherAll layout.rooted dirs found).Beside layout toolchain manifest here here'
      SourceSet.IsAbsolute (gatherAll layout.rooted dirs found) := by
  induction dirs generalizing found with
  | nil => exact .done hfound
  | cons dir rest ih =>
    refine .deed (.sources ht (hdirs dir List.mem_cons_self) found) fun answer hanswer => ?_
    exact ih (fun d hd => hdirs d (List.mem_cons_of_mem _ hd))
      (hanswer (Layout.isAbsolute_rooted hroot dir) hfound)

theorem beside_sources (hroot : layout.root.isAbsolute = true) (ht : t ∈ manifest.targets) :
    (sources layout t.sources).Beside layout toolchain manifest here here'
      (fun files => ∀ p ∈ files, p.isAbsolute = true) (sources layout t.sources) := by
  have hadd (set : SourceSet) (file : Path) :
      SourceSet.addFile here set (layout.rooted file) =
        SourceSet.addFile here' set (layout.rooted file) :=
    SourceSet.addFile_elsewhere (Layout.isAbsolute_rooted hroot file) set here here'
  refine .here ?_
  simp only [Layout.resolveAgainst_root hroot, hadd]
  refine (beside_gatherAll hroot ht (fun dir hdir => hdir) ?_).bind fun found hfound => .done ?_
  · exact fun p hp => nomatch hp
  · exact hfound.foldl fun file _ => Layout.isAbsolute_rooted hroot file

/-! #### Libraries -/

theorem beside_find (ht : t ∈ manifest.targets) {name : String} (hname : t.LooksUp name)
    {candidates : List Path}
    (h : ∀ p ∈ candidates, p ∈ libraryCandidates layout.librarySearchPaths name) :
    (find name candidates).Beside layout toolchain manifest here here' (fun _ => True)
      (find name candidates) := by
  induction candidates with
  | nil => exact .done trivial
  | cons candidate rest ih =>
    refine .deed (.candidate ht hname (h candidate List.mem_cons_self)) fun found _ => ?_
    cases found with
    | true => exact .done trivial
    | false => exact ih fun p hp => h p (List.mem_cons_of_mem _ hp)

theorem beside_findLibrary (ht : t ∈ manifest.targets) {name : String} (hname : t.LooksUp name) :
    (findLibrary layout.librarySearchPaths name).Beside layout toolchain manifest here here'
      (fun _ => True) (findLibrary layout.librarySearchPaths name) := by
  have hfind : (find name (libraryCandidates layout.librarySearchPaths name)).Beside layout
      toolchain manifest here here' (fun _ => True)
      (find name (libraryCandidates layout.librarySearchPaths name)) :=
    beside_find ht hname fun _ hp => hp
  refine .here ?_
  cases habsolute : (Path.ofString name).isAbsolute with
  | false => exact .stray ⟨ht, hname, habsolute⟩ hfind
  | true =>
    unfold findFrom
    rw [Path.absolute_elsewhere habsolute here layout.root,
      Path.absolute_elsewhere habsolute here' layout.root]
    refine .deed (.named ht hname habsolute) fun found _ => ?_
    cases found with
    | true => exact .done trivial
    | false => exact hfind

theorem beside_prebuilts (ht : t ∈ manifest.targets) {names : List String}
    (h : ∀ name ∈ names, name ∈ t.objects) :
    (prebuilts layout.librarySearchPaths names).Beside layout toolchain manifest here here'
      t.Configures (prebuilts layout.librarySearchPaths names) := by
  induction names with
  | nil => exact .done fun words hwords => nomatch hwords
  | cons name rest ih =>
    refine (beside_findLibrary ht (.inl (h name List.mem_cons_self))).bind fun p _ => ?_
    refine (ih fun n hn => h n (List.mem_cons_of_mem _ hn)).bind fun more hmore => .done ?_
    intro words hwords
    rcases List.mem_cons.1 hwords with hp | hwords
    · cases hp
    · exact hmore words hwords

theorem beside_entry (ht : t ∈ manifest.targets) {e : Manifest.LibraryEntry} (he : e ∈ t.libraries) :
    (entry layout.librarySearchPaths e).Beside layout toolchain manifest here here'
      (fun r => ∀ words, r = .ok (.config words) → .config words ∈ t.libraries)
      (entry layout.librarySearchPaths e) := by
  cases e with
  | prebuilt name =>
    exact (beside_findLibrary ht (.inr he)).bind fun p _ => .done fun words h => by cases h
  | linker name os =>
    cases os with
    | none => exact .done fun words h => by cases h
    | some id =>
      simp only [entry]
      split
      · exact .done fun words h => by cases h
      · exact .done fun words h => by cases h
  | config command =>
    refine .done fun words h => ?_
    cases h
    exact he

theorem beside_entries (ht : t ∈ manifest.targets) {es : List Manifest.LibraryEntry}
    (h : ∀ e ∈ es, e ∈ t.libraries) :
    (entries layout.librarySearchPaths es).Beside layout toolchain manifest here here'
      (fun r => ∀ libraries, r = .ok libraries → t.Configures libraries)
      (entries layout.librarySearchPaths es) := by
  induction es with
  | nil =>
    refine .done fun libraries hl => ?_
    cases hl
    exact fun words hwords => nomatch hwords
  | cons e rest ih =>
    refine (beside_entry ht (h e List.mem_cons_self)).bind fun r hr => ?_
    cases r with
    | error refusal => exact .done fun libraries hl => by cases hl
    | ok library =>
      refine (ih fun e' he' => h e' (List.mem_cons_of_mem _ he')).bind fun more hmore => .done ?_
      intro libraries hl
      cases more with
      | error refusal => cases hl
      | ok more =>
        cases hl
        intro words hwords
        rcases List.mem_cons.1 hwords with hlibrary | hwords
        · exact hr words (congrArg Except.ok hlibrary.symm)
        · exact hmore _ rfl words hwords

theorem beside_libraries (ht : t ∈ manifest.targets) :
    (libraries layout.librarySearchPaths t).Beside layout toolchain manifest here here'
      (fun r => ∀ libraries, r = .ok libraries → t.Configures libraries)
      (libraries layout.librarySearchPaths t) := by
  refine (beside_prebuilts ht fun _ h => h).bind fun found hfound => ?_
  refine (beside_entries ht fun _ h => h).bind fun more hmore => .done fun libraries hl => ?_
  cases more with
  | error refusal => cases hl
  | ok more =>
    cases hl
    intro words hwords
    rcases List.mem_append.1 hwords with hwords | hwords
    · exact hfound words hwords
    · exact hmore _ rfl words hwords

/-! #### Tasks -/

/-- Whether a table names no path that is seen from the current directory, and what was asked for on the
way is as `P` says. -/
def Rooted (P : α → Prop) (r : ObjectTable × Except ε α) : Prop :=
  r.1.Rooted ∧ ∀ a, r.2 = .ok a → P a

theorem rooted_error {P : α → Prop} (htable : table.Rooted) (e : ε) : Rooted P (table, .error e) :=
  ⟨htable, fun a ha => by cases ha⟩

theorem beside_compile (hobjects : layout.objectDir.isAbsolute = true) (htable : table.Rooted)
    {source : Path} (hsource : source.isAbsolute = true) (flags : List String) :
    (compile layout toolchain here table source flags).Beside layout toolchain manifest here here'
      (Rooted PathRef.Rooted) (compile layout toolchain here' table source flags) := by
  simp only [compile, ObjectKey.of_elsewhere hsource flags here here']
  generalize ObjectKey.of here' source flags = key
  split
  · next object hl =>
    obtain ⟨e, he, rfl⟩ := Option.map_eq_some_iff.1 hl
    refine .done ⟨htable, fun ref href => ?_⟩
    cases href
    exact htable e (List.mem_of_find?_eq_some he)
  · have hspec : (Compilation.of toolchain layout.objectDir key).spec.Rooted :=
      Compilation.rooted_spec hobjects key
    have honly : (Compilation.of toolchain layout.objectDir key).chore.Only
        (Act.OfTasks layout toolchain manifest) := Compilation.only_chore key
    generalize Compilation.of toolchain layout.objectDir key = c at hspec honly ⊢
    refine .deed .objects fun made _ => ?_
    cases made with
    | error e => exact .done (rooted_error htable _)
    | ok _ =>
      refine .submit hspec (fun _ => honly) fun id => .done ⟨fun e he => ?_, fun ref href => ?_⟩
      · rcases List.mem_append.1 he with he | he
        · exact htable e he
        · rw [List.mem_singleton.1 he]
          trivial
      · cases href
        trivial

theorem beside_compileAll (hobjects : layout.objectDir.isAbsolute = true) (htable : table.Rooted)
    (flags : List String) {files : List Path} (hfiles : ∀ p ∈ files, p.isAbsolute = true) :
    (compileAll layout toolchain here flags table files).Beside layout toolchain manifest here here'
      (Rooted fun refs => ∀ ref ∈ refs, ref.Rooted)
      (compileAll layout toolchain here' flags table files) := by
  induction files generalizing table with
  | nil =>
    refine .done ⟨htable, fun refs hrefs => ?_⟩
    cases hrefs
    exact fun ref href => nomatch href
  | cons source rest ih =>
    refine (beside_compile hobjects htable (hfiles source List.mem_cons_self) flags).bind ?_
    rintro ⟨table', made⟩ ⟨htable', hmade⟩
    cases made with
    | error e => exact .done (rooted_error htable' _)
    | ok object =>
      refine (ih htable' fun p hp => hfiles p (List.mem_cons_of_mem _ hp)).bind ?_
      rintro ⟨table'', objects⟩ ⟨htable'', hobjects'⟩
      refine .done ⟨htable'', fun refs hrefs => ?_⟩
      cases objects with
      | error e => cases hrefs
      | ok objects =>
        cases hrefs
        intro ref href
        rcases List.mem_cons.1 href with rfl | href
        · exact hmade _ rfl
        · exact hobjects' _ rfl ref href

/-! #### Targets -/

theorem beside_linkInputs (hroot : layout.root.isAbsolute = true)
    (hobjects : layout.objectDir.isAbsolute = true) (ht : t ∈ manifest.targets)
    (htable : table.Rooted) (hdeclared : ∀ d ∈ declared, d.target.artifact.Rooted) :
    (linkInputs layout toolchain here table declared t).Beside layout toolchain manifest here here'
      (Rooted fun inputs => (∀ ref ∈ inputs.sources ++ inputs.objects, ref.Rooted) ∧
        t.Configures inputs.libraries)
      (linkInputs layout toolchain here' table declared t) := by
  refine (beside_sources hroot ht).bind fun files hfiles => ?_
  refine (beside_compileAll hobjects htable _ hfiles).bind ?_
  rintro ⟨table', made⟩ ⟨htable', hmade⟩
  cases made with
  | error e => exact .done (rooted_error htable' _)
  | ok sources =>
    cases hartifacts : Build.artifactsOf declared t.name t.link with
    | error e =>
      dsimp only
      exact .done (rooted_error htable' _)
    | ok objects =>
      dsimp only
      refine (beside_libraries ht).bind fun found hfound => .done ⟨htable', fun inputs hinputs => ?_⟩
      cases found with
      | error e => cases hinputs
      | ok libraries =>
        cases hinputs
        refine ⟨fun ref href => ?_, hfound _ rfl⟩
        rcases List.mem_append.1 href with href | href
        · exact hmade _ rfl ref href
        · obtain ⟨d, hd, rfl⟩ := Build.exists_of_artifactsOf hartifacts href
          exact hdeclared d hd

theorem beside_target (hroot : layout.root.isAbsolute = true) (ht : t ∈ manifest.targets)
    {inputs : LinkInputs} (hinputs : ∀ ref ∈ inputs.sources ++ inputs.objects, ref.Rooted)
    (hlibraries : t.Configures inputs.libraries) :
    (target layout toolchain here t.kind t.output inputs).Beside layout toolchain manifest here here'
      (fun r => ∀ made, r = .ok made → made.artifact.Rooted)
      (target layout toolchain here' t.kind t.output inputs) := by
  have hlink : (Errand.submit
      (Linking.spec ⟨toolchain, layout.libDir, t.kind, layout.rooted t.output, inputs⟩)
      (Linking.chore ⟨toolchain, layout.libDir, t.kind, layout.rooted t.output, inputs⟩)
      fun id => .done (.ok ⟨t.kind, layout.rooted t.output, .task id⟩)).Beside layout toolchain
        manifest here here' (fun (r : Except Failure LinkTarget) =>
          ∀ made, r = .ok made → made.artifact.Rooted)
      (Errand.submit
        (Linking.spec ⟨toolchain, layout.libDir, t.kind, layout.rooted t.output, inputs⟩)
        (Linking.chore ⟨toolchain, layout.libDir, t.kind, layout.rooted t.output, inputs⟩)
        fun id => .done (.ok ⟨t.kind, layout.rooted t.output, .task id⟩)) := by
    refine .submit ⟨fun p hp => ?_, hinputs⟩ (Linking.only_chore ht rfl hlibraries) fun id =>
      .done fun made hmade => ?_
    · obtain rfl := Option.some.inj hp
      exact Layout.isAbsolute_rooted hroot t.output
    · cases hmade
      trivial
  simp only [target, Layout.resolveAgainst_root hroot]
  split
  · exact hlink
  · next dir hdir =>
    refine .deed (.output ht hdir) fun made _ => ?_
    cases made with
    | error e => exact .done fun made hmade => by cases hmade
    | ok _ => exact hlink

theorem beside_declareTarget (hroot : layout.root.isAbsolute = true)
    (hobjects : layout.objectDir.isAbsolute = true) (ht : t ∈ manifest.targets)
    (htable : table.Rooted) (hdeclared : ∀ d ∈ declared, d.target.artifact.Rooted) :
    (declareTarget layout toolchain here table declared t).Beside layout toolchain manifest here here'
      (Rooted fun d => d.target.artifact.Rooted)
      (declareTarget layout toolchain here' table declared t) := by
  refine (beside_linkInputs hroot hobjects ht htable hdeclared).bind ?_
  rintro ⟨table', made⟩ ⟨htable', hmade⟩
  cases made with
  | error e => exact .done (rooted_error htable' _)
  | ok inputs =>
    obtain ⟨hinputs, hlibraries⟩ := hmade _ rfl
    refine (beside_target hroot ht hinputs hlibraries).bind fun made htarget => ?_
    cases made with
    | error e => exact .done (rooted_error htable' _)
    | ok target =>
      refine .done ⟨htable', fun d hd => ?_⟩
      cases hd
      exact htarget _ rfl

theorem beside_declareFrom (hroot : layout.root.isAbsolute = true)
    (hobjects : layout.objectDir.isAbsolute = true) {targets : List Manifest.Target}
    (htargets : ∀ t ∈ targets, t ∈ manifest.targets) (htable : table.Rooted)
    (hdeclared : ∀ d ∈ declared, d.target.artifact.Rooted) :
    (declareFrom layout toolchain here table declared targets).Beside layout toolchain manifest here
      here' (fun _ => True) (declareFrom layout toolchain here' table declared targets) := by
  induction targets generalizing table declared with
  | nil => exact .done trivial
  | cons t rest ih =>
    have ht := htargets t List.mem_cons_self
    refine (beside_declareTarget hroot hobjects ht htable hdeclared).bind ?_
    rintro ⟨table', made⟩ ⟨htable', hmade⟩
    cases made with
    | error e => exact .done trivial
    | ok d =>
      refine ih (fun t' ht' => htargets t' (List.mem_cons_of_mem _ ht')) htable' fun d' hd' => ?_
      rcases List.mem_append.1 hd' with hd' | hd'
      · exact hdeclared d' hd'
      · rw [List.mem_singleton.1 hd']
        exact hmade d rfl

/-- The declarations of a manifest from two directories are beside each other, if the root of the project
is absolute. -/
theorem beside_declare (hroot : layout.root.isAbsolute = true)
    (hobjects : layout.objectDir.isAbsolute = true) :
    (declare layout toolchain here ⟨[]⟩ manifest).Beside layout toolchain manifest here here'
      (fun _ => True) (declare layout toolchain here' ⟨[]⟩ manifest) := by
  unfold declare
  split
  · exact .done trivial
  · exact beside_declareFrom hroot hobjects (fun _ ht => ht) (fun e he => nomatch he)
      fun d hd => nomatch hd

end Errand

end NativeBuild
