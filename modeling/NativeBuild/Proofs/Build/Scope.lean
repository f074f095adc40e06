import NativeBuild.Proofs.Build.Errand

/-!
What an errand knows of tasks.  It names only tasks that it has submitted before, so none of its tasks
waits for one that comes later.
-/

namespace NativeBuild

/-- Whether a path is not the output of a task, or of one of the first `n`. -/
def PathRef.Below (n : Nat) : PathRef → Prop
  | .literal _ => True
  | .task k => k < n

theorem PathRef.Below.mono {n n' : Nat} {ref : PathRef} (h : ref.Below n) (hn : n ≤ n') :
    ref.Below n' := by
  cases ref with
  | literal _ => trivial
  | task k => exact Nat.lt_of_lt_of_le h hn

/-- Whether a table names only tasks that are among the first `n`. -/
def ObjectTable.Below (n : Nat) (table : ObjectTable) : Prop :=
  ∀ e ∈ table.entries, e.2.Below n

/-- Whether the inputs of a target name only tasks that are among the first `n`. -/
def LinkInputs.Below (n : Nat) (inputs : LinkInputs) : Prop :=
  ∀ ref ∈ inputs.sources ++ inputs.objects, ref.Below n

/-- Whether a declared target names a task that is among the first `n`. -/
def DeclaredTarget.Below (n : Nat) (d : DeclaredTarget) : Prop :=
  d.target.artifact.Below n

namespace ObjectTable

variable {n n' : Nat} {table : ObjectTable}

theorem Below.mono (h : table.Below n) (hn : n ≤ n') : table.Below n' :=
  fun e he => (h e he).mono hn

theorem Below.lookup? (h : table.Below n) {key : ObjectKey} {object : PathRef}
    (hl : table.lookup? key = some object) : object.Below n := by
  obtain ⟨e, he, rfl⟩ := Option.map_eq_some_iff.1 hl
  exact h e (List.mem_of_find?_eq_some he)

theorem Below.insert (h : table.Below n) (key : ObjectKey) {object : PathRef}
    (ho : object.Below n) : (table.insert key object).Below n := by
  intro e he
  rcases List.mem_append.1 he with he | he
  · exact h e he
  · rw [List.mem_singleton.1 he]
    exact ho

end ObjectTable

/-- The artifacts that are named are those of declared targets. -/
theorem Build.exists_of_artifactsOf {declared : List DeclaredTarget} {target : String}
    {names : List String} {refs : List PathRef} (hrefs : artifactsOf declared target names = .ok refs)
    {ref : PathRef} (href : ref ∈ refs) : ∃ d ∈ declared, d.target.artifact = ref := by
  induction names generalizing refs with
  | nil =>
    cases hrefs
    cases href
  | cons name rest ih =>
    rw [artifactsOf] at hrefs
    cases hfound : declared.find? fun d => d.name == name with
    | none => rw [hfound] at hrefs; cases hrefs
    | some d =>
      cases hmore : artifactsOf declared target rest with
      | error e => rw [hfound, hmore] at hrefs; cases hrefs
      | ok more =>
        rw [hfound, hmore] at hrefs
        cases hrefs
        rcases List.mem_cons.1 href with rfl | href
        · exact ⟨d, List.mem_of_find?_eq_some hfound, rfl⟩
        · exact ih hmore href

/-- The artifacts of declared targets are what these name. -/
theorem Build.below_artifactsOf {n : Nat} {declared : List DeclaredTarget}
    (h : ∀ d ∈ declared, d.Below n) {target : String} {names : List String} {refs : List PathRef}
    (hrefs : artifactsOf declared target names = .ok refs) : ∀ ref ∈ refs, ref.Below n := by
  intro ref href
  obtain ⟨d, hd, rfl⟩ := exists_of_artifactsOf hrefs href
  exact h d hd

namespace Errand

variable {α β : Type} {n : Nat}

/-- Whether an errand that comes when there are `n` tasks names only tasks that there are, and comes
to what `P` says. -/
def Within (P : Nat → α → Prop) : Errand α → Nat → Prop
  | .done a, n => P n a
  | .deed _ next, n => ∀ answer, (next answer).Within P n
  | .submit spec _ next, n => (∀ ref ∈ spec.inputs, ref.Below n) ∧ (next n).Within P (n + 1)

theorem Within.bind {P : Nat → α → Prop} {Q : Nat → β → Prop} {e : Errand α} {k : α → Errand β}
    (h : e.Within P n) (hk : ∀ n a, P n a → (k a).Within Q n) : (e.bind k).Within Q n := by
  induction e generalizing n with
  | done a => exact hk n a h
  | deed d next ih => exact fun answer => ih answer (h answer)
  | submit spec body next ih => exact ⟨h.1, ih n h.2⟩

theorem Within.imp {P Q : Nat → α → Prop} {e : Errand α} (h : e.Within P n)
    (hpq : ∀ n a, P n a → Q n a) : e.Within Q n := by
  induction e generalizing n with
  | done a => exact hpq n a h
  | deed d next ih => exact fun answer => ih answer (h answer)
  | submit spec body next ih => exact ⟨h.1, ih n h.2⟩

/-- Whether an errand submits nothing, and does no deeds but those in `R`. -/
def Reads (R : Deed → Prop) : Errand α → Prop
  | .done _ => True
  | .deed d next => R d ∧ ∀ answer, (next answer).Reads R
  | .submit _ _ _ => False

section

variable {R : Deed → Prop}

theorem Reads.bind {e : Errand α} {k : α → Errand β} (h : e.Reads R) (hk : ∀ a, (k a).Reads R) :
    (e.bind k).Reads R := by
  induction e with
  | done a => exact hk a
  | deed d next ih => exact ⟨h.1, fun answer => ih answer (h.2 answer)⟩
  | submit spec body next ih => exact h.elim

theorem Reads.within {e : Errand α} (h : e.Reads R) {k : α → Errand β} {Q : Nat → β → Prop}
    (hk : ∀ a, (k a).Within Q n) : (e.bind k).Within Q n := by
  induction e with
  | done a => exact hk a
  | deed d next ih => exact fun answer => ih answer (h.2 answer)
  | submit spec body next ih => exact h.elim

theorem reads_gatherAll {rooted : Path → Path} {dirs : List Path}
    (h : ∀ dir ∈ dirs, ∀ found, R (.gather found (rooted dir))) (found : SourceSet) :
    (gatherAll rooted dirs found).Reads R := by
  induction dirs generalizing found with
  | nil => trivial
  | cons dir rest ih =>
    exact ⟨h dir List.mem_cons_self found,
      fun answer => ih (fun d hd => h d (List.mem_cons_of_mem _ hd)) answer⟩

theorem reads_find {name : String} {candidates : List Path} (h : ∀ p, R (.probe p)) :
    (find name candidates).Reads R := by
  induction candidates with
  | nil => trivial
  | cons candidate rest ih =>
    refine ⟨h candidate, fun found => ?_⟩
    cases found with
    | true => trivial
    | false => exact ih

variable (hhere : R .here)
include hhere

theorem reads_sources {layout : Layout} {s : Manifest.Sources}
    (h : ∀ dir ∈ s.dirs, ∀ here found, R (.gather found (dir.resolveAgainst here layout.root))) :
    (sources layout s).Reads R :=
  ⟨hhere, fun here => (reads_gatherAll (fun dir hd => h dir hd here) _).bind fun _ => trivial⟩

variable (hprobe : ∀ p, R (.probe p))
include hprobe

theorem reads_findLibrary (dirs : List Path) (name : String) : (findLibrary dirs name).Reads R := by
  refine ⟨hhere, fun here => ⟨hprobe _, fun found => ?_⟩⟩
  cases found with
  | true => trivial
  | false => exact reads_find hprobe

theorem reads_prebuilts (dirs : List Path) (names : List String) :
    (prebuilts dirs names).Reads R := by
  induction names with
  | nil => trivial
  | cons name rest ih =>
    exact (reads_findLibrary hhere hprobe dirs name).bind fun _ => ih.bind fun _ => trivial

theorem reads_entry (dirs : List Path) (e : Manifest.LibraryEntry) : (entry dirs e).Reads R := by
  cases e with
  | prebuilt name => exact (reads_findLibrary hhere hprobe dirs name).bind fun _ => trivial
  | linker name os =>
    cases os with
    | none => trivial
    | some id =>
      simp only [entry]
      cases Platform.ofHostId id <;> trivial
  | config command => trivial

theorem reads_entries (dirs : List Path) (es : List Manifest.LibraryEntry) :
    (entries dirs es).Reads R := by
  induction es with
  | nil => trivial
  | cons e rest ih =>
    refine (reads_entry hhere hprobe dirs e).bind fun found => ?_
    cases found with
    | error _ => trivial
    | ok library => exact ih.bind fun _ => trivial

theorem reads_libraries (dirs : List Path) (t : Manifest.Target) : (libraries dirs t).Reads R :=
  (reads_prebuilts hhere hprobe dirs _).bind fun _ =>
    (reads_entries hhere hprobe dirs _).bind fun _ => trivial

end

/-- Whether a table names only tasks that there are, of which there were `n` before, and what was asked
for on the way is as `P` says. -/
def Asked {α ε : Type} (n : Nat) (P : Nat → α → Prop) (n' : Nat) (r : ObjectTable × Except ε α) :
    Prop :=
  n ≤ n' ∧ r.1.Below n' ∧ ∀ a, r.2 = .ok a → P n' a

section

variable {layout : Layout} {toolchain : Toolchain} {here : Path} {table : ObjectTable}
  {declared : List DeclaredTarget}

theorem within_compile (h : table.Below n) (source : Path) (flags : List String) :
    (compile layout toolchain here table source flags).Within
      (Asked n fun n ref => PathRef.Below n ref) n := by
  simp only [compile]
  split
  · next object hl =>
    refine ⟨Nat.le_refl n, h, fun ref href => ?_⟩
    cases href
    exact h.lookup? hl
  · intro made
    cases made with
    | error e => exact ⟨Nat.le_refl n, h, fun ref href => by cases href⟩
    | ok _ =>
      have hnew : (PathRef.task n).Below (n + 1) := Nat.lt_succ_self n
      have hinputs : (Compilation.of toolchain layout.objectDir (.of here source flags)).spec.inputs =
          [] := rfl
      refine ⟨fun ref href => ?_, Nat.le_succ n, ?_, fun ref href => ?_⟩
      · rw [hinputs] at href
        cases href
      · exact (h.mono (Nat.le_succ n)).insert _ hnew
      · cases href
        exact hnew

theorem within_compileAll (h : table.Below n) (flags : List String) (files : List Path) :
    (compileAll layout toolchain here flags table files).Within
      (Asked n fun n refs => ∀ ref ∈ refs, PathRef.Below n ref) n := by
  induction files generalizing table n with
  | nil =>
    refine ⟨Nat.le_refl n, h, fun refs hrefs => ?_⟩
    cases hrefs
    exact fun ref href => nomatch href
  | cons source rest ih =>
    refine (within_compile h source flags).bind ?_
    rintro n' ⟨table', made⟩ ⟨hn, htable, hmade⟩
    cases made with
    | error e => exact ⟨hn, htable, fun refs hrefs => nomatch hrefs⟩
    | ok object =>
      refine (ih htable).bind ?_
      rintro n'' ⟨table'', objects⟩ ⟨hn', htable', hobjects⟩
      refine ⟨Nat.le_trans hn hn', htable', fun refs hrefs => ?_⟩
      cases objects with
      | error e => exact nomatch hrefs
      | ok objects =>
        cases hrefs
        intro ref href
        rcases List.mem_cons.1 href with rfl | href
        · exact (hmade _ rfl).mono hn'
        · exact hobjects _ rfl ref href

theorem within_linkInputs (h : table.Below n) (hd : ∀ d ∈ declared, d.Below n)
    (t : Manifest.Target) :
    (linkInputs layout toolchain here table declared t).Within
      (Asked n fun n inputs => LinkInputs.Below n inputs) n := by
  have hsources : (sources layout t.sources).Reads fun _ => True :=
    reads_sources trivial fun _ _ _ _ => trivial
  refine hsources.within fun files => ?_
  refine (within_compileAll h t.sources.flags files).bind ?_
  rintro n' ⟨table', made⟩ ⟨hn, htable, hmade⟩
  cases made with
  | error e => exact ⟨hn, htable, fun inputs hinputs => nomatch hinputs⟩
  | ok sources =>
    cases hobjects : Build.artifactsOf declared t.name t.link with
    | error e =>
      exact ⟨hn, htable, fun inputs hinputs => nomatch hinputs⟩
    | ok objects =>
      have hlibraries : (libraries layout.librarySearchPaths t).Reads fun _ => True :=
        reads_libraries trivial (fun _ => trivial) _ t
      refine hlibraries.within fun found => ⟨hn, htable, fun inputs hinputs => ?_⟩
      cases found with
      | error e => exact nomatch hinputs
      | ok libraries =>
        cases hinputs
        intro ref href
        rcases List.mem_append.1 href with href | href
        · exact hmade _ rfl ref href
        · exact (Build.below_artifactsOf hd hobjects ref href).mono hn

theorem within_target (kind : ArtifactKind) (output : Path) {inputs : LinkInputs}
    (h : inputs.Below n) :
    (target layout toolchain here kind output inputs).Within
      (fun n' r => n ≤ n' ∧ ∀ t, r = .ok t → t.artifact.Below n') n := by
  have hlink : (Errand.submit
      (Linking.spec ⟨toolchain, layout.libDir, kind, output.resolveAgainst here layout.root, inputs⟩)
      (Linking.chore ⟨toolchain, layout.libDir, kind, output.resolveAgainst here layout.root, inputs⟩)
      fun id => .done (.ok ⟨kind, output.resolveAgainst here layout.root, .task id⟩)).Within
      (fun n' (r : Except Failure LinkTarget) => n ≤ n' ∧ ∀ t, r = .ok t → t.artifact.Below n') n := by
    refine ⟨h, Nat.le_succ n, fun t ht => ?_⟩
    cases ht
    exact Nat.lt_succ_self n
  simp only [target]
  split
  · exact hlink
  · intro made
    cases made with
    | error e => exact ⟨Nat.le_refl n, fun t ht => by cases ht⟩
    | ok _ => exact hlink

theorem within_declareTarget (h : table.Below n) (hd : ∀ d ∈ declared, d.Below n)
    (t : Manifest.Target) :
    (declareTarget layout toolchain here table declared t).Within
      (Asked n fun n d => DeclaredTarget.Below n d) n := by
  refine (within_linkInputs h hd t).bind ?_
  rintro n' ⟨table', made⟩ ⟨hn, htable, hmade⟩
  cases made with
  | error e => exact ⟨hn, htable, fun d hd => nomatch hd⟩
  | ok inputs =>
    refine (within_target t.kind t.output (hmade _ rfl)).bind ?_
    rintro n'' made ⟨hn', htarget⟩
    cases made with
    | error e => exact ⟨Nat.le_trans hn hn', htable.mono hn', fun d hd => nomatch hd⟩
    | ok target =>
      refine ⟨Nat.le_trans hn hn', htable.mono hn', fun d hd => ?_⟩
      cases hd
      exact htarget _ rfl

theorem within_declareFrom (h : table.Below n) (hd : ∀ d ∈ declared, d.Below n)
    (targets : List Manifest.Target) :
    (declareFrom layout toolchain here table declared targets).Within
      (Asked n fun n ds => ∀ d ∈ ds, DeclaredTarget.Below n d) n := by
  induction targets generalizing table declared n with
  | nil =>
    refine ⟨Nat.le_refl n, h, fun ds hds => ?_⟩
    cases hds
    exact hd
  | cons t rest ih =>
    refine (within_declareTarget h hd t).bind ?_
    rintro n' ⟨table', made⟩ ⟨hn, htable, hmade⟩
    cases made with
    | error e => exact ⟨hn, htable, fun ds hds => nomatch hds⟩
    | ok d =>
      refine (ih htable fun d' hd' => ?_).imp fun n'' r hr => ⟨Nat.le_trans hn hr.1, hr.2⟩
      rcases List.mem_append.1 hd' with hd' | hd'
      · exact (hd d' hd').mono hn
      · rw [List.mem_singleton.1 hd']
        exact hmade d rfl

/-- Declaring a manifest names only tasks that it has submitted before, and so do the targets that come
of it. -/
theorem within_declared (layout : Layout) (toolchain : Toolchain) (here : Path)
    (manifest : Manifest) :
    (declare layout toolchain here ⟨[]⟩ manifest).Within
      (Asked 0 fun n ds => ∀ d ∈ ds, DeclaredTarget.Below n d) 0 := by
  have hempty : ObjectTable.Below 0 ⟨[]⟩ := fun e he => nomatch he
  unfold declare
  split
  · exact ⟨Nat.le_refl 0, hempty, fun ds hds => nomatch hds⟩
  · refine within_declareFrom hempty ?_ _
    exact fun d hd => nomatch hd

theorem within_declare (layout : Layout) (toolchain : Toolchain) (here : Path)
    (manifest : Manifest) :
    (declare layout toolchain here ⟨[]⟩ manifest).Within (fun _ _ => True) 0 :=
  (within_declared layout toolchain here manifest).imp fun _ _ _ => trivial

end

end Errand

end NativeBuild
