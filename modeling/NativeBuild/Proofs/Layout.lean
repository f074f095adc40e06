import NativeBuild.Build.Jobs
import NativeBuild.Proofs.Path.Normal

/-!
The layout of a project.  Below a root that is not the empty path all its directories are absolute,
and they are found again from the root of the layout, from whatever directory that is done; so nothing
that is made from the layout depends on the current directory.  The empty root is left as it is, and
gives directories that do.
-/

namespace NativeBuild

namespace Path

variable {p q here : Path}

/-! ### Paths with the same components -/

theorem same_child (hp : p.isAbsolute = true) (hq : q.isAbsolute = true) (h : p.Same q)
    (name : String) : (p.child name).Same (q.child name) := by
  unfold child join
  split
  · rfl
  · rw [Same, components_append_of_ne_nil (chars_ne_nil hp),
      components_append_of_ne_nil (chars_ne_nil hq), show p.components = q.components from h]

theorem same_absolute_of_same (hp : p.isAbsolute = true) (hq : q.isAbsolute = true) (h : p.Same q)
    (here : Path) : (p.absolute here).Same (q.absolute here) :=
  (same_absolute hp here).trans (h.trans (same_absolute hq here).symm)

/-- No other path has the absolute form of the empty one. -/
theorem chars_eq_nil_of_same (hhere : here.IsClean) (h : (p.absolute here).Same (q.absolute here))
    (hp : p.chars = []) : q.chars = [] := by
  by_contra hq
  rw [absolute_of_nil hp, Same, components_of_nil hp] at h
  exact components_absolute_ne_nil hq hhere h.symm

end Path

namespace Layout

variable {here root root' d : Path} {settings : Settings}

/-- The directories of a project. -/
def directories (l : Layout) : List Path :=
  [l.root, l.sourceDir, l.buildDir, l.objectDir, l.generatedDir, l.includeDir, l.binDir, l.libDir]

/-- Whether two layouts have the same directories, however they are written. -/
def Alike (l l' : Layout) : Prop :=
  List.Forall₂ Path.Same l.directories l'.directories

theorem Alike.refl (l : Layout) : Alike l l :=
  List.forall₂_same.2 fun _ _ => rfl

/-! ### Roots with one absolute form -/

theorem ofRoot_congr (h : root.absolute here = root'.absolute here) :
    ofRoot here settings root = ofRoot here settings root' := by
  simp only [ofRoot, h]

theorem ofRoot_absolute (hhere : here.IsClean) :
    ofRoot here settings (root.absolute here) = ofRoot here settings root :=
  ofRoot_congr (Path.absolute_absolute root hhere)

/-- Where a setting moves a directory depends on the components of the root alone. -/
theorem same_moved? (here : Path) (hp : root.isAbsolute = true) (hq : root'.isAbsolute = true)
    (h : root.Same root') (setting : Option String) {p q : Path} (hpq : p.Same q) :
    ((moved? here root setting).getD p).Same ((moved? here root' setting).getD q) := by
  unfold moved?
  cases Settings.given? setting with
  | none => exact hpq
  | some text =>
    exact Path.same_absolute_of_same (Path.isAbsolute_child hp text) (Path.isAbsolute_child hq text)
      (Path.same_child hp hq h text) here

theorem alike_of_same (hp : root.isAbsolute = true) (hq : root'.isAbsolute = true)
    (h : root.Same root') : (ofRoot here settings root).Alike (ofRoot here settings root') := by
  have hp' : (root.absolute here).isAbsolute = true := Path.isAbsolute_absolute hp
  have hq' : (root'.absolute here).isAbsolute = true := Path.isAbsolute_absolute hq
  have hroot : (root.absolute here).Same (root'.absolute here) :=
    Path.same_absolute_of_same hp hq h here
  have hchild (name : String) := Path.same_child hp' hq' hroot name
  have hprebuilt (name : String) := Path.same_child (Path.isAbsolute_child hp' "third_party")
    (Path.isAbsolute_child hq' "third_party") (hchild "third_party") name
  have hbuild : (ofRoot here settings root).buildDir.Same (ofRoot here settings root').buildDir :=
    same_moved? here hp' hq' hroot settings.buildDir (hchild "build")
  have hobjects := same_moved? here hp' hq' hroot settings.objectDir
    (Path.same_child (isAbsolute_buildDir hp) (isAbsolute_buildDir hq) hbuild "obj")
  exact .cons hroot (.cons (hchild _) (.cons hbuild (.cons hobjects (.cons (hchild _)
    (.cons (hprebuilt _) (.cons (hprebuilt _) (.cons (hprebuilt _) .nil)))))))

/-- Roots whose absolute forms are the same path give layouts with the same directories. -/
theorem alike_ofRoot (hhere : here.IsClean) (h : (root.absolute here).Same (root'.absolute here)) :
    (ofRoot here settings root).Alike (ofRoot here settings root') := by
  by_cases hroot : root.chars = []
  · have hroot' := Path.chars_eq_nil_of_same hhere h hroot
    obtain ⟨chars⟩ := root
    obtain ⟨chars'⟩ := root'
    cases hroot
    cases hroot'
    exact .refl _
  · have hroot' : root'.chars ≠ [] := fun hnil =>
      hroot (Path.chars_eq_nil_of_same hhere h.symm hnil)
    have halike : (ofRoot here settings (root.absolute here)).Alike
        (ofRoot here settings (root'.absolute here)) :=
      alike_of_same (Path.isAbsolute_absolute_of_clean hroot hhere)
        (Path.isAbsolute_absolute_of_clean hroot' hhere) h
    rwa [ofRoot_absolute hhere, ofRoot_absolute hhere] at halike

/-! ### Absolute directories -/

theorem isAbsolute_of_mem_directories (h : root.isAbsolute = true)
    (hd : d ∈ (ofRoot here settings root).directories) : d.isAbsolute = true := by
  have hroot : (ofRoot here settings root).root.isAbsolute = true := isAbsolute_root h
  have hprebuilt := Path.isAbsolute_child hroot "third_party"
  simp only [directories, List.mem_cons, List.not_mem_nil, or_false] at hd
  rcases hd with rfl | rfl | rfl | rfl | rfl | rfl | rfl | rfl
  · exact hroot
  · exact Path.isAbsolute_child hroot _
  · exact isAbsolute_buildDir h
  · exact isAbsolute_objectDir h
  · exact Path.isAbsolute_child hroot _
  · exact Path.isAbsolute_child hprebuilt _
  · exact Path.isAbsolute_child hprebuilt _
  · exact Path.isAbsolute_child hprebuilt _

/-- All directories are absolute unless the root is the empty path, which is left as it is. -/
theorem forall_isAbsolute_iff (hhere : here.IsClean) :
    (∀ d ∈ (ofRoot here settings root).directories, d.isAbsolute = true) ↔ root.chars ≠ [] := by
  constructor
  · intro h hnil
    have hroot : (root.absolute here).isAbsolute = true := h _ List.mem_cons_self
    rw [Path.absolute_of_nil hnil] at hroot
    exact Path.chars_ne_nil hroot hnil
  · intro hroot d hd
    rw [← ofRoot_absolute hhere] at hd
    exact isAbsolute_of_mem_directories (Path.isAbsolute_absolute_of_clean hroot hhere) hd

/-- From its own root a layout is found again, from wherever that is done. -/
theorem ofRoot_ofRoot (hhere : here.IsClean) (hroot : root.chars ≠ []) (here' : Path) :
    ofRoot here' settings (ofRoot here settings root).root = ofRoot here settings root := by
  have habs := Path.isAbsolute_absolute_of_clean hroot hhere
  calc ofRoot here' settings (root.absolute here)
    _ = ofRoot here settings (root.absolute here) := ofRoot_elsewhere habs settings here' here
    _ = ofRoot here settings root := ofRoot_absolute hhere

/-- The layout of a project does not depend on where it is looked at from, for every root but the
empty path and whatever the settings move.  All its directories are absolute exactly if the root is
not empty.  Roots with the same absolute form have the same layout, and with absolute forms that are
the same path layouts with the same directories; and the root of a layout gives it again.  After a
change of the current directory it still does, with the same base flags, and the objects and the
directories that are searched for libraries are where they were. -/
theorem ofRoot_stable (hhere : here.IsClean) (settings : Settings) (root : Path) :
    let layout := ofRoot here settings root
    ((∀ d ∈ layout.directories, d.isAbsolute = true) ↔ root.chars ≠ []) ∧
    (∀ root', (root'.absolute here = root.absolute here → ofRoot here settings root' = layout) ∧
      ((root'.absolute here).Same (root.absolute here) →
        (ofRoot here settings root').Alike layout)) ∧
    ofRoot here settings layout.root = layout ∧
    (root.chars ≠ [] → ∀ here',
      ofRoot here' settings layout.root = layout ∧
      (∀ platform, Toolchain.defaultFlags (ofRoot here' settings layout.root) platform =
        Toolchain.defaultFlags layout platform) ∧
      (∀ toolchain key, ((Compilation.of toolchain layout.objectDir key).object.absolute here').Same
        (Compilation.of toolchain layout.objectDir key).object) ∧
      ∀ dir ∈ layout.librarySearchPaths, (dir.absolute here').Same dir) := by
  intro layout
  refine ⟨forall_isAbsolute_iff hhere, fun root' => ⟨ofRoot_congr, alike_ofRoot hhere⟩,
    ofRoot_absolute hhere, fun hroot here' => ?_⟩
  have hagain : ofRoot here' settings layout.root = layout := ofRoot_ofRoot hhere hroot here'
  have habs : ∀ d ∈ layout.directories, d.isAbsolute = true := (forall_isAbsolute_iff hhere).2 hroot
  refine ⟨hagain, fun platform => by rw [hagain], fun toolchain key => ?_, fun dir hdir => ?_⟩
  · exact Path.same_absolute (Path.isAbsolute_child (habs _ (by simp [directories])) _) here'
  · refine Path.same_absolute (habs dir ?_) here'
    simp only [librarySearchPaths, List.mem_cons, List.not_mem_nil, or_false] at hdir
    rcases hdir with rfl | rfl <;> simp [directories]

/-- The environment without any setting. -/
def unset : Settings :=
  ⟨none, none, none, none, none⟩

/-- The empty root gives directories that are relative, and a flag for the directory of includes that
names none. -/
theorem exists_relative_directory : ∃ here : Path, here.IsClean ∧
    (∃ d ∈ (ofRoot here unset ⟨[]⟩).directories, d.isAbsolute = false) ∧
    "-I" ∈ Toolchain.defaultFlags (ofRoot here unset ⟨[]⟩) .linux :=
  ⟨⟨"/w".toList⟩, by decide, ⟨⟨[]⟩, by decide, rfl⟩, by decide⟩

/-- A project below the current directory, whose build directory is moved. -/
theorem ofRoot_stable_below :
    (⟨"/w".toList⟩ : Path).IsClean ∧ (⟨"./p//".toList⟩ : Path).chars ≠ [] ∧
    (ofRoot ⟨"/w".toList⟩ { unset with buildDir := some "out/" } ⟨"./p//".toList⟩).objectDir =
      ⟨"/w/p/out/obj".toList⟩ ∧
    ofRoot ⟨"/v".toList⟩ { unset with buildDir := some "out/" } ⟨"/w/p/".toList⟩ =
      ofRoot ⟨"/w".toList⟩ { unset with buildDir := some "out/" } ⟨"./p//".toList⟩ := by
  have hhere : (⟨"/w".toList⟩ : Path).IsClean := by decide
  have hroot : (⟨"./p//".toList⟩ : Path).chars ≠ [] := by decide
  obtain ⟨-, -, -, hstable⟩ :=
    ofRoot_stable hhere { unset with buildDir := some "out/" } ⟨"./p//".toList⟩
  exact ⟨hhere, hroot, by decide, (hstable hroot ⟨"/v".toList⟩).1⟩

end Layout

end NativeBuild
