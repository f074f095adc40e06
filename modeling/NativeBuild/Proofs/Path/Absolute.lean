import NativeBuild.Manifest.Basic
import NativeBuild.ObjectKey
import NativeBuild.Proofs.Path.Components
import NativeBuild.SourceSet
import NativeBuild.Toolchain

/-!
Paths that start at the root.  Their absolute form does not depend on the current directory, and below
an absolute directory everything is absolute; so all that is seen from the root of a project stays where
it is when the project is looked at from elsewhere.
-/

namespace NativeBuild

namespace Path

variable {p q here base : Path}

theorem exists_of_isAbsolute (h : p.isAbsolute = true) : ∃ rest, p = ⟨'/' :: rest⟩ := by
  obtain ⟨chars⟩ := p
  cases chars with
  | nil => simp [isAbsolute] at h
  | cons first rest =>
    obtain rfl : first = '/' := by simpa [isAbsolute] using h
    exact ⟨rest, rfl⟩

theorem chars_ne_nil (h : p.isAbsolute = true) : p.chars ≠ [] := by
  obtain ⟨rest, rfl⟩ := exists_of_isAbsolute h
  exact List.cons_ne_nil _ _

theorem isAbsolute_append_of (h : p.isAbsolute = true) (piece : List Char) :
    (p.append piece).isAbsolute = true :=
  (isAbsolute_append (chars_ne_nil h) piece).trans h

/-- The anchor of an absolute path is the root, in one of its two spellings. -/
theorem anchor_of_isAbsolute (h : p.isAbsolute = true) (here here' : Path) :
    (p.anchor here).isAbsolute = true ∧ p.anchor here = p.anchor here' := by
  obtain ⟨rest, rfl⟩ := exists_of_isAbsolute h
  unfold anchor
  split
  · exact ⟨rfl, rfl⟩
  · exact ⟨rfl, rfl⟩
  · exact ⟨rfl, rfl⟩
  · next hslash => exact absurd rfl (hslash rest)

theorem isAbsolute_foldl_append (h : p.isAbsolute = true) (steps : List (List Char)) :
    (steps.foldl append p).isAbsolute = true := by
  induction steps generalizing p with
  | nil => exact h
  | cons step rest ih => exact ih (isAbsolute_append_of h step)

theorem isAbsolute_absolute (h : p.isAbsolute = true) : (p.absolute here).isAbsolute = true := by
  have hfull := isAbsolute_foldl_append (anchor_of_isAbsolute h here here).1 p.steps
  unfold absolute
  split
  · exact h
  · split
    · exact isAbsolute_append_of hfull []
    · exact hfull

/-- The absolute form of an absolute path is the same from everywhere. -/
theorem absolute_elsewhere (h : p.isAbsolute = true) (here here' : Path) :
    p.absolute here = p.absolute here' := by
  rw [absolute, absolute, (anchor_of_isAbsolute h here here').2]

theorem isAbsolute_join (h : p.isAbsolute = true) : (p.join q).isAbsolute = true := by
  unfold join
  split
  · assumption
  · exact isAbsolute_append_of h _

theorem isAbsolute_child (h : p.isAbsolute = true) (name : String) :
    (p.child name).isAbsolute = true :=
  isAbsolute_join h

/-- What is seen from an absolute directory is the same from everywhere. -/
theorem resolveAgainst_elsewhere (h : base.isAbsolute = true) (p here here' : Path) :
    p.resolveAgainst here base = p.resolveAgainst here' base := by
  rw [resolveAgainst, resolveAgainst, absolute_elsewhere (isAbsolute_join h) here here']

theorem isAbsolute_resolveAgainst (h : base.isAbsolute = true) :
    (p.resolveAgainst here base).isAbsolute = true := by
  unfold resolveAgainst
  split
  · assumption
  · exact isAbsolute_absolute (isAbsolute_join h)

end Path

/-! ### The parts of a project -/

namespace Layout

variable {here root : Path} {settings : Settings}

theorem isAbsolute_root (h : root.isAbsolute = true) :
    (ofRoot here settings root).root.isAbsolute = true :=
  Path.isAbsolute_absolute h

theorem moved?_elsewhere (h : root.isAbsolute = true) (setting : Option String)
    (here here' : Path) : moved? here root setting = moved? here' root setting := by
  unfold moved?
  refine congrArg (Option.map · _) (funext fun text => ?_)
  exact Path.absolute_elsewhere (Path.isAbsolute_child h text) here here'

theorem isAbsolute_of_moved? (h : root.isAbsolute = true) {setting : Option String} {p : Path}
    (hp : moved? here root setting = some p) : p.isAbsolute = true := by
  obtain ⟨text, -, rfl⟩ := Option.map_eq_some_iff.1 hp
  exact Path.isAbsolute_absolute (Path.isAbsolute_child h text)

/-- Wherever the settings move the build and the object directory, they are seen from the root. -/
theorem ofRoot_elsewhere (h : root.isAbsolute = true) (settings : Settings) (here here' : Path) :
    ofRoot here settings root = ofRoot here' settings root := by
  have hroot : (root.absolute here').isAbsolute = true := Path.isAbsolute_absolute h
  simp only [ofRoot, Path.absolute_elsewhere h here here', moved?_elsewhere hroot _ here here']

theorem isAbsolute_buildDir (h : root.isAbsolute = true) :
    (ofRoot here settings root).buildDir.isAbsolute = true := by
  have hroot : (root.absolute here).isAbsolute = true := Path.isAbsolute_absolute h
  simp only [ofRoot]
  cases hbuild : moved? here (root.absolute here) settings.buildDir with
  | some p => exact isAbsolute_of_moved? hroot hbuild
  | none => exact Path.isAbsolute_child hroot "build"

theorem isAbsolute_objectDir (h : root.isAbsolute = true) :
    (ofRoot here settings root).objectDir.isAbsolute = true := by
  have hroot : (root.absolute here).isAbsolute = true := Path.isAbsolute_absolute h
  simp only [ofRoot]
  cases hobjects : moved? here (root.absolute here) settings.objectDir with
  | some p => exact isAbsolute_of_moved? hroot hobjects
  | none => exact Path.isAbsolute_child (isAbsolute_buildDir h) "obj"

theorem isAbsolute_of_mem_librarySearchPaths (h : root.isAbsolute = true) {dir : Path}
    (hdir : dir ∈ (ofRoot here settings root).librarySearchPaths) : dir.isAbsolute = true := by
  have hroot : (root.absolute here).isAbsolute = true := Path.isAbsolute_absolute h
  simp only [librarySearchPaths, ofRoot, List.mem_cons, List.not_mem_nil, or_false] at hdir
  rcases hdir with rfl | rfl
  · exact Path.isAbsolute_child (Path.isAbsolute_child hroot _) _
  · exact isAbsolute_buildDir h

/-- A path of a manifest, seen from the root of the project. -/
def rooted (layout : Layout) (p : Path) : Path :=
  p.resolveAgainst layout.root layout.root

theorem resolveAgainst_root {layout : Layout} (h : layout.root.isAbsolute = true) (p here : Path) :
    p.resolveAgainst here layout.root = layout.rooted p :=
  Path.resolveAgainst_elsewhere h p here layout.root

theorem isAbsolute_rooted {layout : Layout} (h : layout.root.isAbsolute = true) (p : Path) :
    (layout.rooted p).isAbsolute = true :=
  Path.isAbsolute_resolveAgainst h

end Layout

/-- What a manifest adds to a toolchain is the same from everywhere. -/
theorem Manifest.Tools.apply_elsewhere {base : Path} (h : base.isAbsolute = true) (tools : Tools)
    (t : Toolchain) (here here' : Path) : tools.apply here base t = tools.apply here' base t := by
  simp only [apply, programPath, Path.resolveAgainst_elsewhere h _ here here']

theorem ObjectKey.of_elsewhere {source : Path} (h : source.isAbsolute = true) (flags : List String)
    (here here' : Path) : ObjectKey.of here source flags = ObjectKey.of here' source flags := by
  rw [of, of, Path.absolute_elsewhere h here here']

namespace SourceSet

variable {s : SourceSet} {here p : Path}

/-- Whether all files of a set are absolute. -/
def IsAbsolute (s : SourceSet) : Prop :=
  ∀ p ∈ s.files, p.isAbsolute = true

theorem mem_insert {q : Path} {files : List Path} (h : q ∈ insert p files) : q = p ∨ q ∈ files := by
  induction files with
  | nil => exact .inl (List.mem_singleton.1 h)
  | cons first rest ih =>
    unfold insert at h
    split at h
    · exact List.mem_cons.1 h
    · split at h
      · rcases List.mem_cons.1 h with rfl | h
        · exact .inr List.mem_cons_self
        · exact (ih h).imp_right (List.mem_cons_of_mem _)
      · exact .inr h

theorem addFile_elsewhere (hp : p.isAbsolute = true) (s : SourceSet) (here here' : Path) :
    s.addFile here p = s.addFile here' p := by
  rw [addFile, addFile, Path.absolute_elsewhere hp here here']

namespace IsAbsolute

theorem addFile (hs : s.IsAbsolute) (hp : p.isAbsolute = true) : (s.addFile here p).IsAbsolute := by
  intro q hq
  rcases mem_insert hq with rfl | hq
  · exact Path.isAbsolute_absolute hp
  · exact hs q hq

theorem foldl {α : Type} {f : α → Path} {l : List α} (hs : s.IsAbsolute)
    (h : ∀ a ∈ l, (f a).isAbsolute = true) :
    (l.foldl (fun s a => s.addFile here (f a)) s).IsAbsolute := by
  induction l generalizing s with
  | nil => exact hs
  | cons a rest ih =>
    exact ih (hs.addFile (h a List.mem_cons_self)) fun b hb => h b (List.mem_cons_of_mem _ hb)

/-- A directory that is absolute adds absolute files, from wherever it is looked into. -/
theorem addDirectory (hs : s.IsAbsolute) {dir : Path} (hdir : dir.isAbsolute = true) (m : Machine) :
    (SourceSet.addDirectory m s dir).IsAbsolute := by
  unfold SourceSet.addDirectory
  split
  · exact hs
  · refine hs.foldl (f := Prod.fst) fun found hfound => ?_
    obtain ⟨⟨name, e⟩, -, rfl⟩ := List.mem_map.1 (List.mem_filter.1 hfound).1
    exact Path.isAbsolute_append_of hdir name

end IsAbsolute

end SourceSet

end NativeBuild
