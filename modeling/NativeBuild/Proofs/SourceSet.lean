import Mathlib.Data.List.Sort
import Mathlib.Data.Set.Card
import NativeBuild.Proofs.Path.Absolute

/-!
Source files that are gathered in several steps.  The set is kept in ascending order; which files
are in it depends on which steps were made, not on their order or on how often one was made.
-/

namespace NativeBuild

theorem Component.key_injective : Function.Injective Component.key := by
  intro c d h
  cases c <;> cases d <;> simp [Component.key] at h
  · rfl
  · rfl
  · rfl
  · have hnames := List.map_injective_iff.2 (fun _ _ => Char.toNat_inj.1) h
    rw [hnames]

namespace Path

variable {p q r : Path}

/-- Paths with one place in the order are the same. -/
theorem key_eq_iff : p.key = q.key ↔ p.Same q :=
  (List.map_injective_iff.2 Component.key_injective).eq_iff

theorem before_iff : p.before q = true ↔ p.key < q.key :=
  decide_eq_true_iff

theorem before_trans (hpq : p.before q = true) (hqr : q.before r = true) : p.before r = true := by
  rw [before_iff] at hpq hqr ⊢
  exact lt_trans hpq hqr

/-- Of two paths one comes before the other, unless they are the same. -/
theorem same_of_not_before (hpq : ¬ p.before q = true) (hqp : ¬ q.before p = true) : p.Same q := by
  rw [before_iff] at hpq hqp
  exact key_eq_iff.1 (le_antisymm (not_lt.1 hqp) (not_lt.1 hpq))

end Path

namespace SourceSet

variable {s : SourceSet} {m : Machine} {here p q : Path} {l : List Path} {extension : List Char}

/-! ### Adding a file -/

/-- Whether the files of a list stand in ascending order, and none of them twice. -/
def Ascending (l : List Path) : Prop :=
  l.Pairwise fun p q => p.before q = true

theorem Ascending.insert (h : Ascending l) (p : Path) : Ascending (insert p l) := by
  induction l with
  | nil => exact List.pairwise_singleton _ _
  | cons first rest ih =>
    obtain ⟨hfirst, hrest⟩ := List.pairwise_cons.1 h
    unfold SourceSet.insert
    split
    · next hp =>
      refine List.pairwise_cons.2 ⟨fun q hq => ?_, h⟩
      rcases List.mem_cons.1 hq with rfl | hq
      · exact hp
      · exact Path.before_trans hp (hfirst q hq)
    · split
      · next hlater =>
        refine List.pairwise_cons.2 ⟨fun q hq => ?_, ih hrest⟩
        rcases mem_insert hq with rfl | hq
        · exact hlater
        · exact hfirst q hq
      · exact h

theorem mem_insert_of_mem (h : q ∈ l) (p : Path) : q ∈ insert p l := by
  induction l with
  | nil => exact nomatch h
  | cons first rest ih =>
    unfold insert
    split
    · exact List.mem_cons_of_mem p h
    · split
      · rcases List.mem_cons.1 h with rfl | h
        · exact List.mem_cons_self
        · exact List.mem_cons_of_mem _ (ih h)
      · exact h

/-- What is added is in the list then, if need be as it was written before. -/
theorem exists_mem_insert (p : Path) (l : List Path) : ∃ q ∈ insert p l, q.Same p := by
  induction l with
  | nil => exact ⟨p, List.mem_singleton_self p, rfl⟩
  | cons first rest ih =>
    unfold insert
    split
    · exact ⟨p, List.mem_cons_self, rfl⟩
    · next hp =>
      split
      · obtain ⟨q, hq, hsame⟩ := ih
        exact ⟨q, List.mem_cons_of_mem _ hq, hsame⟩
      · next hfirst => exact ⟨first, List.mem_cons_self, Path.same_of_not_before hfirst hp⟩

/-! ### Adding several files -/

theorem foldl_extension (here : Path) (l : List Path) (s : SourceSet) :
    (l.foldl (addFile here) s).extension = s.extension := by
  induction l generalizing s with
  | nil => rfl
  | cons p l ih => exact ih (s.addFile here p)

theorem Ascending.foldl (h : Ascending s.files) (here : Path) (l : List Path) :
    Ascending (l.foldl (addFile here) s).files := by
  induction l generalizing s with
  | nil => exact h
  | cons p l ih => exact ih (h.insert (p.absolute here))

theorem mem_foldl (h : q ∈ (l.foldl (addFile here) s).files) :
    q ∈ s.files ∨ ∃ p ∈ l, q = p.absolute here := by
  induction l generalizing s with
  | nil => exact .inl h
  | cons p l ih =>
    rcases ih h with hq | ⟨p', hp', rfl⟩
    · rcases mem_insert hq with rfl | hq
      · exact .inr ⟨p, List.mem_cons_self, rfl⟩
      · exact .inl hq
    · exact .inr ⟨p', List.mem_cons_of_mem p hp', rfl⟩

theorem mem_foldl_of_mem (h : q ∈ s.files) (here : Path) (l : List Path) :
    q ∈ (l.foldl (addFile here) s).files := by
  induction l generalizing s with
  | nil => exact h
  | cons p l ih => exact ih (mem_insert_of_mem h (p.absolute here))

theorem exists_mem_foldl (h : p ∈ l) (here : Path) (s : SourceSet) :
    ∃ q ∈ (l.foldl (addFile here) s).files, q.Same (p.absolute here) := by
  induction l generalizing s with
  | nil => exact nomatch h
  | cons first l ih =>
    rcases List.mem_cons.1 h with rfl | h
    · obtain ⟨q, hq, hsame⟩ := exists_mem_insert (p.absolute here) s.files
      exact ⟨q, mem_foldl_of_mem hq here l, hsame⟩
    · exact ih h (s.addFile here first)

/-! ### Steps -/

/-- A step in which files are gathered: a directory is searched, or a file is named. -/
inductive Step where
  | search (dir : Path)
  | add (file : Path)

/-- What a step makes of a set. -/
def take (m : Machine) (s : SourceSet) : Step → SourceSet
  | .search dir => s.addDirectory m dir
  | .add file => s.addFile m.here file

/-- What several steps gather. -/
def gather (m : Machine) (extension : String) (steps : List Step) : SourceSet :=
  steps.foldl (take m) (.empty extension)

/-- Whether a step finds the file `p`, as it writes it: the file that is named; or an entry directly
inside the directory that is searched, if it is there, which is a regular file with the extension.
-/
inductive Step.Finds (m : Machine) (extension : List Char) : Step → Path → Prop where
  | add (file : Path) : Finds m extension (.add file) file
  | search {dir : Path} {loc : Location} {name : Name} {e : Entry}
    (hdir : m.files.find m.place true dir = .ok (loc, .directory))
    (hentry : (loc ++ [name], e) ∈ m.files.entries) (hregular : e.isRegular = true)
    (hextension : (dir.append name).extension? = some extension) :
    Finds m extension (.search dir) (dir.append name)

/-- The files that a step finds, in its order. -/
def Step.found (m : Machine) (extension : List Char) : Step → List Path
  | .add file => [file]
  | .search dir =>
    match m.files.listing m.place dir with
    | .error _ => []
    | .ok inside =>
      (inside.filter fun (name, e) => accepts ⟨extension, []⟩ (dir.append name) e).map
        fun (name, _) => dir.append name

theorem take_eq (m : Machine) (s : SourceSet) (step : Step) :
    s.take m step = (step.found m s.extension).foldl (addFile m.here) s := by
  cases step with
  | add file => rfl
  | search dir =>
    rw [take, addDirectory, Step.found]
    cases m.files.listing m.place dir with
    | error e => rfl
    | ok inside =>
      dsimp only
      rw [List.filter_map, List.foldl_map, List.foldl_map]
      rfl

theorem mem_inside {files : Files} {loc : Location} {name : Name} {e : Entry} :
    (name, e) ∈ files.inside loc ↔ (loc ++ [name], e) ∈ files.entries := by
  unfold Files.inside
  rw [List.mem_filterMap]
  constructor
  · rintro ⟨⟨place, e'⟩, hentry, hplace⟩
    dsimp only at hplace
    split at hplace
    · next hloc =>
      obtain ⟨last, hlast, hpair⟩ := Option.map_eq_some_iff.1 hplace
      obtain ⟨rfl, rfl⟩ := Prod.mk.inj hpair
      rwa [← hloc, List.dropLast_append_getLast? _ hlast]
    · exact nomatch hplace
  · intro hentry
    exact ⟨_, hentry, by simp⟩

/-- A directory is listed when its path leads to one. -/
theorem listing_eq_ok {files : Files} {place : Location} {dir : Path} {inside : List (Name × Entry)} :
    files.listing place dir = .ok inside ↔
      ∃ loc, files.find place true dir = .ok (loc, .directory) ∧ files.inside loc = inside := by
  unfold Files.listing
  cases hfind : files.find place true dir with
  | error e => simp [bind, Except.bind]
  | ok found =>
    obtain ⟨loc, e⟩ := found
    cases e <;> simp [bind, Except.bind]

theorem mem_found {step : Step} : p ∈ step.found m extension ↔ step.Finds m extension p := by
  constructor
  · intro h
    cases step with
    | add file =>
      rw [List.mem_singleton.1 h]
      exact .add file
    | search dir =>
      rw [Step.found] at h
      split at h
      · exact nomatch h
      · next inside hlisting =>
        obtain ⟨loc, hdir, rfl⟩ := listing_eq_ok.1 hlisting
        obtain ⟨⟨name, e⟩, hentry, rfl⟩ := List.mem_map.1 h
        obtain ⟨hinside, haccepts⟩ := List.mem_filter.1 hentry
        obtain ⟨hregular, hextension⟩ := Bool.and_eq_true_iff.1 haccepts
        exact .search hdir (mem_inside.1 hinside) hregular (beq_iff_eq.1 hextension)
  · intro h
    cases h with
    | add file => exact List.mem_singleton_self _
    | @search dir loc name e hdir hentry hregular hextension =>
      rw [Step.found, listing_eq_ok.2 ⟨loc, hdir, rfl⟩]
      refine List.mem_map.2 ⟨(name, e), List.mem_filter.2 ⟨mem_inside.2 hentry, ?_⟩, rfl⟩
      exact Bool.and_eq_true_iff.2 ⟨hregular, beq_iff_eq.2 hextension⟩

/-- Several steps add what each of them finds. -/
theorem gather_eq (m : Machine) (text : String) (steps : List Step) : gather m text steps =
    (steps.flatMap (Step.found m (empty text).extension)).foldl (addFile m.here) (.empty text) := by
  have hsteps : ∀ s : SourceSet, s.extension = (empty text).extension → steps.foldl (take m) s =
      (steps.flatMap (Step.found m (empty text).extension)).foldl (addFile m.here) s := by
    induction steps with
    | nil => exact fun _ _ => rfl
    | cons step steps ih =>
      intro s hs
      rw [List.foldl_cons, take_eq, hs, List.flatMap_cons, List.foldl_append]
      exact ih _ ((foldl_extension _ _ s).trans hs)
  exact hsteps (.empty text) rfl

variable {text : String} {steps steps' : List Step}

theorem mem_found_of_steps : p ∈ steps.flatMap (Step.found m extension) ↔
    ∃ step ∈ steps, step.Finds m extension p := by
  rw [List.mem_flatMap]
  exact exists_congr fun step => and_congr_right fun _ => mem_found

theorem ascending_gather (m : Machine) (text : String) (steps : List Step) :
    Ascending (gather m text steps).files := by
  rw [gather_eq]
  have hempty : Ascending (empty text).files := List.Pairwise.nil
  exact hempty.foldl _ _

/-- A gathered file is the absolute form of one that a step finds. -/
theorem exists_of_mem_gather (h : q ∈ (gather m text steps).files) :
    ∃ step ∈ steps, ∃ p, step.Finds m (empty text).extension p ∧ q = p.absolute m.here := by
  rw [gather_eq] at h
  rcases mem_foldl h with hq | ⟨p, hp, rfl⟩
  · exact nomatch hq
  · obtain ⟨step, hstep, hfinds⟩ := mem_found_of_steps.1 hp
    exact ⟨step, hstep, p, hfinds, rfl⟩

theorem exists_mem_gather {step : Step} (hstep : step ∈ steps)
    (h : step.Finds m (empty text).extension p) :
    ∃ q ∈ (gather m text steps).files, q.Same (p.absolute m.here) := by
  rw [gather_eq]
  exact exists_mem_foldl (mem_found_of_steps.2 ⟨step, hstep, h⟩) _ _

/-! ### What a set is determined by -/

/-- Ascending lists in which the same paths are have the same paths at the same places. -/
theorem Ascending.forall₂_same {l' : List Path} (h : Ascending l) (h' : Ascending l')
    (hsub : ∀ p ∈ l, ∃ q ∈ l', q.Same p) (hsub' : ∀ p ∈ l', ∃ q ∈ l, q.Same p) :
    List.Forall₂ Path.Same l l' := by
  -- The keys of both are sorted lists with the same elements, so they are equal.
  have hkeys : l.map Path.key = l'.map Path.key := by
    have hsorted : ∀ {l : List Path}, Ascending l → (l.map Path.key).Pairwise (· < ·) := by
      intro l hl
      exact List.pairwise_map.2 (hl.imp Path.before_iff.1)
    refine (hsorted h).eq_of_mem_iff (hsorted h') fun key => ?_
    rw [List.mem_map, List.mem_map]
    constructor
    · rintro ⟨p, hp, rfl⟩
      obtain ⟨q, hq, hsame⟩ := hsub p hp
      exact ⟨q, hq, Path.key_eq_iff.2 hsame⟩
    · rintro ⟨p, hp, rfl⟩
      obtain ⟨q, hq, hsame⟩ := hsub' p hp
      exact ⟨q, hq, Path.key_eq_iff.2 hsame⟩
  rw [← List.forall₂_eq_eq_eq, List.forall₂_map_left_iff, List.forall₂_map_right_iff] at hkeys
  exact hkeys.imp fun _ _ => Path.key_eq_iff.1

theorem forall₂_gather (h : ∀ step, step ∈ steps ↔ step ∈ steps') :
    List.Forall₂ Path.Same (gather m text steps).files (gather m text steps').files := by
  have hsub : ∀ {steps steps' : List Step}, (∀ step ∈ steps, step ∈ steps') →
      ∀ p ∈ (gather m text steps).files, ∃ q ∈ (gather m text steps').files, q.Same p := by
    intro steps steps' hsteps p hp
    obtain ⟨step, hstep, p, hfinds, rfl⟩ := exists_of_mem_gather hp
    exact exists_mem_gather (hsteps step hstep) hfinds
  exact (ascending_gather m text steps).forall₂_same (ascending_gather m text steps')
    (hsub fun step => (h step).1) (hsub fun step => (h step).2)

/-- No two files of an ascending list have the same components. -/
theorem Ascending.nodup_components (h : Ascending l) : (l.map Path.components).Nodup := by
  refine List.pairwise_map.2 (h.imp fun {p q} hpq hsame => ?_)
  rw [Path.before_iff, Path.key_eq_iff.2 hsame] at hpq
  exact lt_irrefl _ hpq

/-- The paths, by their components, of what several steps find. -/
def Step.places (m : Machine) (extension : List Char) (steps : List Step) :
    Set (List Component) :=
  fun c => ∃ step ∈ steps, ∃ p, step.Finds m extension p ∧ (p.absolute m.here).components = c

theorem exists_components_iff {c : List Component} :
    (∃ q ∈ (gather m text steps).files, q.components = c) ↔
      c ∈ Step.places m (empty text).extension steps := by
  constructor
  · rintro ⟨q, hq, rfl⟩
    obtain ⟨step, hstep, p, hfinds, rfl⟩ := exists_of_mem_gather hq
    exact ⟨step, hstep, p, hfinds, rfl⟩
  · rintro ⟨step, hstep, p, hfinds, rfl⟩
    exact exists_mem_gather hstep hfinds

/-- There are as many files in the set as there are different paths among those that are found. -/
theorem length_gather (m : Machine) (text : String) (steps : List Step) :
    (gather m text steps).files.length = (Step.places m (empty text).extension steps).ncard := by
  have hplaces : Step.places m (empty text).extension steps =
      ((gather m text steps).files.map Path.components).toFinset := by
    ext c
    rw [Finset.mem_coe, List.mem_toFinset, List.mem_map]
    exact exists_components_iff.symm
  rw [hplaces, Set.ncard_coe_finset,
    List.toFinset_card_of_nodup (ascending_gather m text steps).nodup_components, List.length_map]

/-- What is gathered is a sorted set, for every extension, every tree of files and all steps.  The
files stand in strictly ascending order of their components; up to the writing of paths they are the
absolute forms of the files that the steps find with the extension, without the dots in front of it,
and each stands as one of these forms is written; there are as many of them as different paths among
these.  The order of the steps and their repetition change nothing but the writing; and the files of
one directory are what the one step gathers that searches it. -/
theorem gather_sorted_set (m : Machine) (text : String) (steps : List Step) :
    (gather m text steps).files.Pairwise (fun p q => p.before q = true) ∧
    (∀ c, (∃ q ∈ (gather m text steps).files, q.components = c) ↔
      c ∈ Step.places m (text.toList.dropWhile (· = '.')) steps) ∧
    (∀ q ∈ (gather m text steps).files, ∃ step ∈ steps, ∃ p,
      step.Finds m (text.toList.dropWhile (· = '.')) p ∧ q = p.absolute m.here) ∧
    (gather m text steps).files.length =
      (Step.places m (text.toList.dropWhile (· = '.')) steps).ncard ∧
    (∀ steps' : List Step, (∀ step, step ∈ steps ↔ step ∈ steps') →
      List.Forall₂ Path.Same (gather m text steps).files (gather m text steps').files) ∧
    ∀ dir, findFiles m dir text = (gather m text [.search dir]).files := by
  refine ⟨ascending_gather m text steps, fun c => exists_components_iff, ?_,
    length_gather m text steps, fun steps' h => forall₂_gather h, fun dir => rfl⟩
  intro q hq
  exact exists_of_mem_gather hq

/-- A machine with a directory that holds a file `a.c`, a link `b.c` and a hidden file `.c`. -/
def shelf : Machine where
  files :=
    { entries := [([['s']], .directory), ([['s'], ['a', '.', 'c']], .file [] false),
        ([['s'], ['b', '.', 'c']], .link ⟨['a', '.', 'c']⟩), ([['s'], ['.', 'c']], .file [] false)] }
  here := ⟨['/']⟩
  env := []

/-- The file is named and found in the directory, in either order. -/
theorem gather_sorted_set_shelf :
    (gather shelf "..c" [.search ⟨['s']⟩, .add ⟨"//s/a.c".toList⟩]).files = [⟨"/s/a.c".toList⟩] ∧
    (gather shelf "..c" [.add ⟨"//s/a.c".toList⟩, .search ⟨['s']⟩]).files = [⟨"//s/a.c".toList⟩] ∧
    List.Forall₂ Path.Same
      (gather shelf "..c" [.search ⟨['s']⟩, .add ⟨"//s/a.c".toList⟩]).files
      (gather shelf "..c" [.add ⟨"//s/a.c".toList⟩, .search ⟨['s']⟩]).files := by
  obtain ⟨-, -, -, -, hsame, -⟩ :=
    gather_sorted_set shelf "..c" [.search ⟨['s']⟩, .add ⟨"//s/a.c".toList⟩]
  refine ⟨rfl, rfl, hsame _ fun step => ?_⟩
  simp only [List.mem_cons, List.not_mem_nil, or_false]
  exact or_comm

end SourceSet

end NativeBuild
