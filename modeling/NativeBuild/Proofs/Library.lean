import Mathlib.Data.Prod.Lex
import Mathlib.Order.Bounds.Basic
import NativeBuild.Library

/-!
The search for a library.  It tries the path that the name is, and then files in the directories, by
the directory first, then by the ending, and then by what stands in front of the name; it comes to the
first at which something is.  That may be a directory, which then stands in the way of every file
that would be tried after it.
-/

namespace NativeBuild

namespace LibrarySearch

/-! ### Lists by places -/

section Places

variable {α β ι κ : Type} [Preorder ι] [Preorder κ]

/-- Whether the elements of a list are what stands at places, in the order of the places: a search
through the list comes to what stands at the least place that will do. -/
structure Lists (l : List α) (at? : ι → Option α) : Prop where
  mem : ∀ {a}, a ∈ l ↔ ∃ i, at? i = some a
  find : ∀ {good : α → Bool} {c}, l.find? good = some c →
    ∃ i, IsLeast {i | ∃ a, at? i = some a ∧ good a = true} i ∧ at? i = some c

/-- A list has its elements at their positions. -/
theorem Lists.getElem? (l : List α) : Lists l fun i : ℕ => l[i]? := by
  refine ⟨List.mem_iff_getElem?, fun {good c} hfind => ?_⟩
  obtain ⟨hc, i, hi, rfl, hbefore⟩ := List.find?_eq_some_iff_getElem.1 hfind
  refine ⟨i, ⟨⟨_, List.getElem?_eq_getElem hi, hc⟩, ?_⟩, List.getElem?_eq_getElem hi⟩
  rintro j ⟨a, ha, hgood⟩
  obtain ⟨hj, rfl⟩ := List.getElem?_eq_some_iff.1 ha
  by_contra hlt
  have hbad := hbefore j (not_le.1 hlt)
  rw [hgood] at hbad
  exact nomatch hbad

/-- Lists one after another have their elements at pairs of places: of the list, and in it. -/
theorem Lists.flatMap {f : β → List α} {at? : β → κ → Option α} (h : ∀ b, Lists (f b) (at? b))
    (l : List β) :
    Lists (l.flatMap f) fun t : ℕ ×ₗ κ => l[(ofLex t).1]?.bind fun b => at? b (ofLex t).2 := by
  constructor
  · intro a
    rw [List.mem_flatMap]
    constructor
    · rintro ⟨b, hb, ha⟩
      obtain ⟨i, hi⟩ := List.mem_iff_getElem?.1 hb
      obtain ⟨k, hk⟩ := (h b).mem.1 ha
      exact ⟨toLex (i, k), Option.bind_eq_some_iff.2 ⟨b, hi, hk⟩⟩
    · rintro ⟨t, ht⟩
      obtain ⟨b, hb, ha⟩ := Option.bind_eq_some_iff.1 ht
      exact ⟨b, List.mem_of_getElem? hb, (h b).mem.2 ⟨_, ha⟩⟩
  · intro good c hfind
    rw [List.find?_flatMap, List.findSome?_eq_some_iff] at hfind
    obtain ⟨before, b, after, rfl, hb, hbefore⟩ := hfind
    obtain ⟨k, ⟨-, hleast⟩, hk⟩ := (h b).find hb
    have hplace : (before ++ b :: after)[before.length]? = some b := by simp
    refine ⟨toLex (before.length, k), ⟨⟨c, ?_, List.find?_some hb⟩, ?_⟩, ?_⟩
    · exact Option.bind_eq_some_iff.2 ⟨b, hplace, hk⟩
    · rintro t ⟨a, ht, hgood⟩
      obtain ⟨b', hb', ha⟩ := Option.bind_eq_some_iff.1 ht
      rw [Prod.Lex.le_iff]
      rcases lt_trichotomy (ofLex t).1 before.length with hlt | heq | hgt
      · -- Nothing in the lists before would do.
        rw [List.getElem?_append_left hlt] at hb'
        have hnone := List.find?_eq_none.1 (hbefore b' (List.mem_of_getElem? hb'))
        exact absurd hgood (hnone a ((h b').mem.2 ⟨_, ha⟩))
      · rw [heq, hplace] at hb'
        obtain rfl := Option.some.inj hb'
        exact .inr ⟨heq.symm, hleast ⟨a, ha, hgood⟩⟩
      · exact .inl hgt
    · exact Option.bind_eq_some_iff.2 ⟨b, hplace, hk⟩

end Places

/-! ### The first match -/

variable {m : Machine} {dirs : List Path} {name : String} {p : Path} {place : ℕ ×ₗ ℕ ×ₗ ℕ}

/-- The file that is tried at a place of the search: the place of the directory, that of the ending,
and that of what stands in front of the name. -/
def candidateAt (dirs : List Path) (name : String) (place : ℕ ×ₗ ℕ ×ₗ ℕ) : Option Path := do
  let dir ← dirs[(ofLex place).1]?
  let ending ← ["o", "bc", "so", "dylib", "a"][(ofLex (ofLex place).2).1]?
  let lead ← ["lib", ""][(ofLex (ofLex place).2).2]?
  some (dir.join (Path.ofString (lead ++ name ++ "." ++ ending)))

/-- The places at which there is something. -/
def Matching (m : Machine) (dirs : List Path) (name : String) : Set (ℕ ×ₗ ℕ ×ₗ ℕ) :=
  {place | ∃ p, candidateAt dirs name place = some p ∧ m.has p = true}

theorem lists_candidates (dirs : List Path) (name : String) :
    Lists (libraryCandidates dirs name) (candidateAt dirs name) := by
  have hleads (dir : Path) (ending : String) :
      Lists (libraryLeads.map fun lead => dir.child (lead ++ name ++ "." ++ ending))
        fun k : ℕ => (["lib", ""][k]?).bind fun lead =>
          some (dir.join (Path.ofString (lead ++ name ++ "." ++ ending))) := by
    have h := Lists.getElem? (libraryLeads.map fun lead => dir.child (lead ++ name ++ "." ++ ending))
    simp only [List.getElem?_map, Option.map_eq_bind] at h
    exact h
  exact Lists.flatMap (fun dir => Lists.flatMap (hleads dir) libraryExtensions) dirs

/-- The files that are tried are longer than the name. -/
theorem ne_ofString_of_candidateAt (h : candidateAt dirs name place = some p) :
    p ≠ Path.ofString name := by
  obtain ⟨dir, -, h⟩ := Option.bind_eq_some_iff.1 h
  obtain ⟨ending, -, h⟩ := Option.bind_eq_some_iff.1 h
  obtain ⟨lead, -, h⟩ := Option.bind_eq_some_iff.1 h
  obtain rfl := Option.some.inj h
  have hjoin (q : Path) : q.chars.length ≤ (dir.join q).chars.length := by
    unfold Path.join Path.append
    split
    · exact le_rfl
    · split <;> simp
      omega
  intro heq
  have hlength := hjoin (Path.ofString (lead ++ name ++ "." ++ ending))
  rw [heq] at hlength
  simp [Path.ofString] at hlength
  omega

theorem nonempty_matching_iff :
    (Matching m dirs name).Nonempty ↔ ∃ p ∈ libraryCandidates dirs name, m.has p = true := by
  constructor
  · rintro ⟨place, p, hp, hhas⟩
    exact ⟨p, (lists_candidates dirs name).mem.2 ⟨place, hp⟩, hhas⟩
  · rintro ⟨p, hp, hhas⟩
    obtain ⟨place, hplace⟩ := (lists_candidates dirs name).mem.1 hp
    exact ⟨place, p, hplace, hhas⟩

theorem findLibrary_of_has (h : m.has ((Path.ofString name).absolute m.here) = true) :
    findLibrary m dirs name = (Path.ofString name).absolute m.here := by
  rw [findLibrary, if_pos h]

theorem findLibrary_of_not_has (h : m.has ((Path.ofString name).absolute m.here) = false) :
    findLibrary m dirs name =
      ((libraryCandidates dirs name).find? m.has).getD (Path.ofString name) := by
  rw [findLibrary, if_neg (by simp [h])]

theorem findLibrary_of_empty (h : m.has ((Path.ofString name).absolute m.here) = false)
    (hnone : Matching m dirs name = ∅) : findLibrary m dirs name = Path.ofString name := by
  rw [findLibrary_of_not_has h, List.find?_eq_none.2, Option.getD_none]
  intro p hp hhas
  exact Set.not_nonempty_iff_eq_empty.2 hnone (nonempty_matching_iff.2 ⟨p, hp, hhas⟩)

theorem exists_find?_of_nonempty (h : (Matching m dirs name).Nonempty) :
    ∃ p, (libraryCandidates dirs name).find? m.has = some p :=
  Option.isSome_iff_exists.1 (List.find?_isSome.2 (nonempty_matching_iff.1 h))

/-- If the name leads nowhere the search comes to the least of the places that match. -/
theorem exists_least_place (h : m.has ((Path.ofString name).absolute m.here) = false)
    (hsome : (Matching m dirs name).Nonempty) : ∃ place p, IsLeast (Matching m dirs name) place ∧
      candidateAt dirs name place = some p ∧ findLibrary m dirs name = p := by
  obtain ⟨p, hfind⟩ := exists_find?_of_nonempty hsome
  obtain ⟨place, hleast, hp⟩ := (lists_candidates dirs name).find hfind
  exact ⟨place, p, hleast, hp, by rw [findLibrary_of_not_has h, hfind, Option.getD_some]⟩

/-- Directories that are searched after the others do not change what was found. -/
theorem findLibrary_append (h : m.has ((Path.ofString name).absolute m.here) = true ∨
    (Matching m dirs name).Nonempty) (more : List Path) :
    findLibrary m (dirs ++ more) name = findLibrary m dirs name := by
  cases hdirect : m.has ((Path.ofString name).absolute m.here) with
  | true => rw [findLibrary_of_has hdirect, findLibrary_of_has hdirect]
  | false =>
    obtain ⟨p, hfind⟩ := exists_find?_of_nonempty (h.resolve_left (by simp [hdirect]))
    have hcandidates : libraryCandidates (dirs ++ more) name =
        libraryCandidates dirs name ++ libraryCandidates more name := List.flatMap_append
    rw [findLibrary_of_not_has hdirect, findLibrary_of_not_has hdirect, hcandidates,
      List.find?_append, hfind, Option.some_or]

/-- A library is the first match in the order of the search, for every name, all directories and every
tree of files.  It is the absolute form of the name if something is there.  Otherwise it is what
stands at the least place, by the directory, then by the ending among `o`, `bc`, `so`, `dylib` and
`a`, and then with `lib` before without, at which something is.  It is the bare name if and only if
nothing is at any of these; a name that is the absolute form of something, as it is written, is what
it leads to.  Directories that are added at the end change nothing for a name that is found. -/
theorem findLibrary_first_match (m : Machine) (dirs : List Path) (name : String) :
    let direct := (Path.ofString name).absolute m.here
    (m.has direct = true → findLibrary m dirs name = direct) ∧
    (m.has direct = false → (Matching m dirs name).Nonempty →
      ∃ place p, IsLeast (Matching m dirs name) place ∧ candidateAt dirs name place = some p ∧
        findLibrary m dirs name = p) ∧
    (m.has direct = false → Matching m dirs name = ∅ →
      findLibrary m dirs name = Path.ofString name) ∧
    (findLibrary m dirs name = Path.ofString name ↔
      m.has direct = false ∧ Matching m dirs name = ∅ ∨
      m.has direct = true ∧ direct = Path.ofString name) ∧
    (m.has direct = true ∨ (Matching m dirs name).Nonempty →
      ∀ more, findLibrary m (dirs ++ more) name = findLibrary m dirs name) := by
  refine ⟨findLibrary_of_has, exists_least_place, findLibrary_of_empty, ⟨fun hname => ?_, ?_⟩,
    findLibrary_append⟩
  · cases hdirect : m.has ((Path.ofString name).absolute m.here) with
    | true => exact .inr ⟨rfl, (findLibrary_of_has hdirect).symm.trans hname⟩
    | false =>
      refine .inl ⟨rfl, Set.not_nonempty_iff_eq_empty.1 fun hsome => ?_⟩
      obtain ⟨place, p, -, hp, hfound⟩ := exists_least_place hdirect hsome
      exact ne_ofString_of_candidateAt hp (hfound.symm.trans hname)
  · rintro (⟨hdirect, hnone⟩ | ⟨hdirect, hname⟩)
    · exact findLibrary_of_empty hdirect hnone
    · rw [findLibrary_of_has hdirect, hname]

/-- A machine with two directories for libraries, the first of which has none for `z`, and the second
two. -/
def stores : Machine where
  files :=
    { entries := [([['k']], .directory), ([['l']], .directory),
        ([['l'], "libz.a".toList], .file [] false), ([['l'], "z.so".toList], .file [] false)] }
  here := ⟨['/']⟩
  env := []

/-- The ending counts for more than `lib` in front, and an absolute name leads to what is there. -/
theorem findLibrary_first_match_stores :
    stores.has ((Path.ofString "z").absolute stores.here) = false ∧
    (Matching stores [⟨"/k".toList⟩, ⟨"/l".toList⟩] "z").Nonempty ∧
    findLibrary stores [⟨"/k".toList⟩, ⟨"/l".toList⟩] "z" = ⟨"/l/z.so".toList⟩ ∧
    (∃ place p, IsLeast (Matching stores [⟨"/k".toList⟩, ⟨"/l".toList⟩] "z") place ∧
      candidateAt [⟨"/k".toList⟩, ⟨"/l".toList⟩] "z" place = some p ∧ p = ⟨"/l/z.so".toList⟩) ∧
    findLibrary stores [⟨"/k".toList⟩, ⟨"/l".toList⟩, ⟨"/".toList⟩] "z" = ⟨"/l/z.so".toList⟩ ∧
    (stores.has ((Path.ofString "/l//z.so").absolute stores.here) = true ∧
      findLibrary stores [⟨"/k".toList⟩] "/l//z.so" = ⟨"/l/z.so".toList⟩ ∧
      findLibrary stores [⟨"/k".toList⟩] "/l//z.so" ≠ Path.ofString "/l//z.so") ∧
    findLibrary stores [⟨"/k".toList⟩] "/l/z.so" = Path.ofString "/l/z.so" := by
  have hdirect : stores.has ((Path.ofString "z").absolute stores.here) = false := by decide
  have hfound : findLibrary stores [⟨"/k".toList⟩, ⟨"/l".toList⟩] "z" = ⟨"/l/z.so".toList⟩ := by
    decide
  have hsome : (Matching stores [⟨"/k".toList⟩, ⟨"/l".toList⟩] "z").Nonempty :=
    nonempty_matching_iff.2 ⟨⟨"/l/z.so".toList⟩, by decide, by decide⟩
  obtain ⟨-, hleast, -, -, hmore⟩ :=
    findLibrary_first_match stores [⟨"/k".toList⟩, ⟨"/l".toList⟩] "z"
  obtain ⟨place, p, hplace, hp, hfind⟩ := hleast hdirect hsome
  -- A name with two slashes is not its own absolute form, and one in that form is.
  have hslashes : stores.has ((Path.ofString "/l//z.so").absolute stores.here) = true := by decide
  obtain ⟨habsolute, -, -, hbare, -⟩ := findLibrary_first_match stores [⟨"/k".toList⟩] "/l//z.so"
  have hother : findLibrary stores [⟨"/k".toList⟩] "/l//z.so" ≠ Path.ofString "/l//z.so" := by
    intro hname
    rcases hbare.1 hname with ⟨hnone, -⟩ | ⟨-, heq⟩
    · exact Bool.false_ne_true (hnone.symm.trans hslashes)
    · exact absurd heq (by decide)
  obtain ⟨-, -, -, hnormal, -⟩ := findLibrary_first_match stores [⟨"/k".toList⟩] "/l/z.so"
  exact ⟨hdirect, hsome, hfound, ⟨place, p, hplace, hp, hfind.symm.trans hfound⟩,
    (hmore (.inr hsome) [⟨"/".toList⟩]).trans hfound,
    ⟨hslashes, (habsolute hslashes).trans (by decide), hother⟩,
    hnormal.2 (.inr ⟨by decide, by decide⟩)⟩

/-- A name comes back unchanged although something is there. -/
theorem found_unchanged_stores :
    findLibrary stores [⟨"/k".toList⟩] "/l/z.so" = Path.ofString "/l/z.so" ∧
      ¬ (stores.has ((Path.ofString "/l/z.so").absolute stores.here) = false ∧
        Matching stores [⟨"/k".toList⟩] "/l/z.so" = ∅) := by
  refine ⟨by decide, fun h => ?_⟩
  have hhas : stores.has ((Path.ofString "/l/z.so").absolute stores.here) = true := by decide
  exact Bool.false_ne_true (h.1.symm.trans hhas)

/-! ### Directories in the place of files -/

/-- The paths that are tried, in their order. -/
def tried (m : Machine) (dirs : List Path) (name : String) : List Path :=
  (Path.ofString name).absolute m.here :: libraryCandidates dirs name

/-- Whether there is something at a path that is no directory. -/
def holdsFile (m : Machine) (p : Path) : Bool :=
  m.has p && !m.isDirectory p

/-- What a search for files alone comes to. -/
def findFile (m : Machine) (dirs : List Path) (name : String) : Path :=
  ((tried m dirs name).find? (holdsFile m)).getD (Path.ofString name)

/-- Whether the first of the paths that are tried at which something is, is a directory. -/
def Shadowed (m : Machine) (dirs : List Path) (name : String) : Prop :=
  ∃ dir, (tried m dirs name).find? m.has = some dir ∧ m.isDirectory dir = true

theorem findLibrary_eq (m : Machine) (dirs : List Path) (name : String) :
    findLibrary m dirs name = ((tried m dirs name).find? m.has).getD (Path.ofString name) := by
  cases hdirect : m.has ((Path.ofString name).absolute m.here) with
  | true => rw [findLibrary_of_has hdirect, tried, List.find?_cons_of_pos hdirect, Option.getD_some]
  | false => rw [findLibrary_of_not_has hdirect, tried, List.find?_cons_of_neg (by simp [hdirect])]

theorem findFile_eq_of_first (hfind : (tried m dirs name).find? m.has = some p)
    (hp : m.isDirectory p = false) : (tried m dirs name).find? (holdsFile m) = some p := by
  rw [List.find?_eq_some_iff_append] at hfind ⊢
  obtain ⟨hhas, before, after, htried, hbefore⟩ := hfind
  refine ⟨by simp [holdsFile, hhas, hp], before, after, htried, fun q hq => ?_⟩
  have hq : m.has q = false := by simpa using hbefore q hq
  simp [holdsFile, hq]

/-- Unless a directory is the first thing that the search meets, it comes to what a search for files
alone comes to: to something that is no directory, or to the bare name.  If a directory is, the search
comes to that directory, and it misses every file that it would have tried later. -/
theorem findLibrary_file_unless_shadowed (m : Machine) (dirs : List Path) (name : String) :
    (¬ Shadowed m dirs name → findLibrary m dirs name = findFile m dirs name ∧
      (findLibrary m dirs name = Path.ofString name ∨
        holdsFile m (findLibrary m dirs name) = true)) ∧
    (Shadowed m dirs name → m.isDirectory (findLibrary m dirs name) = true ∧
      ∀ p ∈ tried m dirs name, holdsFile m p = true →
        holdsFile m (findFile m dirs name) = true ∧
        findLibrary m dirs name ≠ findFile m dirs name) := by
  constructor
  · intro hclear
    rw [findLibrary_eq, findFile]
    cases hfind : (tried m dirs name).find? m.has with
    | none =>
      have hnone : (tried m dirs name).find? (holdsFile m) = none := by
        rw [List.find?_eq_none] at hfind ⊢
        intro p hp hfile
        exact hfind p hp (Bool.and_eq_true_iff.1 hfile).1
      rw [hnone]
      exact ⟨rfl, .inl rfl⟩
    | some p =>
      have hp : m.isDirectory p = false := by
        by_contra hdir
        exact hclear ⟨p, hfind, by simpa using hdir⟩
      rw [findFile_eq_of_first hfind hp]
      exact ⟨rfl, .inr (by simp [holdsFile, List.find?_some hfind, hp])⟩
  · rintro ⟨dir, hfind, hdir⟩
    have hfound : findLibrary m dirs name = dir := by rw [findLibrary_eq, hfind, Option.getD_some]
    refine ⟨hfound ▸ hdir, fun p hp hfile => ?_⟩
    obtain ⟨q, hq⟩ := Option.isSome_iff_exists.1 (List.find?_isSome.2 ⟨p, hp, hfile⟩)
    have hqfile : holdsFile m (findFile m dirs name) = true := by
      rw [findFile, hq, Option.getD_some]
      exact List.find?_some hq
    refine ⟨hqfile, fun heq => ?_⟩
    rw [← heq, hfound] at hqfile
    simp [holdsFile, hdir] at hqfile

/-- A machine with a library `z` and, in the current directory, a directory of that name. -/
def cluttered : Machine where
  files :=
    { entries := [([['z']], .directory), ([['l']], .directory),
        ([['l'], "libz.a".toList], .file [] false)] }
  here := ⟨['/']⟩
  env := []

/-- A directory may be found in the place of a library: no file, and not the bare name, although a
file for the name is tried. -/
theorem exists_directory_found : ∃ (m : Machine) (dirs : List Path) (name : String),
    findLibrary m dirs name ≠ Path.ofString name ∧
    m.isDirectory (findLibrary m dirs name) = true ∧
    ∃ p ∈ libraryCandidates dirs name, m.isFile p = true :=
  ⟨cluttered, [⟨"/l".toList⟩], "z", by decide, by decide, ⟨"/l/libz.a".toList⟩, by decide, by decide⟩

/-- From the root the directory shadows the library, and from the directory of the library nothing
does. -/
theorem findLibrary_file_unless_shadowed_cluttered :
    (Shadowed cluttered [⟨"/l".toList⟩] "z" ∧
      findLibrary cluttered [⟨"/l".toList⟩] "z" ≠ findFile cluttered [⟨"/l".toList⟩] "z") ∧
    (¬ Shadowed { cluttered with here := ⟨"/l".toList⟩ } [⟨"/l".toList⟩] "z" ∧
      holdsFile { cluttered with here := ⟨"/l".toList⟩ }
        (findLibrary { cluttered with here := ⟨"/l".toList⟩ } [⟨"/l".toList⟩] "z") = true) := by
  have hshadowed : Shadowed cluttered [⟨"/l".toList⟩] "z" := ⟨⟨"/z".toList⟩, by decide, by decide⟩
  have hclear : ¬ Shadowed { cluttered with here := ⟨"/l".toList⟩ } [⟨"/l".toList⟩] "z" := by
    rintro ⟨dir, hfind, hdir⟩
    obtain rfl : (⟨"/l/libz.a".toList⟩ : Path) = dir := Option.some.inj (hfind ▸ by decide)
    exact absurd hdir (by decide)
  refine ⟨⟨hshadowed, ?_⟩, hclear, ?_⟩
  · exact (((findLibrary_file_unless_shadowed cluttered [⟨"/l".toList⟩] "z").2 hshadowed).2
      ⟨"/l/libz.a".toList⟩ (by decide) (by decide)).2
  · refine ((findLibrary_file_unless_shadowed _ _ _).1 hclear).2.resolve_left ?_
    decide

end LibrarySearch

end NativeBuild
