import Mathlib.Data.List.Nodup
import Mathlib.Logic.Relation
import NativeBuild.Proofs.Build.Outline

/-!
What the check of a manifest finds.  A manifest can be wrong at three kinds of places: at a name
that a target links, at a library of a target, and at the name of a target.  The check reads target
after target, of each first the links, then the libraries and then the name, and it reports the
first place that is wrong.  So a manifest passes exactly if no place is wrong, and then every target
comes after those that it links.
-/

namespace NativeBuild

namespace Platform

/-- What hosts with a known operating system call themselves. -/
def hostIds : List String :=
  ["linux", "linux2", "darwin", "macos", "mac", "win32", "windows", "win"]

theorem ofHostId_ok {id : String} {p : Platform} (h : ofHostId id = .ok p) : id ∈ hostIds := by
  unfold ofHostId at h
  split at h
  · next hid => rcases hid with rfl | rfl <;> decide
  split at h
  · next hid => rcases hid with rfl | rfl | rfl <;> decide
  split at h
  · next hid => rcases hid with rfl | rfl | rfl <;> decide
  cases h

theorem ofHostId_error {id : String} {u : UnknownPlatform} (h : ofHostId id = .error u) :
    id ∉ hostIds ∧ u = ⟨id⟩ := by
  unfold ofHostId at h
  split at h
  · cases h
  split at h
  · cases h
  split at h
  · cases h
  next hlinux hmac hwindows =>
    cases h
    simp only [not_or] at hlinux hmac hwindows
    simp [hostIds, hlinux, hmac, hwindows]

end Platform

namespace Manifest

/-- A part of a target: a name that it links, one of its libraries, or its name. -/
inductive Part where
  | link (k : Nat)
  | library (k : Nat)
  | name

/-- The order in which the parts of a target are read. -/
inductive Part.Before : Part → Part → Prop
  | links {k l : Nat} (h : k < l) : Before (.link k) (.link l)
  | link_library (k l : Nat) : Before (.link k) (.library l)
  | link_name (k : Nat) : Before (.link k) .name
  | libraries {k l : Nat} (h : k < l) : Before (.library k) (.library l)
  | library_name (k : Nat) : Before (.library k) .name

/-- A part of one of the targets of a manifest. -/
structure Place where
  target : Nat
  part : Part

/-- The order in which the places of a manifest are read. -/
def Place.Before (a b : Place) : Prop :=
  a.target < b.target ∨ a.target = b.target ∧ a.part.Before b.part

/-- What is wrong at a part of a target that comes after targets with the given names. -/
inductive Target.Breaks (earlier : List String) (t : Target) : Part → Refusal → Prop
  | link {k : Nat} {name : String} (hk : t.link[k]? = some name) (h : name ∉ earlier) :
      Breaks earlier t (.link k) (.unknownTarget t.name name)
  | library {k : Nat} {name id : String} (hk : t.libraries[k]? = some (.linker name (some id)))
      (h : id ∉ Platform.hostIds) : Breaks earlier t (.library k) (.platform ⟨id⟩)
  | name (h : t.name ∈ earlier) : Breaks earlier t .name (.duplicateTarget t.name)

/-- What is wrong at a place of a list of targets. -/
def Violates (targets : List Target) (place : Place) (e : Refusal) : Prop :=
  ∃ t, targets[place.target]? = some t ∧
    t.Breaks ((targets.take place.target).map Target.name) place.part e

/-- Whether every name is given once, every target links targets before it, and every operating
system is known. -/
structure Admissible (targets : List Target) : Prop where
  names : (targets.map Target.name).Nodup
  links : ∀ (i : Nat) t name, targets[i]? = some t → name ∈ t.link →
    ∃ j u, j < i ∧ targets[j]? = some u ∧ u.name = name
  platforms : ∀ t ∈ targets, ∀ name id, .linker name (some id) ∈ t.libraries →
    id ∈ Platform.hostIds

/-- Whether a target links another one, both given by their places in the list. -/
def Links (targets : List Target) (i j : Nat) : Prop :=
  ∃ t u, targets[i]? = some t ∧ targets[j]? = some u ∧ u.name ∈ t.link

variable {seen : List String} {t : Target} {targets : List Target} {e : Refusal}

/-! ### The places are in a total order -/

theorem Part.before_trichotomy (a b : Part) : a.Before b ∨ a = b ∨ b.Before a := by
  cases a with
  | link k =>
    cases b with
    | link l =>
      rcases Nat.lt_trichotomy k l with h | rfl | h
      · exact .inl (.links h)
      · exact .inr (.inl rfl)
      · exact .inr (.inr (.links h))
    | library l => exact .inl (.link_library k l)
    | name => exact .inl (.link_name k)
  | library k =>
    cases b with
    | link l => exact .inr (.inr (.link_library l k))
    | library l =>
      rcases Nat.lt_trichotomy k l with h | rfl | h
      · exact .inl (.libraries h)
      · exact .inr (.inl rfl)
      · exact .inr (.inr (.libraries h))
    | name => exact .inl (.library_name k)
  | name =>
    cases b with
    | link l => exact .inr (.inr (.link_name l))
    | library l => exact .inr (.inr (.library_name l))
    | name => exact .inr (.inl rfl)

theorem Place.before_trichotomy (a b : Place) : a.Before b ∨ a = b ∨ b.Before a := by
  obtain ⟨i, p⟩ := a
  obtain ⟨j, q⟩ := b
  rcases Nat.lt_trichotomy i j with h | rfl | h
  · exact .inl (.inl h)
  · rcases p.before_trichotomy q with h | rfl | h
    · exact .inl (.inr ⟨rfl, h⟩)
    · exact .inr (.inl rfl)
    · exact .inr (.inr (.inr ⟨rfl, h⟩))
  · exact .inr (.inr (.inl h))

theorem Target.Breaks.unique {part : Part} {e' : Refusal} (h : t.Breaks seen part e)
    (h' : t.Breaks seen part e') : e = e' := by
  cases h with
  | link hk _ =>
    cases h' with
    | link hk' _ => rw [Option.some.inj (hk.symm.trans hk')]
  | library hk _ =>
    cases h' with
    | library hk' _ =>
      cases hk.symm.trans hk'
      rfl
  | name _ => cases h'; rfl

theorem Violates.unique {place : Place} {e' : Refusal} (h : Violates targets place e)
    (h' : Violates targets place e') : e = e' := by
  obtain ⟨t, ht, hb⟩ := h
  obtain ⟨t', ht', hb'⟩ := h'
  cases ht.symm.trans ht'
  exact hb.unique hb'

/-! ### One target -/

theorem LibraryEntry.exists_linker_of_os? {entry : LibraryEntry} {id : String}
    (h : entry.os? = some id) : ∃ name, entry = .linker name (some id) := by
  cases entry with
  | prebuilt name => cases h
  | config command => cases h
  | linker name os => exact ⟨name, congrArg (LibraryEntry.linker name) h⟩

theorem known_of_checkPlatforms {libraries : List LibraryEntry}
    (h : checkPlatforms libraries = .ok ()) {name id : String}
    (hmem : .linker name (some id) ∈ libraries) : id ∈ Platform.hostIds := by
  induction libraries with
  | nil => cases hmem
  | cons entry rest ih =>
    obtain ⟨hentry, hrest⟩ := checkPlatforms_cons h
    rcases List.mem_cons.1 hmem with rfl | hmem
    · obtain ⟨platform, hplatform⟩ := hentry id rfl
      exact Platform.ofHostId_ok hplatform
    · exact ih hrest hmem

/-- Libraries that do not pass are refused for the first system that is not known. -/
theorem first_of_checkPlatforms {libraries : List LibraryEntry}
    (h : checkPlatforms libraries = .error e) :
    ∃ k entry id, libraries[k]? = some entry ∧ entry.os? = some id ∧ id ∉ Platform.hostIds ∧
      e = .platform ⟨id⟩ ∧ checkPlatforms (libraries.take k) = .ok () := by
  induction libraries with
  | nil => cases h
  | cons entry rest ih =>
    unfold checkPlatforms at h
    cases hos : entry.os? with
    | none =>
      rw [hos] at h
      obtain ⟨k, wrong, id, hk, hwrong, hid, he, hpass⟩ := ih h
      exact ⟨k + 1, wrong, id, hk, hwrong, hid, he, by simp [checkPlatforms, hos, hpass]⟩
    | some id =>
      simp only [hos] at h
      cases hplatform : Platform.ofHostId id with
      | ok platform =>
        rw [hplatform] at h
        obtain ⟨k, wrong, id', hk, hwrong, hid, he, hpass⟩ := ih h
        exact ⟨k + 1, wrong, id', hk, hwrong, hid, he, by
          simp [checkPlatforms, hos, hplatform, hpass]⟩
      | error unknown =>
        rw [hplatform] at h
        cases h
        obtain ⟨hid, rfl⟩ := Platform.ofHostId_error hplatform
        exact ⟨0, entry, id, rfl, hos, hid, rfl, rfl⟩

theorem not_breaks_of_checkTarget (h : checkTarget seen t = .ok ()) (part : Part) (e : Refusal) :
    ¬ t.Breaks seen part e := by
  obtain ⟨hlinks, hplatforms, hname⟩ := checkTarget_ok h
  intro hb
  cases hb with
  | link hk hn => exact hn (hlinks _ (List.mem_of_getElem? hk))
  | library hk hid => exact hid (known_of_checkPlatforms hplatforms (List.mem_of_getElem? hk))
  | name hmem => exact hname hmem

/-- A target that does not pass is refused with what is wrong at its first wrong part. -/
theorem first_of_checkTarget (h : checkTarget seen t = .error e) :
    ∃ part, t.Breaks seen part e ∧
      ∀ earlier e', earlier.Before part → ¬ t.Breaks seen earlier e' := by
  unfold checkTarget at h
  split at h
  · next name hfind =>
    cases h
    obtain ⟨hname, k, hk, hkth, hfirst⟩ := List.find?_eq_some_iff_getElem.1 hfind
    have hlink : t.link[k]? = some name := by rw [List.getElem?_eq_getElem hk, hkth]
    refine ⟨.link k, .link hlink (by simpa using hname), fun earlier e' hbefore hb => ?_⟩
    cases hbefore with
    | @links l _ hl =>
      cases hb with
      | link hl' hn =>
        obtain ⟨hlt, rfl⟩ := List.getElem?_eq_some_iff.1 hl'
        exact hn (by simpa using hfirst l hl)
  · next hnone =>
    have hlinks : ∀ name ∈ t.link, name ∈ seen := fun name hname => by
      simpa using List.find?_eq_none.1 hnone name hname
    have hlink (k : Nat) (e' : Refusal) : ¬ t.Breaks seen (.link k) e' := by
      intro hb
      cases hb with
      | link hk hn => exact hn (hlinks _ (List.mem_of_getElem? hk))
    split at h
    · next e' hplatforms =>
      cases h
      obtain ⟨k, entry, id, hk, hos, hid, rfl, hpass⟩ := first_of_checkPlatforms hplatforms
      obtain ⟨name, rfl⟩ := LibraryEntry.exists_linker_of_os? hos
      refine ⟨.library k, .library hk hid, fun earlier e' hbefore hb => ?_⟩
      cases hbefore with
      | link_library l _ => exact hlink l e' hb
      | libraries hl =>
        cases hb with
        | library hl' hid' =>
          have hbefore := List.mem_of_getElem? ((List.getElem?_take_of_lt hl).trans hl')
          exact hid' (known_of_checkPlatforms hpass hbefore)
    · next hplatforms =>
      split at h
      · next hseen =>
        cases h
        refine ⟨.name, .name (by simpa using hseen), fun earlier e' hbefore hb => ?_⟩
        cases hbefore with
        | link_name l => exact hlink l e' hb
        | library_name l =>
          cases hb with
          | library hl hid =>
            exact hid (known_of_checkPlatforms hplatforms (List.mem_of_getElem? hl))
      · cases h

/-! ### All targets -/

theorem Target.Breaks.congr {seen' : List String} {part : Part} (h : t.Breaks seen part e)
    (hseen : ∀ name, name ∈ seen ↔ name ∈ seen') : t.Breaks seen' part e := by
  cases h with
  | link hk hn => exact .link hk fun hmem => hn ((hseen _).2 hmem)
  | library hk hid => exact .library hk hid
  | name hmem => exact .name ((hseen _).1 hmem)

/-- What is wrong with the target after others is what is wrong with it on its own. -/
theorem violates_append_cons {before after : List Target} {part : Part} :
    Violates (before ++ t :: after) ⟨before.length, part⟩ e ↔
      t.Breaks (before.map Target.name).reverse part e := by
  have hmem (name : String) :
      name ∈ before.map Target.name ↔ name ∈ (before.map Target.name).reverse :=
    List.mem_reverse.symm
  simp only [Violates, List.getElem?_append_right (Nat.le_refl _), Nat.sub_self,
    List.getElem?_cons_zero, Option.some.injEq, exists_eq_left', List.take_left]
  exact ⟨fun h => h.congr hmem, fun h => h.congr fun name => (hmem name).symm⟩

theorem checkFrom_append_cons (before : List Target) (t : Target) (rest : List Target) :
    checkFrom (t.name :: (before.map Target.name).reverse) rest =
      checkFrom ((before ++ [t]).map Target.name).reverse rest := by
  simp

/-- The check of the targets after some others passes only if nothing is wrong with them. -/
theorem not_violates_of_checkFrom (before after : List Target) {place : Place}
    (h : checkFrom (before.map Target.name).reverse after = .ok ())
    (hplace : before.length ≤ place.target) : ¬ Violates (before ++ after) place e := by
  induction after generalizing before with
  | nil =>
    rintro ⟨t, ht, -⟩
    rw [List.append_nil, List.getElem?_eq_none hplace] at ht
    cases ht
  | cons t rest ih =>
    obtain ⟨htarget, hrest⟩ := checkFrom_cons h
    obtain ⟨i, part⟩ := place
    rcases Nat.eq_or_lt_of_le hplace with rfl | hlt
    · rw [violates_append_cons]
      exact not_breaks_of_checkTarget htarget part e
    · rw [checkFrom_append_cons] at hrest
      have hnone := ih _ hrest (by rwa [List.length_append, List.length_singleton])
      rwa [List.append_assoc, List.singleton_append] at hnone

/-- If the check of the targets after some others fails, then with what is wrong at their first
wrong place. -/
theorem first_of_checkFrom (before after : List Target)
    (h : checkFrom (before.map Target.name).reverse after = .error e) :
    ∃ place, before.length ≤ place.target ∧ Violates (before ++ after) place e ∧
      ∀ earlier e', before.length ≤ earlier.target → earlier.Before place →
        ¬ Violates (before ++ after) earlier e' := by
  induction after generalizing before with
  | nil => cases h
  | cons t rest ih =>
    unfold checkFrom at h
    split at h
    · next e' htarget =>
      cases h
      obtain ⟨part, hpart, hfirst⟩ := first_of_checkTarget htarget
      refine ⟨⟨before.length, part⟩, Nat.le_refl _, violates_append_cons.2 hpart, ?_⟩
      rintro ⟨i, earlier⟩ e' hle hbefore
      rcases hbefore with hlt | ⟨rfl, hbefore⟩
      · exact absurd hlt (Nat.not_lt.2 hle)
      · rw [violates_append_cons]
        exact hfirst earlier e' hbefore
    · next htarget =>
      rw [checkFrom_append_cons] at h
      obtain ⟨place, hle, hplace, hfirst⟩ := ih _ h
      rw [List.append_assoc, List.singleton_append] at hplace hfirst
      rw [List.length_append, List.length_singleton] at hle hfirst
      refine ⟨place, by omega, hplace, fun earlier e' hle' hbefore => ?_⟩
      obtain ⟨i, part⟩ := earlier
      rcases Nat.eq_or_lt_of_le hle' with rfl | hlt
      · rw [violates_append_cons]
        exact not_breaks_of_checkTarget htarget part e'
      · exact hfirst ⟨i, part⟩ e' hlt hbefore

/-- The names before a target are those of the targets at earlier places. -/
theorem mem_names_take {i : Nat} {name : String} :
    name ∈ (targets.take i).map Target.name ↔
      ∃ j u, j < i ∧ targets[j]? = some u ∧ u.name = name := by
  simp only [List.mem_map, List.mem_take_iff_getElem]
  constructor
  · rintro ⟨u, ⟨j, hj, rfl⟩, rfl⟩
    exact ⟨j, _, by omega, List.getElem?_eq_getElem (by omega), rfl⟩
  · rintro ⟨j, u, hj, hu, rfl⟩
    obtain ⟨hlt, rfl⟩ := List.getElem?_eq_some_iff.1 hu
    exact ⟨_, ⟨j, by omega, rfl⟩, rfl⟩

theorem nodup_names_iff : (targets.map Target.name).Nodup ↔
    ∀ (i : Nat) t, targets[i]? = some t → t.name ∉ (targets.take i).map Target.name := by
  simp only [mem_names_take]
  constructor
  · rintro h i t ht ⟨j, u, hj, hu, hname⟩
    have hlt : i < (targets.map Target.name).length := by
      simpa using (List.getElem?_eq_some_iff.1 ht).1
    refine List.nodup_iff_getElem?_ne_getElem?.1 h j i hj hlt ?_
    simp [ht, hu, hname]
  · intro h
    rw [List.nodup_iff_getElem?_ne_getElem?]
    intro j i hj hi heq
    rw [List.length_map] at hi
    have hu := List.getElem?_eq_getElem (Nat.lt_trans hj hi)
    have ht := List.getElem?_eq_getElem hi
    simp only [List.getElem?_map, ht, hu, Option.map_some, Option.some.injEq] at heq
    exact h i _ ht ⟨j, _, hj, hu, heq⟩

theorem admissible_iff : Admissible targets ↔ ∀ place e, ¬ Violates targets place e := by
  constructor
  · rintro h ⟨i, part⟩ e ⟨t, ht, hb⟩
    cases hb with
    | link hk hn => exact hn (mem_names_take.2 (h.links i t _ ht (List.mem_of_getElem? hk)))
    | library hk hid =>
      exact hid (h.platforms t (List.mem_of_getElem? ht) _ _ (List.mem_of_getElem? hk))
    | name hmem => exact nodup_names_iff.1 h.names i t ht hmem
  · intro h
    refine ⟨nodup_names_iff.2 fun i t ht hmem => ?_, fun i t name ht hname => ?_,
      fun t ht name id hmem => ?_⟩
    · exact h ⟨i, .name⟩ _ ⟨t, ht, .name hmem⟩
    · obtain ⟨k, hk⟩ := List.getElem?_of_mem hname
      by_contra hnone
      exact h ⟨i, .link k⟩ _ ⟨t, ht, .link hk fun hmem => hnone (mem_names_take.1 hmem)⟩
    · obtain ⟨i, hi⟩ := List.getElem?_of_mem ht
      obtain ⟨k, hk⟩ := List.getElem?_of_mem hmem
      by_contra hid
      exact h ⟨i, .library k⟩ _ ⟨t, hi, .library hk hid⟩

/-- In a list of targets that is admissible, every target comes after those that it links. -/
theorem Admissible.lt_of_links (h : Admissible targets) {i j : Nat} (hlinks : Links targets i j) :
    j < i := by
  obtain ⟨t, u, ht, hu, hname⟩ := hlinks
  obtain ⟨k, v, hk, hv, heq⟩ := h.links i t _ ht hname
  have hnot := nodup_names_iff.1 h.names
  rcases Nat.lt_trichotomy j k with hjk | rfl | hkj
  · exact absurd (mem_names_take.2 ⟨j, u, hjk, hu, heq.symm⟩) (hnot k v hv)
  · exact hk
  · exact absurd (mem_names_take.2 ⟨k, v, hkj, hv, heq⟩) (hnot j u hu)

/-- So no target is linked, directly or through others, by a target that it links itself. -/
theorem Admissible.not_transGen_links (h : Admissible targets) (i : Nat) :
    ¬ Relation.TransGen (Links targets) i i := by
  have hlt : ∀ {j k}, Relation.TransGen (Links targets) j k → k < j := by
    intro j k hjk
    induction hjk with
    | single hlinks => exact h.lt_of_links hlinks
    | tail _ hlinks ih => exact Nat.lt_trans (h.lt_of_links hlinks) ih
  exact fun hcycle => Nat.lt_irrefl i (hlt hcycle)

/-- A manifest passes its check exactly if it is admissible.  One that does not is refused with what
is wrong at its first wrong place.  In one that passes, every target comes after those that it
links, and no target links itself, directly or through others. -/
theorem check_exact (m : Manifest) :
    (m.check = .ok () ↔ Admissible m.targets) ∧
    (∀ e, m.check = .error e ↔ ∃ place, Violates m.targets place e ∧
      ∀ earlier e', earlier.Before place → ¬ Violates m.targets earlier e') ∧
    (m.check = .ok () → (∀ i j, Links m.targets i j → j < i) ∧
      ∀ i, ¬ Relation.TransGen (Links m.targets) i i) := by
  have passed (h : m.check = .ok ()) (place e) : ¬ Violates m.targets place e :=
    not_violates_of_checkFrom [] m.targets h (Nat.zero_le _)
  have refused (e) (h : m.check = .error e) : ∃ place, Violates m.targets place e ∧
      ∀ earlier e', earlier.Before place → ¬ Violates m.targets earlier e' := by
    obtain ⟨place, -, hplace, hfirst⟩ := first_of_checkFrom [] m.targets h
    exact ⟨place, hplace, fun earlier e' => hfirst earlier e' (Nat.zero_le _)⟩
  refine ⟨⟨fun h => admissible_iff.2 (passed h), fun h => ?_⟩, fun e => ⟨refused e, ?_⟩,
    fun h => ?_⟩
  · cases hcheck : m.check with
    | ok _ => rfl
    | error e =>
      obtain ⟨place, hplace, -⟩ := refused e hcheck
      exact absurd hplace (admissible_iff.1 h place e)
  · rintro ⟨place, hplace, hfirst⟩
    cases hcheck : m.check with
    | ok _ => exact absurd hplace (passed hcheck place e)
    | error e' =>
      obtain ⟨place', hplace', hfirst'⟩ := refused e' hcheck
      rcases place.before_trichotomy place' with hbefore | rfl | hbefore
      · exact absurd hplace (hfirst' place e hbefore)
      · rw [hplace.unique hplace']
      · exact absurd hplace' (hfirst place' e' hbefore)
  · have hadmissible := admissible_iff.2 (passed h)
    exact ⟨fun i j => hadmissible.lt_of_links, hadmissible.not_transGen_links⟩

/-- A library of a project, and a program that links it and a library of one system. -/
def core : Target :=
  ⟨"core", .sharedLibrary, ⟨"libcore.so".toList⟩, .none, [], [], [], []⟩

@[inherit_doc core]
def app : Target :=
  ⟨"app", .executable, ⟨"app".toList⟩, .none, [], ["core"], [.linker "dl" (some "linux")], []⟩

/-- The library and then the program pass.  If the program comes before the library and once more
after it, its link is reported and its second definition is not. -/
theorem check_exact_coreApp :
    (check ⟨.none, [core, app]⟩ = .ok () ∧ Links [core, app] 1 0 ∧
      ¬ Relation.TransGen (Links [core, app]) 1 1) ∧
    (check ⟨.none, [app, core, app]⟩ = .error (.unknownTarget "app" "core") ∧
      (∃ place, Violates [app, core, app] place (.unknownTarget "app" "core") ∧
        ∀ earlier e', earlier.Before place → ¬ Violates [app, core, app] earlier e') ∧
      Violates [app, core, app] ⟨2, .name⟩ (.duplicateTarget "app")) := by
  have hpass : check ⟨.none, [core, app]⟩ = .ok () := rfl
  have hfail : check ⟨.none, [app, core, app]⟩ = .error (.unknownTarget "app" "core") := rfl
  obtain ⟨-, -, hacyclic⟩ := check_exact ⟨.none, [core, app]⟩
  obtain ⟨-, hfirst, -⟩ := check_exact ⟨.none, [app, core, app]⟩
  refine ⟨⟨hpass, ⟨app, core, rfl, rfl, List.mem_singleton.2 rfl⟩, (hacyclic hpass).2 1⟩,
    hfail, (hfirst _).1 hfail, app, rfl, .name ?_⟩
  simp [core, app]

end Manifest

end NativeBuild
