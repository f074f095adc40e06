import Mathlib.Data.List.DropRight
import NativeBuild.Proofs.Build.Errand
import NativeBuild.Proofs.Path.Absolute

/-!
A machine that is looked at from another directory.  In a tree without a link to the current directory,
an absolute path leads to the same place from everywhere.
-/

namespace NativeBuild

namespace Path

variable {p q : Path}

/-- What lies above an absolute path is absolute. -/
theorem isAbsolute_of_above? (h : p.isAbsolute = true) (hq : p.above? = some q) :
    q.isAbsolute = true := by
  obtain ⟨text, rfl⟩ := exists_of_isAbsolute h
  unfold above? at hq
  rw [Text.pieces_cons_mark] at hq
  split at hq
  · simp [h] at hq
  · next last rest hlast =>
    have hsuffix : rest.dropWhile isIdle <:+ ([] :: Text.pieces '/' text).reverse :=
      (List.dropWhile_suffix _).trans ((List.suffix_cons last rest).trans
        (hlast ▸ List.dropWhile_suffix _))
    have hidem : (rest.dropWhile isIdle).dropWhile isIdle = rest.dropWhile isIdle :=
      List.dropWhile_idempotent ..
    generalize rest.dropWhile isIdle = kept at hq hsuffix hidem
    split at hq
    · rw [if_pos h] at hq
      obtain rfl := Option.some.inj hq
      rfl
    · next hkept =>
      obtain rfl := Option.some.inj hq
      -- From the front, what is kept begins with the empty piece before the first slash.
      have hprefix : kept.reverse <+: [] :: Text.pieces '/' text := by
        rw [← List.reverse_suffix, List.reverse_reverse]
        exact hsuffix
      obtain ⟨before, hbefore⟩ := hprefix
      cases hfront : kept.reverse with
      | nil => exact absurd (List.reverse_eq_nil_iff.1 hfront) hkept
      | cons first more =>
        rw [hfront] at hbefore
        obtain ⟨rfl, -⟩ := List.cons.inj hbefore
        cases more with
        | nil =>
          obtain rfl : kept = [[]] := List.reverse_inj.1 hfront
          cases hidem
        | cons second more => rfl

theorem isAbsolute_withoutSlashes (h : p.isAbsolute = true) :
    (Files.withoutSlashes p).isAbsolute = true := by
  have hprefix : (p.chars.reverse.dropWhile (· = '/')).reverse <+: p.chars := by
    rw [← List.reverse_suffix, List.reverse_reverse]
    exact List.dropWhile_suffix _
  unfold Files.withoutSlashes
  dsimp only
  generalize (p.chars.reverse.dropWhile (· = '/')).reverse = body at hprefix ⊢
  split
  · rfl
  · next hbody =>
    obtain ⟨text, rfl⟩ := exists_of_isAbsolute h
    cases body with
    | nil => exact absurd rfl hbody
    | cons first rest =>
      obtain ⟨more, hmore⟩ := hprefix
      obtain ⟨rfl, -⟩ := List.cons.inj hmore
      rfl

end Path

namespace Files

variable {files : Files} {here here' : Location} {p : Path}

/-- Whether no place of a tree is a link to the current directory. -/
def Free (files : Files) : Prop :=
  ∀ e ∈ files.entries, e.2 ≠ .here

theorem mem_of_lookup {loc : Location} {e : Entry} {entries : List (Location × Entry)}
    (h : entries.lookup loc = some e) : ∃ place, (place, e) ∈ entries := by
  induction entries with
  | nil => cases h
  | cons entry rest ih =>
    rw [List.lookup_cons] at h
    split at h
    · cases h
      exact ⟨entry.1, List.mem_cons_self⟩
    · obtain ⟨place, hplace⟩ := ih h
      exact ⟨place, List.mem_cons_of_mem _ hplace⟩

namespace Free

theorem at? (h : files.Free) (loc : Location) : files.at? loc ≠ some .here := by
  intro hat
  unfold Files.at? at hat
  split at hat
  · cases hat
  · obtain ⟨place, hplace⟩ := mem_of_lookup hat
    exact h _ hplace rfl

theorem walk (h : files.Free) {follow : Bool}
    {jump jump' : Location → List Name → Except IoError Spot}
    (hjump : ∀ dir names, jump dir names = jump' dir names) (dir : Location) (names : List Name) :
    files.walk here follow jump dir names = files.walk here' follow jump' dir names := by
  obtain rfl : jump = jump' := funext fun dir => funext fun names => hjump dir names
  induction names generalizing dir with
  | nil => rfl
  | cons name rest ih =>
    simp only [Files.walk, ih]
    split
    · rfl
    · split
      · rfl
      · split
        · rfl
        · cases hat : files.at? (dir ++ [name]) with
          | none => rfl
          | some e =>
            cases e with
            | here => exact absurd hat (h.at? _)
            | _ => rfl

theorem search (h : files.Free) (here here' : Location) {follow : Bool} (links : Nat)
    (dir : Location) (names : List Name) :
    files.search here follow links dir names = files.search here' follow links dir names := by
  induction links generalizing dir names with
  | zero => exact h.walk (fun _ _ => rfl) dir names
  | succ links ih => exact h.walk ih dir names

/-- An absolute path names the same spot from everywhere. -/
theorem locate (h : files.Free) (hp : p.isAbsolute = true) (here here' : Location) (follow : Bool) :
    files.locate here follow p = files.locate here' follow p := by
  simp only [Files.locate, hp, if_true, h.search here here']

theorem find (h : files.Free) (hp : p.isAbsolute = true) (here here' : Location) (follow : Bool) :
    files.find here follow p = files.find here' follow p := by
  rw [Files.find, Files.find, h.locate hp here here']

/-! ### Directories -/

theorem put (h : files.Free) (loc : Location) {e : Entry} (he : e ≠ .here) :
    (files.put loc e).Free := by
  have htouched (files : Files) : (files.touched loc).entries = files.entries := by
    simp only [touched]
    generalize (if files.clock = 0 then none else some (files.clock : Int)) = changed
    split <;> rfl
  intro entry hentry
  rw [Files.put, htouched] at hentry
  dsimp only at hentry
  split at hentry
  · obtain ⟨old, hold, rfl⟩ := List.mem_map.1 hentry
    split
    · exact he
    · exact h old hold
  · rcases List.mem_append.1 hentry with hentry | hentry
    · exact h entry hentry
    · rw [List.mem_singleton.1 hentry]
      exact he

theorem makeDirectory (h : files.Free) (hp : p.isAbsolute = true) (here here' : Location) :
    files.makeDirectory here p = files.makeDirectory here' p ∧
      ∀ made, files.makeDirectory here p = .ok made → made.Free := by
  have hlocate := h.locate (Path.isAbsolute_withoutSlashes hp) here here' false
  refine ⟨by rw [Files.makeDirectory, Files.makeDirectory, hlocate], fun made hmade => ?_⟩
  unfold Files.makeDirectory at hmade
  cases hspot : files.locate here false (withoutSlashes p) with
  | error e => rw [hspot] at hmade; cases hmade
  | ok spot =>
    cases spot with
    | entry loc e => rw [hspot] at hmade; cases hmade
    | free dir name =>
      rw [hspot] at hmade
      cases hplace : freePlace dir name with
      | error e => simp [bind, Except.bind, hplace] at hmade
      | ok loc =>
        simp only [bind, Except.bind, hplace, pure, Except.pure] at hmade
        cases hmade
        exact h.put loc (by decide)

theorem isDirectory (h : files.Free) (hp : p.isAbsolute = true) (here here' : Location) :
    files.isDirectory here p = files.isDirectory here' p := by
  rw [Files.isDirectory, Files.isDirectory, h.find hp here here']

theorem makeDirectoriesWithin (h : files.Free) (hp : p.isAbsolute = true) (here here' : Location)
    (fuel : Nat) :
    Files.makeDirectoriesWithin fuel files here p = Files.makeDirectoriesWithin fuel files here' p ∧
      (Files.makeDirectoriesWithin fuel files here p).1.Free := by
  induction fuel generalizing files p with
  | zero => exact ⟨rfl, h⟩
  | succ fuel ih =>
    obtain ⟨hmake, hfree⟩ := h.makeDirectory hp here here'
    simp only [Files.makeDirectoriesWithin, ← hmake, ← h.isDirectory hp here here']
    split
    · exact ⟨rfl, h⟩
    · split
      · next made hmade => exact ⟨rfl, hfree made hmade⟩
      · split
        · exact ⟨rfl, h⟩
        · next above habove =>
          obtain ⟨hsame, hbelow⟩ := ih h (Path.isAbsolute_of_above? hp habove)
          rw [← hsame]
          generalize Files.makeDirectoriesWithin fuel files here above = r at hbelow
          obtain ⟨grown, made⟩ := r
          cases made with
          | error e => exact ⟨rfl, hbelow⟩
          | ok _ =>
            replace hbelow : grown.Free := hbelow
            obtain ⟨hmake', hfree'⟩ := hbelow.makeDirectory hp here here'
            simp only [← hmake', ← hbelow.isDirectory hp here here', true_and]
            split
            · next made hmade => exact hfree' made hmade
            · exact hbelow
      · exact ⟨rfl, h⟩

end Free

end Files

/-! ### Machines -/

namespace Machine

variable {m m' : Machine} {p : Path}

theorem ensureDirectory_here (m : Machine) (p : Path) :
    (NativeBuild.ensureDirectory p m).1.here = m.here := by
  simp only [NativeBuild.ensureDirectory, makeDirectories]
  cases m.files.makeDirectories m.place p with
  | mk files made => cases made <;> rfl

/-- Whether a machine is another one in another directory, and no place leads back to the current
directory. -/
structure Moved (m m' : Machine) : Prop where
  files : m'.files = m.files
  env : m'.env = m.env
  free : m.files.Free

namespace Moved

theorem has (h : m.Moved m') (hp : p.isAbsolute = true) : m.has p = m'.has p := by
  simp only [Machine.has, Files.has, h.files, h.free.find hp m.place m'.place]

theorem isFile (h : m.Moved m') (hp : p.isAbsolute = true) : m.isFile p = m'.isFile p := by
  simp only [Machine.isFile, Files.isFile, h.files, h.free.find hp m.place m'.place]

theorem addDirectory (h : m.Moved m') (hp : p.isAbsolute = true) (found : SourceSet) :
    found.addDirectory m p = found.addDirectory m' p := by
  have hlisting : m.files.listing m.place p = m'.files.listing m'.place p := by
    simp only [Files.listing, h.files, h.free.find hp m.place m'.place]
  unfold SourceSet.addDirectory
  rw [← hlisting]
  split
  · rfl
  · next inside _ =>
    refine List.foldl_ext _ _ _ fun s e he => ?_
    obtain ⟨⟨name, entry⟩, -, rfl⟩ := List.mem_map.1 (List.mem_filter.1 he).1
    exact SourceSet.addFile_elsewhere (Path.isAbsolute_append_of hp name) s m.here m'.here

theorem ensureDirectory (h : m.Moved m') (hp : p.isAbsolute = true) :
    (NativeBuild.ensureDirectory p m).1.Moved (NativeBuild.ensureDirectory p m').1 ∧
      (NativeBuild.ensureDirectory p m).2 = (NativeBuild.ensureDirectory p m').2 := by
  obtain ⟨hsame, hfree⟩ := h.free.makeDirectoriesWithin hp m.place m'.place (p.components.length + 2)
  simp only [NativeBuild.ensureDirectory, makeDirectories, Files.makeDirectories, h.files, ← hsame]
  generalize Files.makeDirectoriesWithin _ m.files m.place p = r at hfree
  obtain ⟨files, made⟩ := r
  cases made with
  | ok _ => exact ⟨⟨rfl, h.env, hfree⟩, rfl⟩
  | error e => exact ⟨⟨rfl, h.env, hfree⟩, rfl⟩

end Moved

end Machine

end NativeBuild
