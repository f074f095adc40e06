/-!
Macros with or without a value, each name once, in ascending order.
-/

namespace NativeBuild

/-- A finite map from names to optional values, kept in ascending order of the names. -/
structure Defines where
  entries : List (String × Option String)
  sorted : entries.Pairwise fun a b => a.1 < b.1

namespace Defines

/-- No macros. -/
def empty : Defines :=
  ⟨[], .nil⟩

/-- Put an entry into an ascending list, in the stead of one of the same name. -/
def insertEntry (name : String) (value : Option String) :
    List (String × Option String) → List (String × Option String)
  | [] => [(name, value)]
  | e :: rest =>
    if name < e.1 then (name, value) :: e :: rest
    else if name = e.1 then (name, value) :: rest
    else e :: insertEntry name value rest

theorem mem_insertEntry {name : String} {value : Option String}
    {entries : List (String × Option String)} {x : String × Option String}
    (h : x ∈ insertEntry name value entries) : x = (name, value) ∨ x ∈ entries := by
  induction entries with
  | nil => exact .inl (List.mem_singleton.1 h)
  | cons e rest ih =>
    unfold insertEntry at h
    split at h
    · rcases List.mem_cons.1 h with h | h
      · exact .inl h
      · exact .inr h
    · split at h
      · rcases List.mem_cons.1 h with h | h
        · exact .inl h
        · exact .inr (List.mem_cons_of_mem _ h)
      · rcases List.mem_cons.1 h with h | h
        · exact .inr (h ▸ List.mem_cons_self)
        · rcases ih h with h | h
          · exact .inl h
          · exact .inr (List.mem_cons_of_mem _ h)

theorem sorted_insertEntry (name : String) (value : Option String)
    {entries : List (String × Option String)} (h : entries.Pairwise fun a b => a.1 < b.1) :
    (insertEntry name value entries).Pairwise fun a b => a.1 < b.1 := by
  induction entries with
  | nil => simp [insertEntry]
  | cons e rest ih =>
    obtain ⟨h1, h2⟩ := List.pairwise_cons.1 h
    unfold insertEntry
    split
    next hlt =>
      refine List.pairwise_cons.2 ⟨fun b hb => ?_, h⟩
      rcases List.mem_cons.1 hb with rfl | hb
      · exact hlt
      · exact String.lt_trans hlt (h1 b hb)
    next hnot =>
      split
      next heq => exact List.pairwise_cons.2 ⟨fun b hb => heq ▸ h1 b hb, h2⟩
      next hne =>
        refine List.pairwise_cons.2 ⟨fun b hb => ?_, ih h2⟩
        rcases mem_insertEntry hb with rfl | hb
        · exact Std.lt_of_le_of_ne (String.not_lt.1 hnot) (Ne.symm hne)
        · exact h1 b hb

/-- Give a macro a value, or none. -/
def insert (d : Defines) (name : String) (value : Option String) : Defines :=
  ⟨insertEntry name value d.entries, sorted_insertEntry name value d.sorted⟩

/-- The macros of a list; of entries with one name the last one counts. -/
def ofList (entries : List (String × Option String)) : Defines :=
  entries.foldl (fun d e => d.insert e.1 e.2) empty

end Defines

instance : DecidableEq Defines := fun a b =>
  if h : a.entries = b.entries then .isTrue (by cases a; cases b; cases h; rfl)
  else .isFalse fun e => h (e ▸ rfl)

end NativeBuild
