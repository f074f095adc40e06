import NativeBuild.Json.Record
import NativeBuild.Json.Value

/-!
Readers read back what is written without blanks.  A reader is right about a text if it makes the
value of it whatever comes after, so that readers of parts can be put together to a reader of the
whole in the way in which the whole is written.
-/

namespace NativeBuild

namespace Text

theorem hexValue?_hexDigit : ∀ n < 16, hexValue? (hexDigit n) = some n := by
  decide

end Text

namespace Json

variable {α β δ : Type} {read : Reader α} {w : List Char} {a : α}

/-- Whether a reader makes a value of a text, whatever comes after it. -/
def Reads (read : Reader α) (w : List Char) (a : α) : Prop :=
  ∀ rest, read (w ++ rest) = .ok (a, rest)

theorem Reads.map (h : Reads read w a) (f : α → β) : Reads (read.map f) w (f a) := by
  intro rest
  rw [Reader.map, h rest]
  rfl

theorem Reads.whole (h : Reads read w a) : read.whole w = .ok a := by
  have hread := h []
  rw [List.append_nil] at hread
  rw [Reader.whole, hread]
  rfl

theorem skipSpace_cons {c : Char} {s : List Char} (h : isSpace c = false) :
    skipSpace (c :: s) = c :: s := by
  simp [skipSpace, h]

/-! ### Texts -/

theorem readUnit_control {c : Char} (h : c.toNat < 32) (rest : List Char) :
    readUnit ('0' :: '0' :: Text.hexDigit (c.toNat / 16) :: Text.hexDigit (c.toNat % 16) :: rest) =
      .ok (c.toNat, rest) := by
  have hzero : Text.hexValue? '0' = some 0 := by decide
  have hhigh := Text.hexValue?_hexDigit (c.toNat / 16) (by omega)
  have hlow := Text.hexValue?_hexDigit (c.toNat % 16) (by omega)
  simp only [readUnit, hzero, hhigh, hlow, Except.ok.injEq, Prod.mk.injEq, and_true]
  omega

theorem readCodePoint_control {c : Char} (h : c.toNat < 32) (rest : List Char) :
    readCodePoint
        ('0' :: '0' :: Text.hexDigit (c.toNat / 16) :: Text.hexDigit (c.toNat % 16) :: rest) =
      .ok (c, rest) := by
  have hlow : isLowUnit c.toNat = false := by simp [isLowUnit]; omega
  have hhigh : isHighUnit c.toNat = false := by simp [isHighUnit]; omega
  rw [readCodePoint, readUnit_control h]
  simp [bind, Except.bind, hlow, hhigh, Char.ofNat_toNat]

/-- A character is read from the way in which it is written. -/
theorem readCharsWithin_escape (c : Char) {fuel : Nat} {s more rest : List Char}
    (h : readCharsWithin fuel s = .ok (more, rest)) :
    readCharsWithin (fuel + 1) (escape c ++ s) = .ok (c :: more, rest) := by
  -- All but the plain ones begin with a backslash.
  have short {l : Char} (hl : l ≠ 'u') (hc : shortEscape? l = some c) :
      readCharsWithin (fuel + 1) ('\\' :: l :: s) = .ok (c :: more, rest) := by
    have hescape : readEscape (l :: s) = .ok (c, s) := by
      unfold readEscape
      split
      · contradiction
      · next heq => exact absurd (List.cons.inj heq).1 hl
      · next heq =>
        obtain ⟨rfl, rfl⟩ := List.cons.inj heq
        rw [hc]
    simp [readCharsWithin, hescape, h, bind, Except.bind]
  unfold escape
  split
  · next hc => exact short (by decide) (by rw [hc]; rfl)
  split
  · next hc => exact short (by decide) (by rw [hc]; rfl)
  split
  · next hc => exact short (by decide) (by rw [hc]; rfl)
  split
  · next hc => exact short (by decide) (by rw [hc]; rfl)
  split
  · next hc => exact short (by decide) (by rw [hc]; rfl)
  split
  · next hc => exact short (by decide) (by rw [← Char.ofNat_toNat c, hc]; rfl)
  split
  · next hc => exact short (by decide) (by rw [← Char.ofNat_toNat c, hc]; rfl)
  split
  · next hc =>
    have hescape : readEscape ('u' :: '0' :: '0' :: Text.hexDigit (c.toNat / 16) ::
        Text.hexDigit (c.toNat % 16) :: s) = .ok (c, s) := readCodePoint_control hc s
    simp [readCharsWithin, hescape, h, bind, Except.bind]
  · next hquote hslash _ _ _ _ _ hcontrol =>
    simp [readCharsWithin, hquote, hslash, hcontrol, h, bind, Except.bind]

theorem escape_ne_nil (c : Char) : escape c ≠ [] := by
  unfold escape
  repeat' split
  all_goals exact List.cons_ne_nil _ _

theorem readCharsWithin_escapes (s rest : List Char) {fuel : Nat} (h : s.length < fuel) :
    readCharsWithin fuel (s.flatMap escape ++ '"' :: rest) = .ok (s, rest) := by
  induction s generalizing fuel with
  | nil =>
    obtain ⟨fuel, rfl⟩ : ∃ n, fuel = n + 1 := ⟨fuel - 1, by omega⟩
    simp [readCharsWithin]
  | cons c s ih =>
    obtain ⟨fuel, rfl⟩ : ∃ n, fuel = n + 1 := ⟨fuel - 1, by omega⟩
    rw [List.flatMap_cons, List.append_assoc]
    exact readCharsWithin_escape c (ih (by simpa using h))

theorem length_le_escapes (s : List Char) : s.length ≤ (s.flatMap escape).length := by
  induction s with
  | nil => exact Nat.le_refl 0
  | cons c s ih =>
    have := List.length_pos_iff.2 (escape_ne_nil c)
    simp only [List.flatMap_cons, List.length_append, List.length_cons]
    omega

theorem readChars_escapes (s rest : List Char) :
    readChars (s.flatMap escape ++ '"' :: rest) = .ok (s, rest) := by
  refine readCharsWithin_escapes s rest ?_
  have := length_le_escapes s
  simp only [List.length_append, List.length_cons]
  omega

theorem reads_text (expected : String) (s : String) :
    Reads (Reader.text expected) (writeText s) s := by
  intro rest
  simp only [Reader.text, writeText, List.cons_append, List.append_assoc, List.nil_append,
    skipSpace_cons (show isSpace '"' = false by decide), readChars_escapes, bind, Except.bind,
    String.ofList_toList]

/-- What may be null is read as nothing or as what it is. -/
theorem reads_optional {f : String → α} (h : ∀ s, Reads read (writeText s) (f s))
    (item : Option String) :
    Reads (Reader.optional read) (Json.optional item).compact (item.map f) := by
  intro rest
  cases item with
  | none => rfl
  | some s =>
    -- The text begins with a quote, and so not as null does.
    have hsome : Reader.optional read (writeText s ++ rest) =
        (read (writeText s ++ rest)).bind fun r => .ok (some r.1, r.2) := rfl
    exact hsome.trans (by rw [h s rest]; rfl)

/-! ### Parts between commas -/

/-- Parts with a comma before each of them, or before all but the first. -/
def joined : Bool → List (List Char) → List Char
  | _, [] => []
  | first, w :: ws => (if first then w else ',' :: w) ++ joined false ws

/-- A field as it is written. -/
def compactField (e : String × Json) : List Char :=
  writeText e.1 ++ ':' :: compact e.2

theorem compactItems_eq (vs : List Json) : compactItems vs = joined true (vs.map compact) := by
  match vs with
  | [] => rfl
  | [v] => simp [compactItems, joined]
  | v :: v' :: vs =>
    have ih := compactItems_eq (v' :: vs)
    simp only [compactItems, ih, joined, List.map_cons, if_true, Bool.false_eq_true, if_false]
    rfl

theorem compactFields_eq (fields : List (String × Json)) :
    compactFields fields = joined true (fields.map compactField) := by
  match fields with
  | [] => rfl
  | [e] => simp [compactFields, joined, compactField]
  | e :: e' :: fields =>
    have ih := compactFields_eq (e' :: fields)
    simp only [compactFields, ih, joined, List.map_cons, if_true, Bool.false_eq_true, if_false,
      compactField]
    simp

theorem length_le_joined {f : α → List Char} {xs : List α} (h : ∀ x ∈ xs, f x ≠ []) (first : Bool) :
    xs.length ≤ (joined first (xs.map f)).length := by
  induction xs generalizing first with
  | nil => exact Nat.le_refl 0
  | cons x xs ih =>
    have hx := List.length_pos_iff.2 (h x List.mem_cons_self)
    have hxs := ih (fun y hy => h y (List.mem_cons_of_mem _ hy)) false
    cases first <;> simp only [joined, List.map_cons, List.length_append, List.length_cons, if_true,
      Bool.false_eq_true, if_false] <;> omega

/-- Whether a text begins as a value does, and not as the end of a list. -/
def Opens (w : List Char) : Prop :=
  ∃ c tail, w = c :: tail ∧ isSpace c = false ∧ c ≠ ']'

theorem Opens.ne_nil (h : Opens w) : w ≠ [] := by
  obtain ⟨c, tail, rfl, -⟩ := h
  exact List.cons_ne_nil c tail

theorem opens_text (s : String) : Opens (compact (.text s)) :=
  ⟨'"', _, rfl, by decide, by decide⟩

theorem opens_list (vs : List Json) : Opens (compact (.list vs)) :=
  ⟨'[', _, rfl, by decide, by decide⟩

theorem opens_record (fields : List (String × Json)) : Opens (compact (.record fields)) :=
  ⟨'\x7b', _, rfl, by decide, by decide⟩

theorem nextItem_part (h : Opens w) (first : Bool) (rest : List Char) :
    nextItem first ((if first then w else ',' :: w) ++ rest) = .ok (.part (w ++ rest)) := by
  obtain ⟨c, tail, rfl, hspace, hne⟩ := h
  cases first with
  | true => simp [nextItem, skipSpace_cons hspace]
  | false =>
    simp only [nextItem, List.cons_append, skipSpace_cons (show isSpace ',' = false by decide),
      skipSpace_cons hspace, Bool.false_eq_true, if_false, if_true, Char.reduceEq, imp_self]
    -- The next item does not begin as the end of the list does.
    split
    · contradiction
    · next heq => exact absurd (List.cons.inj heq).1 hne
    · rfl

theorem readItemsWithin_joined {f : α → Json} {xs : List α}
    (hopens : ∀ x ∈ xs, Opens (f x).compact) (hreads : ∀ x ∈ xs, Reads read (f x).compact x)
    (first : Bool) (rest : List Char) {fuel : Nat} (hfuel : xs.length < fuel) :
    readItemsWithin read fuel first (joined first (xs.map fun x => (f x).compact) ++ ']' :: rest) =
      .ok (xs, rest) := by
  induction xs generalizing first fuel with
  | nil =>
    obtain ⟨fuel, rfl⟩ : ∃ n, fuel = n + 1 := ⟨fuel - 1, by omega⟩
    cases first <;> rfl
  | cons x xs ih =>
    obtain ⟨fuel, rfl⟩ : ∃ n, fuel = n + 1 := ⟨fuel - 1, by omega⟩
    have hmore := ih (fun y hy => hopens y (List.mem_cons_of_mem _ hy))
      (fun y hy => hreads y (List.mem_cons_of_mem _ hy)) false
      (show xs.length < fuel by simpa using hfuel)
    simp only [List.map_cons, joined, List.append_assoc, readItemsWithin,
      nextItem_part (hopens x List.mem_cons_self), hreads x List.mem_cons_self _, hmore, bind,
      Except.bind]

/-- A list is read by reading what it is made of. -/
theorem reads_list {f : α → Json} {xs : List α} (hopens : ∀ x ∈ xs, Opens (f x).compact)
    (hreads : ∀ x ∈ xs, Reads read (f x).compact x) :
    Reads (Reader.list read) (compact (.list (xs.map f))) xs := by
  intro rest
  have hlen := length_le_joined (fun x hx => (hopens x hx).ne_nil) true
  simp only [compact, compactItems_eq, List.map_map, Function.comp_def, List.cons_append,
    List.append_assoc, List.nil_append, Reader.list,
    skipSpace_cons (show isSpace '[' = false by decide)]
  refine readItemsWithin_joined hopens hreads true rest ?_
  simp only [List.length_append]
  omega

/-- A list of texts is read with a reader of texts. -/
theorem reads_texts {f : α → String} (h : ∀ x, Reads read (writeText (f x)) x) (xs : List α) :
    Reads (Reader.list read) (texts (xs.map f)).compact xs := by
  rw [texts, List.map_map]
  exact reads_list (fun x _ => opens_text (f x)) fun x _ => h x

/-! ### Records -/

theorem compactField_append (e : String × Json) (rest : List Char) :
    compactField e ++ rest =
      '"' :: (e.1.toList.flatMap escape ++ '"' :: ':' :: (e.2.compact ++ rest)) := by
  simp [compactField, writeText]

theorem expectColon_cons (s : List Char) : expectColon (':' :: s) = .ok s :=
  rfl

theorem nextName_part (e : String × Json) (first : Bool) (rest : List Char) :
    nextName first ((if first then compactField e else ',' :: compactField e) ++ rest) =
      .ok (.part (e.1.toList.flatMap escape ++ '"' :: ':' :: (e.2.compact ++ rest))) := by
  cases first with
  | true =>
    rw [if_pos rfl, compactField_append]
    rfl
  | false =>
    rw [if_neg (by decide), List.cons_append, compactField_append]
    rfl

theorem readEntriesWithin_joined {f : α → Json} {entries : List (String × α)}
    (hreads : ∀ e ∈ entries, Reads read (f e.2).compact e.2) (first : Bool) (rest : List Char)
    {fuel : Nat} (hfuel : entries.length < fuel) :
    readEntriesWithin read fuel first
        (joined first (entries.map fun e => compactField (e.1, f e.2)) ++ '\x7d' :: rest) =
      .ok (entries, rest) := by
  induction entries generalizing first fuel with
  | nil =>
    obtain ⟨fuel, rfl⟩ : ∃ n, fuel = n + 1 := ⟨fuel - 1, by omega⟩
    cases first <;> rfl
  | cons e entries ih =>
    obtain ⟨fuel, rfl⟩ : ∃ n, fuel = n + 1 := ⟨fuel - 1, by omega⟩
    have hmore := ih (fun d hd => hreads d (List.mem_cons_of_mem _ hd)) false
      (show entries.length < fuel by simpa using hfuel)
    simp only [List.map_cons, joined, List.append_assoc, readEntriesWithin, nextName_part,
      readChars_escapes, expectColon_cons, hreads e List.mem_cons_self _, hmore, bind, Except.bind,
      String.ofList_toList]

theorem length_le_fields (fields : List (String × Json)) (rest : List Char) :
    fields.length < (joined true (fields.map compactField) ++ '\x7d' :: rest).length + 1 := by
  have hne : ∀ e ∈ fields, compactField e ≠ [] := fun e _ => List.cons_ne_nil _ _
  have hlen := length_le_joined hne true
  rw [List.length_append]
  omega

/-- A record with any names is read by reading its values. -/
theorem reads_entries {f : α → Json} {entries : List (String × α)}
    (hreads : ∀ e ∈ entries, Reads read (f e.2).compact e.2) :
    Reads (Reader.entries read) (Json.record (entries.map fun e => (e.1, f e.2))).compact
      entries := by
  intro rest
  have hlen := length_le_fields (entries.map fun e => (e.1, f e.2)) rest
  simp only [compact, compactFields_eq, List.map_map, List.cons_append, List.append_assoc,
    List.nil_append, Reader.entries, skipSpace_cons (show isSpace '\x7b' = false by decide)]
  refine readEntriesWithin_joined hreads true rest ?_
  simpa using hlen

/-- What the fields of a record make of a draft when each of them is known and is read once. -/
inductive Fills (form : RecordForm δ α) : δ → List (String × Json) → δ → Prop
  | nil (d : δ) : Fills form d [] d
  | cons {d d' d'' : δ} {name : String} {v : Json} {fields : List (String × Json)}
    {field : RecordField δ} (hfield : form.fields.find? (·.name == name) = some field)
    (hgiven : field.given d = false) (hreads : Reads (field.read d) v.compact d')
    (h : Fills form d' fields d'') : Fills form d ((name, v) :: fields) d''

theorem Fills.namedWithin {form : RecordForm δ α} {d d' : δ} {fields : List (String × Json)}
    (h : Fills form d fields d') (hfinish : form.finish d' = .ok a) (first : Bool)
    (rest : List Char) {fuel : Nat} (hfuel : fields.length < fuel) :
    form.namedWithin fuel first d (joined first (fields.map compactField) ++ '\x7d' :: rest) =
      .ok (a, rest) := by
  induction h generalizing first fuel with
  | nil d =>
    obtain ⟨fuel, rfl⟩ : ∃ n, fuel = n + 1 := ⟨fuel - 1, by omega⟩
    cases first <;> simp [joined, RecordForm.namedWithin, nextName,
      skipSpace_cons (show isSpace '\x7d' = false by decide), hfinish, bind, Except.bind]
  | @cons d d' d'' name v fields field hfield hgiven hreads h ih =>
    obtain ⟨fuel, rfl⟩ : ∃ n, fuel = n + 1 := ⟨fuel - 1, by omega⟩
    have hmore := ih hfinish false (show fields.length < fuel by simpa using hfuel)
    simp only [List.map_cons, joined, List.append_assoc, RecordForm.namedWithin, nextName_part,
      readChars_escapes, String.ofList_toList, hfield, hgiven, expectColon_cons, hreads _, hmore,
      bind, Except.bind, Bool.false_eq_true, if_false]

/-- A record with known fields is read if they fill a draft that can be finished. -/
theorem Fills.reads {form : RecordForm δ α} {d : δ} {fields : List (String × Json)}
    (h : Fills form form.empty fields d) (hfinish : form.finish d = .ok a) :
    Reads form.read (compact (.record fields)) a := by
  intro rest
  simp only [compact, compactFields_eq, List.cons_append, List.append_assoc, List.nil_append,
    RecordForm.read, skipSpace_cons (show isSpace '\x7b' = false by decide)]
  exact h.namedWithin hfinish true rest (length_le_fields fields rest)

/-! ### Named cases -/

theorem reads_case {cases : List (Case α)} {name : String} {c : Case α}
    (h : cases.find? (·.name == name) = some c) : Reads (readCase cases) (writeText name) c := by
  intro rest
  simp only [readCase, reads_text _ name rest, h, bind, Except.bind]

/-- A case that stands alone is read from its name. -/
theorem reads_bare {cases : List (Case α)} {name : String} {c : Case α}
    (h : cases.find? (·.name == name) = some c) (ha : c.alone = .ok a) :
    Reads (Reader.oneOf cases) (writeText name) a := by
  intro rest
  have hcase := reads_case h rest
  simp only [writeText, List.cons_append] at hcase
  simp only [Reader.oneOf, writeText, List.cons_append,
    skipSpace_cons (show isSpace '"' = false by decide), hcase, ha, bind, Except.bind]

/-- A case with a value is read from a record of its name and the value. -/
theorem reads_payload {cases : List (Case α)} {name : String} {c : Case α} {v : Json}
    (h : cases.find? (·.name == name) = some c) (hreads : Reads c.payload v.compact a) :
    Reads (Reader.oneOf cases) (compact (.record [(name, v)])) a := by
  intro rest
  simp only [compact, compactFields, List.cons_append, List.append_assoc, List.nil_append,
    Reader.oneOf, skipSpace_cons (show isSpace '\x7b' = false by decide),
    skipSpace_cons (show isSpace '\x7d' = false by decide), reads_case h _, expectColon_cons,
    hreads _, bind, Except.bind]

end Json

end NativeBuild
