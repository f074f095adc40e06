import NativeBuild.Json.Value
import NativeBuild.Text.Utf8

/-!
Values that are written without blanks can be read back in one way only.  A text ends at its first
quote that stands for no character of its own, so what follows it can be told from it, and a list ends
at its bracket.
-/

namespace NativeBuild

namespace Text

theorem hexDigit_inj : ∀ m < 16, ∀ n < 16, hexDigit m = hexDigit n → m = n := by
  decide

/-- Different texts have different bytes. -/
theorem encode_injective : Function.Injective encode := by
  intro s t h
  have hbytes : s.utf8Encode = t.utf8Encode := congrArg List.toByteArray h
  rw [← String.toByteArray_ofList, ← String.toByteArray_ofList] at hbytes
  exact String.ofList_injective (String.toByteArray_inj.1 hbytes)

end Text

namespace Json

variable {c d : Char} {x y : List Char}

/-- The character that a backslash and a letter stand for. -/
def escaped : Char → Char
  | 'n' => '\n'
  | 'r' => '\r'
  | 't' => '\t'
  | 'b' => Char.ofNat 8
  | 'f' => Char.ofNat 12
  | letter => letter

/-- How a character is written: as itself, by a letter, or by its number. -/
inductive Escaped (c : Char) : List Char → Prop where
  | plain (hquote : c ≠ '"') (hslash : c ≠ '\\') : Escaped c [c]
  | letter {l : Char} (hl : l ≠ 'u') (hc : escaped l = c) : Escaped c ['\\', l]
  | number (hc : c.toNat < 32) :
    Escaped c ['\\', 'u', '0', '0', Text.hexDigit (c.toNat / 16), Text.hexDigit (c.toNat % 16)]

theorem escaped_escape (c : Char) : Escaped c (escape c) := by
  unfold escape
  split
  · next h => exact .letter (by decide) h.symm
  split
  · next h => exact .letter (by decide) h.symm
  split
  · next h => exact .letter (by decide) h.symm
  split
  · next h => exact .letter (by decide) h.symm
  split
  · next h => exact .letter (by decide) h.symm
  split
  · next h => exact .letter (by decide) ((congrArg Char.ofNat h).symm.trans (Char.ofNat_toNat c))
  split
  · next h => exact .letter (by decide) ((congrArg Char.ofNat h).symm.trans (Char.ofNat_toNat c))
  split
  · next h => exact .number h
  · next hquote hslash _ _ _ _ _ _ => exact .plain hquote hslash

/-- No character begins as the quote that ends a text. -/
theorem Escaped.ne_quote (h : Escaped c x) : x ++ y ≠ '"' :: z := by
  cases h with
  | plain hquote _ => exact fun h => hquote (List.cons.inj h).1
  | letter _ _ | number _ => exact fun h => absurd (List.cons.inj h).1 (by decide)

/-- What is written tells which character comes first. -/
theorem Escaped.append_inj {v w : List Char} (hc : Escaped c v) (hd : Escaped d w)
    (h : v ++ x = w ++ y) : c = d ∧ x = y := by
  cases hc with
  | plain _ hslash =>
    cases hd with
    | plain _ _ => exact List.cons.inj h
    | letter _ _ | number _ => exact absurd (List.cons.inj h).1 hslash
  | letter hl hc =>
    cases hd with
    | plain _ hslash => exact absurd (List.cons.inj h).1.symm hslash
    | letter _ hd =>
      obtain ⟨rfl, rfl⟩ := List.cons.inj (List.cons.inj h).2
      exact ⟨hc.symm.trans hd, rfl⟩
    | number _ => exact absurd (List.cons.inj (List.cons.inj h).2).1 hl
  | number hc =>
    cases hd with
    | plain _ hslash => exact absurd (List.cons.inj h).1.symm hslash
    | letter hl _ => exact absurd (List.cons.inj (List.cons.inj h).2).1.symm hl
    | number hd =>
      simp only [List.cons_append, List.nil_append, List.cons.injEq, true_and] at h
      obtain ⟨hhigh, hlow, rfl⟩ := h
      have high := Text.hexDigit_inj _ (by omega) _ (by omega) hhigh
      have low := Text.hexDigit_inj _ (by omega) _ (by omega) hlow
      refine ⟨Char.toNat_inj.1 (by omega), rfl⟩

/-- The characters of a text can be told from what follows its last quote. -/
theorem escapes_append_inj {s t : List Char}
    (h : s.flatMap escape ++ '"' :: x = t.flatMap escape ++ '"' :: y) : s = t ∧ x = y := by
  -- No character begins as a quote, so one text cannot go on where the other ends.
  induction s generalizing t with
  | nil =>
    cases t with
    | nil => exact ⟨rfl, (List.cons.inj h).2⟩
    | cons d t =>
      rw [List.flatMap_cons, List.append_assoc] at h
      exact absurd h.symm (escaped_escape d).ne_quote
  | cons c s ih =>
    rw [List.flatMap_cons, List.append_assoc] at h
    cases t with
    | nil => exact absurd h (escaped_escape c).ne_quote
    | cons d t =>
      rw [List.flatMap_cons, List.append_assoc] at h
      obtain ⟨rfl, hrest⟩ := (escaped_escape c).append_inj (escaped_escape d) h
      obtain ⟨rfl, rfl⟩ := ih hrest
      exact ⟨rfl, rfl⟩

theorem writeText_append_inj {s t : String} (h : writeText s ++ x = writeText t ++ y) :
    s = t ∧ x = y := by
  simp only [writeText, List.cons_append, List.append_assoc, List.nil_append, List.cons.injEq,
    true_and] at h
  obtain ⟨hs, rfl⟩ := escapes_append_inj h
  exact ⟨String.toList_injective hs, rfl⟩

/-- The first text of a list stands alone, and every other one has a comma in front. -/
theorem compactItems_text (a : String) (s : List String) :
    compactItems ((a :: s).map .text) = writeText a ++ s.flatMap fun b => ',' :: writeText b := by
  induction s generalizing a with
  | nil => simp [compactItems, compact]
  | cons b s ih =>
    rw [List.map_cons, List.map_cons, compactItems, ← List.map_cons, ih, compact, List.flatMap_cons,
      List.cons_append]
    exact fun h => nomatch h

theorem further_append_inj {s t : List String}
    (h : s.flatMap (fun a => ',' :: writeText a) ++ ']' :: x =
      t.flatMap (fun b => ',' :: writeText b) ++ ']' :: y) : s = t ∧ x = y := by
  induction s generalizing t with
  | nil =>
    cases t with
    | nil => exact ⟨rfl, (List.cons.inj h).2⟩
    | cons b t => exact absurd (List.cons.inj h).1 (by decide)
  | cons a s ih =>
    cases t with
    | nil => exact absurd (List.cons.inj h).1 (by decide)
    | cons b t =>
      simp only [List.flatMap_cons, List.cons_append, List.append_assoc, List.cons.injEq,
        true_and] at h
      obtain ⟨rfl, hrest⟩ := writeText_append_inj h
      obtain ⟨rfl, rfl⟩ := ih hrest
      exact ⟨rfl, rfl⟩

theorem items_append_inj {s t : List String}
    (h : compactItems (s.map .text) ++ ']' :: x = compactItems (t.map .text) ++ ']' :: y) :
    s = t ∧ x = y := by
  cases s with
  | nil =>
    cases t with
    | nil => exact ⟨rfl, (List.cons.inj h).2⟩
    | cons b t =>
      rw [compactItems_text] at h
      exact absurd (List.cons.inj h).1 (by decide)
  | cons a s =>
    rw [compactItems_text, List.append_assoc] at h
    cases t with
    | nil => exact absurd (List.cons.inj h).1 (by decide)
    | cons b t =>
      rw [compactItems_text, List.append_assoc] at h
      obtain ⟨rfl, hrest⟩ := writeText_append_inj h
      obtain ⟨rfl, rfl⟩ := further_append_inj hrest
      exact ⟨rfl, rfl⟩

theorem texts_append_inj {s t : List String}
    (h : (texts s).compact ++ x = (texts t).compact ++ y) : s = t ∧ x = y := by
  simp only [texts, compact, List.cons_append, List.append_assoc, List.nil_append, List.cons.injEq,
    true_and] at h
  exact items_append_inj h

end Json

end NativeBuild
