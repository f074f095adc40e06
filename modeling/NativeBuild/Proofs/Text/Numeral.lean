import Mathlib.Data.List.Basic
import Mathlib.Data.List.TakeWhile
import Mathlib.Data.Nat.Digits.Defs
import NativeBuild.Text.Blank
import NativeBuild.Text.Decimal

/-!
Numbers as they are written for a reader who does not mind blanks: digits in base ten, with an optional
plus sign in front and blanks on both sides.  Whatever its length, such a text stands for one number,
and it is read as that number unless this has more than 64 bits.
-/

namespace NativeBuild.Text

variable {text core before after digits : List Char} {n k : Nat} {c : Char}

/-- A text for the number `n`: digits after an optional plus sign, between blanks. -/
inductive Numeral : List Char → Nat → Prop where
  | mk {before sign digits after : List Char} (hbefore : ∀ c ∈ before, isBlank c = true)
    (hsign : sign = [] ∨ sign = ['+']) (hne : digits ≠ []) (hdigits : ∀ c ∈ digits, isDigit c = true)
    (hafter : ∀ c ∈ after, isBlank c = true) :
    Numeral (before ++ (sign ++ digits) ++ after) (Nat.ofDigits 10 (digits.reverse.map digitValue))

/-- The digits of a number are read from the left, and count from the right. -/
theorem decimalValue_eq_ofDigits (digits : List Char) :
    decimalValue digits = Nat.ofDigits 10 (digits.reverse.map digitValue) := by
  rw [decimalValue, Nat.ofDigits_eq_foldr, List.foldr_map, List.foldr_reverse]
  refine List.foldl_ext _ _ _ fun n c _ => ?_
  rw [Nat.cast_id, Nat.mul_comm, Nat.add_comm]

theorem decimal?_eq_some_iff : decimal? digits = some n ↔ digits ≠ [] ∧
    (∀ c ∈ digits, isDigit c = true) ∧ n = Nat.ofDigits 10 (digits.reverse.map digitValue) := by
  unfold decimal?
  rw [← decimalValue_eq_ofDigits]
  split
  · next h => simp [List.isEmpty_iff.1 h]
  · next h =>
    have hne : digits ≠ [] := fun hnil => h (List.isEmpty_iff.2 hnil)
    split
    · next hall =>
      rw [Option.some.injEq, eq_comm]
      exact ⟨fun hn => ⟨hne, List.all_eq_true.1 hall, hn⟩, fun hn => hn.2.2⟩
    · next hall =>
      exact ⟨nofun, fun hn => absurd (List.all_eq_true.2 hn.2.1) hall⟩

/-! ### Blanks -/

theorem isBlank_of_isDigit (h : isDigit c = true) : isBlank c = false := by
  have hbounds : 48 ≤ c.toNat ∧ c.toNat ≤ 57 := by
    simpa [isDigit, Char.le_def, UInt32.le_iff_toNat_le] using h
  simp only [isBlank, Bool.or_eq_false_iff, Bool.and_eq_false_iff, decide_eq_false_iff_not,
    beq_eq_false_iff_ne]
  omega

/-- Trimming takes blanks from both ends. -/
theorem exists_eq_trim (text : List Char) : ∃ before after, text = before ++ trim text ++ after ∧
    (∀ c ∈ before, isBlank c = true) ∧ ∀ c ∈ after, isBlank c = true := by
  refine ⟨text.takeWhile isBlank, ((text.dropWhile isBlank).reverse.takeWhile isBlank).reverse, ?_,
    fun c hc => List.mem_takeWhile_imp hc,
    fun c hc => List.mem_takeWhile_imp (List.mem_reverse.1 hc)⟩
  rw [trim, List.append_assoc, ← List.reverse_append, List.takeWhile_append_dropWhile,
    List.reverse_reverse, List.takeWhile_append_dropWhile]

/-- What has no blanks is left between them. -/
theorem trim_eq_of_append (hbefore : ∀ c ∈ before, isBlank c = true) (hne : core ≠ [])
    (hcore : ∀ c ∈ core, isBlank c = false) (hafter : ∀ c ∈ after, isBlank c = true) :
    trim (before ++ core ++ after) = core := by
  have hstop {l more : List Char} (hne : l ≠ []) (h : ∀ c ∈ l, isBlank c = false) :
      (l ++ more).dropWhile isBlank = l ++ more := by
    obtain ⟨first, rest, rfl⟩ := List.exists_cons_of_ne_nil hne
    rw [List.cons_append, List.dropWhile_cons_of_neg (by simp [h first List.mem_cons_self])]
  rw [trim, List.append_assoc, List.dropWhile_append_of_pos hbefore, hstop hne hcore,
    List.reverse_append, List.dropWhile_append_of_pos fun c hc => hafter c (List.mem_reverse.1 hc)]
  have hback : (core.reverse ++ []).dropWhile isBlank = core.reverse ++ [] :=
    hstop (by simpa using hne) fun c hc => hcore c (List.mem_reverse.1 hc)
  rw [List.append_nil] at hback
  rw [hback, List.reverse_reverse]

/-! ### Reading -/

/-- The number that a text with an optional plus sign in front stands for. -/
def signed? (text : List Char) : Option Nat :=
  match text with
  | '+' :: rest => decimal? rest
  | _ => decimal? text

theorem unsigned64?_eq_filter (text : List Char) :
    unsigned64? text = (signed? text).filter (· ≤ 0xffffffffffffffff) :=
  rfl

theorem signed?_eq_some_iff : signed? text = some n ↔ ∃ sign digits, text = sign ++ digits ∧
    (sign = [] ∨ sign = ['+']) ∧ decimal? digits = some n := by
  constructor
  · intro h
    unfold signed? at h
    split at h
    · next rest => exact ⟨['+'], rest, rfl, .inr rfl, h⟩
    · exact ⟨[], text, rfl, .inl rfl, h⟩
  · rintro ⟨sign, digits, rfl, rfl | rfl, h⟩
    · rw [List.nil_append]
      unfold signed?
      split
      · -- A plus sign is no digit.
        obtain ⟨-, hdigits, -⟩ := decimal?_eq_some_iff.1 h
        exact absurd (hdigits '+' List.mem_cons_self) (by decide)
      · exact h
    · exact h

/-- Exactly the texts for a number are read as one, blanks around them aside. -/
theorem signed?_trim_eq_some_iff : signed? (trim text) = some n ↔ Numeral text n := by
  constructor
  · intro h
    obtain ⟨sign, digits, htrim, hsign, hdecimal⟩ := signed?_eq_some_iff.1 h
    obtain ⟨hne, hdigits, rfl⟩ := decimal?_eq_some_iff.1 hdecimal
    obtain ⟨before, after, htext, hbefore, hafter⟩ := exists_eq_trim text
    rw [htext, htrim]
    exact .mk hbefore hsign hne hdigits hafter
  · rintro ⟨hbefore, hsign, hne, hdigits, hafter⟩
    rename_i before sign digits after
    have hcore : ∀ c ∈ sign ++ digits, isBlank c = false := by
      intro c hc
      rcases List.mem_append.1 hc with hc | hc
      · rcases hsign with rfl | rfl
        · exact absurd hc List.not_mem_nil
        · rw [List.mem_singleton.1 hc]
          decide
      · exact isBlank_of_isDigit (hdigits c hc)
    rw [trim_eq_of_append hbefore (List.append_ne_nil_of_right_ne_nil sign hne) hcore hafter]
    exact signed?_eq_some_iff.2
      ⟨sign, digits, rfl, hsign, decimal?_eq_some_iff.2 ⟨hne, hdigits, rfl⟩⟩

theorem Numeral.unique (h : Numeral text n) (h' : Numeral text k) : n = k :=
  Option.some.inj ((signed?_trim_eq_some_iff.2 h).symm.trans (signed?_trim_eq_some_iff.2 h'))

/-- A number is read if it has at most 64 bits, and is not cut off if it has more. -/
theorem unsigned64?_trim_eq_some_iff :
    unsigned64? (trim text) = some n ↔ Numeral text n ∧ n < 2 ^ 64 := by
  rw [unsigned64?_eq_filter, Option.filter_eq_some_iff, signed?_trim_eq_some_iff, decide_eq_true_eq]
  exact and_congr_right fun _ => by omega

end NativeBuild.Text
