import NativeBuild.Text.Utf8

/-!
The bytes of a text are read as that text.  A character is read from its bytes alone, whatever has
been read before, and leaves the reader between two characters.
-/

namespace NativeBuild.Text

variable {b value owed low high : Nat} {read : List (Option Char)} {byte : UInt8} {c : Char}

theorem ofByte_whole (h : b ≤ 0x7f) : Lead.ofByte b = .whole (Char.ofNat b) := by
  simp [Lead.ofByte, show b < 0x80 by omega]

theorem ofByte_two (hlow : 0xc2 ≤ b) (hhigh : b ≤ 0xdf) :
    Lead.ofByte b = .first ⟨b - 0xc0, 1, 0x80, 0xbf⟩ := by
  simp [Lead.ofByte, show ¬ b < 0x80 by omega, show ¬ b < 0xc2 by omega, show b < 0xe0 by omega]

/-- The first of three bytes.  After two of them the range of the next byte is smaller, so that
there is one way to write a character and none to write half of a pair. -/
theorem ofByte_three (hlow : 0xe0 ≤ b) (hhigh : b ≤ 0xef) :
    Lead.ofByte b = .first
      ⟨b - 0xe0, 2, if b = 0xe0 then 0xa0 else 0x80, if b = 0xed then 0x9f else 0xbf⟩ := by
  simp only [Lead.ofByte, show ¬ b < 0x80 by omega, show ¬ b < 0xc2 by omega,
    show ¬ b < 0xe0 by omega, show b < 0xf0 by omega, if_false, if_true]
  by_cases h0 : b = 0xe0
  · subst h0; rfl
  by_cases hd : b = 0xed
  · subst hd; rfl
  simp [h0, hd]

/-- The first of four bytes. -/
theorem ofByte_four (hlow : 0xf0 ≤ b) (hhigh : b ≤ 0xf4) :
    Lead.ofByte b = .first
      ⟨b - 0xf0, 3, if b = 0xf0 then 0x90 else 0x80, if b = 0xf4 then 0x8f else 0xbf⟩ := by
  simp only [Lead.ofByte, show ¬ b < 0x80 by omega, show ¬ b < 0xc2 by omega,
    show ¬ b < 0xe0 by omega, show ¬ b = 0xe0 by omega, show ¬ b = 0xed by omega,
    show ¬ b < 0xf0 by omega, if_false]
  by_cases h0 : b = 0xf0
  · subst h0; rfl
  by_cases h4 : b = 0xf4
  · subst h4; rfl
  simp [h0, h4, show b < 0xf4 by omega]

theorem next_last (hlow : low ≤ byte.toNat) (hhigh : byte.toNat ≤ high) :
    Scan.next ⟨some ⟨value, 1, low, high⟩, read⟩ byte =
      ⟨none, some (Char.ofNat (value * 64 + byte.toNat % 64)) :: read⟩ := by
  simp [Scan.next, hlow, hhigh]

theorem next_owed (howed : 1 < owed) (hlow : low ≤ byte.toNat) (hhigh : byte.toNat ≤ high) :
    Scan.next ⟨some ⟨value, owed, low, high⟩, read⟩ byte =
      ⟨some ⟨value * 64 + byte.toNat % 64, owed - 1, 0x80, 0xbf⟩, read⟩ := by
  simp [Scan.next, hlow, hhigh, Nat.not_le.2 howed]

theorem next_none {begun : Begun} (h : Lead.ofByte byte.toNat = .first begun) :
    Scan.next ⟨none, read⟩ byte = ⟨some begun, read⟩ := by
  simp [Scan.next, Scan.start, h]

/-- A character is read from its bytes. -/
theorem foldl_next_char (c : Char) (read : List (Option Char)) :
    (String.utf8EncodeChar c).foldl Scan.next ⟨none, read⟩ = ⟨none, some c :: read⟩ := by
  have hvalid : c.toNat < 0xd800 ∨ 0xdfff < c.toNat ∧ c.toNat < 0x110000 := c.valid
  have hchar (n : Nat) (h : n = c.toNat) : Char.ofNat n = c := by rw [h, Char.ofNat_toNat]
  have hbyte (n : Nat) (h : n < 256) : (UInt8.ofNat n).toNat = n := UInt8.toNat_ofNat_of_lt' h
  rw [String.utf8EncodeChar.eq_def]
  generalize hv : c.val.toNat = v
  have hc : c.toNat = v := hv
  rw [hc] at hvalid
  dsimp only
  split
  · have hb := hbyte v (by omega)
    simp only [List.foldl_cons, List.foldl_nil, Scan.next, Scan.start, hb, ofByte_whole ‹_›]
    rw [hchar v hc.symm]
  split
  · have hfirst := hbyte (v / 64 % 32 + 192) (by omega)
    have hlast := hbyte (v % 64 + 128) (by omega)
    rw [List.foldl_cons, next_none (ofByte_two (by omega) (by omega)), List.foldl_cons,
      next_last (by omega) (by omega), List.foldl_nil, hchar _ (by omega)]
  split
  · have hfirst := hbyte (v / 4096 % 16 + 224) (by omega)
    have hsecond := hbyte (v / 64 % 64 + 128) (by omega)
    have hlast := hbyte (v % 64 + 128) (by omega)
    rw [List.foldl_cons, next_none (ofByte_three (by omega) (by omega)), List.foldl_cons,
      next_owed (by omega) (by split <;> omega) (by split <;> omega), List.foldl_cons,
      next_last (by omega) (by omega), List.foldl_nil, hchar _ (by omega)]
  · have hfirst := hbyte (v / 262144 % 8 + 240) (by omega)
    have hsecond := hbyte (v / 4096 % 64 + 128) (by omega)
    have hthird := hbyte (v / 64 % 64 + 128) (by omega)
    have hlast := hbyte (v % 64 + 128) (by omega)
    rw [List.foldl_cons, next_none (ofByte_four (by omega) (by omega)), List.foldl_cons,
      next_owed (by omega) (by split <;> omega) (by split <;> omega), List.foldl_cons,
      next_owed (by omega) (by omega) (by omega), List.foldl_cons,
      next_last (by omega) (by omega), List.foldl_nil, hchar _ (by omega)]

theorem foldl_next_encode (s : List Char) (read : List (Option Char)) :
    (encode s).foldl Scan.next ⟨none, read⟩ = ⟨none, (s.map some).reverse ++ read⟩ := by
  induction s generalizing read with
  | nil => rfl
  | cons c s ih =>
    rw [encode, List.flatMap_cons, List.foldl_append, foldl_next_char, ← encode, ih]
    simp

@[simp] theorem scan_encode (s : List Char) : scan (encode s) = s.map some := by
  simp [scan, foldl_next_encode]

/-- The bytes of a text encode that text. -/
@[simp] theorem decode?_encode (s : List Char) : decode? (encode s) = some s := by
  simp [decode?, List.filterMap_map]

end NativeBuild.Text
