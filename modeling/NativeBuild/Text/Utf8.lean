/-!
UTF-8: writing characters as bytes, and reading bytes one at a time.  Reading yields a character or
a fault for each maximal run of bytes that starts as a character does and goes on as one for as long
as it can, so every byte belongs to one of the two.
-/

namespace NativeBuild.Text

/-- The UTF-8 bytes of a text. -/
def encode (text : List Char) : List UInt8 :=
  text.flatMap String.utf8EncodeChar

/-- A character begun: the value read so far, how many bytes are owed, and the range in which the
next of them must lie. -/
structure Begun where
  value : Nat
  owed : Nat
  low : Nat
  high : Nat

/-- What a byte that stands at the start of a character says: a character of one byte, the first of
several, or nothing that may stand there. -/
inductive Lead where
  | whole (c : Char)
  | first (begun : Begun)
  | stray

/-- Read a byte that stands at the start of a character. -/
def Lead.ofByte (b : Nat) : Lead :=
  if b < 0x80 then .whole (Char.ofNat b)
  else if b < 0xc2 then .stray
  else if b < 0xe0 then .first ⟨b - 0xc0, 1, 0x80, 0xbf⟩
  else if b = 0xe0 then .first ⟨0, 2, 0xa0, 0xbf⟩
  else if b = 0xed then .first ⟨0xd, 2, 0x80, 0x9f⟩
  else if b < 0xf0 then .first ⟨b - 0xe0, 2, 0x80, 0xbf⟩
  else if b = 0xf0 then .first ⟨0, 3, 0x90, 0xbf⟩
  else if b < 0xf4 then .first ⟨b - 0xf0, 3, 0x80, 0xbf⟩
  else if b = 0xf4 then .first ⟨4, 3, 0x80, 0x8f⟩
  else .stray

/-- A reader of bytes between two of them: the character begun, if any, and what has been read,
last first, with `none` for a fault. -/
structure Scan where
  begun : Option Begun
  read : List (Option Char)

/-- Take a byte where a character starts. -/
def Scan.start (read : List (Option Char)) (b : UInt8) : Scan :=
  match Lead.ofByte b.toNat with
  | .whole c => ⟨none, some c :: read⟩
  | .first begun => ⟨some begun, read⟩
  | .stray => ⟨none, none :: read⟩

/-- Take one byte. -/
def Scan.next (scan : Scan) (b : UInt8) : Scan :=
  match scan.begun with
  | none => Scan.start scan.read b
  | some begun =>
    if begun.low ≤ b.toNat ∧ b.toNat ≤ begun.high then
      let value := begun.value * 64 + b.toNat % 64
      if begun.owed ≤ 1 then ⟨none, some (Char.ofNat value) :: scan.read⟩
      else ⟨some ⟨value, begun.owed - 1, 0x80, 0xbf⟩, scan.read⟩
    else Scan.start (none :: scan.read) b

/-- Characters and faults in the order of the bytes. -/
def scan (bytes : List UInt8) : List (Option Char) :=
  let last := bytes.foldl Scan.next ⟨none, []⟩
  match last.begun with
  | none => last.read.reverse
  | some _ => (none :: last.read).reverse

/-- The text that the bytes encode, if they encode one. -/
def decode? (bytes : List UInt8) : Option (List Char) :=
  let read := scan bytes
  if read.all Option.isSome then some (read.filterMap id) else none

/-- The text of the bytes with the replacement character in place of each fault. -/
def decodeLossy (bytes : List UInt8) : List Char :=
  (scan bytes).map (Option.getD · (Char.ofNat 0xfffd))

end NativeBuild.Text
