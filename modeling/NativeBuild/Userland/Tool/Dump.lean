import NativeBuild.Userland.Digest
import NativeBuild.Userland.Tool.Show

/-!
Tools that show bytes as numbers, letters that all can carry, and sums over them.
-/

namespace NativeBuild.Tool

open Shell

/-- How bytes are shown: as characters, as named characters, or as numbers of a size in a base,
which may have a sign. -/
inductive DumpForm where
  | chars
  | named
  | number (signed : Bool) (base size : Nat)

/-- A form in which bytes are shown, with the bytes as text behind them or without. -/
structure DumpType where
  form : DumpForm
  asText : Bool := false

namespace DumpType

/-- Read types written one behind the other, in at most `fuel` steps. -/
def readAll : Nat → Raw → Option (List DumpType)
  | 0, _ => none
  | _, [] => some []
  | fuel + 1, c :: rest =>
    let sized (usual : Nat) : Nat × Raw :=
      match rest with
      | 'C' :: rest => (1, rest)
      | 'S' :: rest => (2, rest)
      | 'I' :: rest => (4, rest)
      | 'L' :: rest => (8, rest)
      | _ =>
        let digits := rest.takeWhile Text.isDigit
        (if digits.isEmpty then usual else Text.decimalValue digits, rest.drop digits.length)
    let typed (form : DumpForm) (rest : Raw) : Option (List DumpType) :=
      let asText := rest.head? = some 'z'
      (readAll fuel (if asText then rest.drop 1 else rest)).map (⟨form, asText⟩ :: ·)
    let number (signed : Bool) (base : Nat) : Option (List DumpType) :=
      let (size, rest) := sized 4
      if [1, 2, 4, 8].contains size then typed (.number signed base size) rest else none
    match c with
    | 'c' => typed .chars rest
    | 'a' => typed .named rest
    | 'd' => number true 10
    | 'u' => number false 10
    | 'o' => number false 8
    | 'x' => number false 16
    | _ => none

/-- The number of bytes of one item. -/
def size (t : DumpType) : Nat :=
  match t.form with
  | .number _ _ size => size
  | _ => 1

/-- The number of characters that an item takes, the blank in front of it aside. -/
def width (t : DumpType) : Nat :=
  match t.form with
  | .number signed base size =>
    let digits := (Text.digits base (Nat.pow 256 size - 1)).length
    if signed then (Text.decimal (Nat.pow 256 size / 2)).length + 1 else digits
  | _ => 3

/-- A byte as a character. -/
def charText (c : Char) : Raw :=
  match c with
  | '\n' => ['\\', 'n']
  | '\t' => ['\\', 't']
  | '\r' => ['\\', 'r']
  | _ =>
    if c.toNat = 0 then ['\\', '0']
    else if c.toNat = 7 then ['\\', 'a']
    else if c.toNat = 8 then ['\\', 'b']
    else if c.toNat = 11 then ['\\', 'v']
    else if c.toNat = 12 then ['\\', 'f']
    else if 32 ≤ c.toNat && c.toNat < 127 then [c]
    else
      let digits := Text.digits 8 c.toNat
      List.replicate (3 - digits.length) '0' ++ digits

/-- The names of the characters that cannot be seen. -/
def controlNames : List String :=
  ["nul", "soh", "stx", "etx", "eot", "enq", "ack", "bel", "bs", "ht", "nl", "vt", "ff", "cr", "so",
    "si", "dle", "dc1", "dc2", "dc3", "dc4", "nak", "syn", "etb", "can", "em", "sub", "esc", "fs",
    "gs", "rs", "us", "sp"]

/-- One item. -/
def item (t : DumpType) (bytes : Raw) : Raw :=
  match t.form with
  | .chars => charText (bytes.headD ' ')
  | .named =>
    let n := (bytes.headD ' ').toNat % 128
    match controlNames[n]? with
    | some name => rawString name
    | none => if n = 127 then rawString "del" else [Char.ofNat n]
  | .number signed base size =>
    let n := bytes.foldr (fun c n => n * 256 + c.toNat) 0
    if signed then
      let top := Nat.pow 256 size
      Text.signedDecimal (if n < top / 2 then (n : Int) else (n : Int) - top)
    else
      let digits := Text.digits base n
      if base = 10 then digits
      else
        let full := (Text.digits base (Nat.pow 256 size - 1)).length
        List.replicate (full - digits.length) '0' ++ digits

end DumpType

/-- Parts of a number of items each. -/
def chunked {α : Type} (size : Nat) (items : List α) : List (List α) :=
  Digest.blocksOf (max size 1) items.length items

/-- A line of a dump. -/
def dumpLine (types : List DumpType) (width : Nat) (t : DumpType) (bytes : Raw) : Raw :=
  let perByte (t : DumpType) : Nat := (t.width + 1) * (8 / t.size)
  let widest := types.foldl (fun n t => max n (perByte t)) 0
  let cell := widest / (8 / t.size)
  let items := chunked t.size bytes
  let missing := List.replicate ((width / t.size - items.length) * cell) ' '
  let shown (c : Char) : Char := if 32 ≤ c.toNat && c.toNat < 127 then c else '.'
  (items.flatMap fun item => padLeft cell (t.item item)) ++
    if t.asText then missing ++ rawString "  >" ++ bytes.map shown ++ ['<'] else []

/-- Show bytes as numbers or characters. -/
def od (c : Call) : Act Nat :=
  let known : OptionSet :=
    { letters := "A:abcdDefFhHiIj:lLN:oOsS:t:vw::xX"
      long := [("address-radix", 'A'), ("skip-bytes", 'j'), ("read-bytes", 'N'), ("format", 't'),
        ("output-duplicates", 'v'), ("width", 'w')] }
  c.withOptions known 1 fun g => do
    let short : List (Char × String) :=
      [('a', "a"), ('b', "o1"), ('c', "c"), ('d', "u2"), ('D', "u4"), ('h', "x2"), ('i', "d4"),
        ('I', "d8"), ('l', "d8"), ('L', "d8"), ('o', "o2"), ('O', "o4"), ('s', "d2"), ('x', "x2"),
        ('H', "x4"), ('X', "x4")]
    let written := g.options.flatMap fun o =>
      if o.1 = 't' then o.2 else rawString ((short.lookup o.1).getD "")
    let types :=
      DumpType.readAll (written.length + 2) (if written.isEmpty then ['o', '2'] else written)
    match types with
    | none => c.refuse "invalid type string" 1
    | some types =>
      let (text, status) ← contents c g.operands 1
      let skip := ((g.value? 'j').bind sized?).getD 0
      let text := text.drop skip
      let text := match (g.value? 'N').bind sized? with
        | some n => text.take n
        | none => text
      let width := if g.has 'w' then
          let n := ((g.value? 'w').map number).getD 0
          if n = 0 then 32 else n
        else 16
      let base := (((g.value? 'A').bind List.head?).map fun r =>
        if r = 'd' then 10 else if r = 'x' then 16 else if r = 'n' then 0 else 8).getD 8
      let address (n : Nat) : Raw :=
        if base = 0 then []
        else
          let digits := Text.digits base n
          List.replicate ((if base = 16 then 6 else 7) - digits.length) '0' ++ digits
      let mut place := skip
      let mut before : Raw := []
      let mut starred := false
      let pieces := chunked width text
      let mut left := pieces.length
      for bytes in pieces do
        left := left - 1
        if !g.has 'v' && bytes = before && left ≠ 0 then
          if !starred then outLine ['*']
          starred := true
        else
          starred := false
          let mut isFirst := true
          for t in types do
            let lead := address place
            outLine ((if isFirst then lead else List.replicate lead.length ' ') ++
              dumpLine types width t bytes)
            isFirst := false
        before := bytes
        place := place + bytes.length
      if base ≠ 0 then outLine (address place)
      return status

/-! ### Letters that all can carry -/

/-- The letters of the encoding in base 64. -/
def base64Letters : Array Char :=
  "ABCDEFGHIJKLMNOPQRSTUVWXYZabcdefghijklmnopqrstuvwxyz0123456789+/".toList.toArray

/-- Three bytes at most as four letters. -/
def encodeGroup (bytes : Raw) : Raw :=
  let n := (bytes ++ List.replicate (3 - bytes.length) (Char.ofNat 0)).foldl
    (fun n c => n * 256 + c.toNat) 0
  let letter (k : Nat) : Char := (base64Letters[n / Nat.pow 64 (3 - k) % 64]?).getD '='
  let used := bytes.length + 1
  ((List.range used).map letter) ++ List.replicate (4 - used) '='

/-- Letters as the bytes they stand for; `none` if there is something else among them. -/
def decodeLetters (text : Raw) : Option Raw := do
  let values ← (text.filter (· ≠ '=')).mapM fun c => base64Letters.toList.findIdx? (· = c)
  let groups := chunked 4 values
  let bytes := groups.map fun group =>
    let n := (group ++ List.replicate (4 - group.length) 0).foldl (fun n v => n * 64 + v) 0
    ((List.range 3).map fun k => Char.ofNat (n / Nat.pow 256 (2 - k) % 256)).take (group.length - 1)
  some bytes.flatten

/-- Encode bytes in letters, or decode them. -/
def base64 (c : Call) : Act Nat :=
  c.withOptions { letters := "diw:",
                  long := [("decode", 'd'), ("wrap", 'w'), ("ignore-garbage", 'i')] }
    1 fun g => do
    let (text, status) ← contents c g.operands 1
    if g.has 'd' then
      match decodeLetters (text.filter (· ≠ '\n')) with
      | some bytes =>
        out bytes
        return status
      | none => c.refuse "invalid input" 1
    else
      let letters := (chunked 3 text).flatMap encodeGroup
      let width := ((g.value? 'w').map number).getD 76
      if width = 0 then out letters
      else for line in chunked width letters do outLine line
      return status

/-! ### Sums -/

/-- Bytes in hexadecimal digits. -/
def hexText (bytes : List UInt8) : Raw :=
  bytes.flatMap fun b => [Text.hexDigit (b.toNat / 16), Text.hexDigit (b.toNat % 16)]

/-- Print or check the digests of files. -/
def digestTool (digest : List UInt8 → Raw) (c : Call) : Act Nat :=
  let known : OptionSet :=
    { letters := "bctwzQS", long := [("binary", 'b'), ("check", 'c'), ("text", 't'), ("warn", 'w'),
        ("quiet", 'Q'), ("status", 'S')] }
  c.withOptions known 1 fun g => do
    let names := if g.operands.isEmpty then [['-']] else g.operands
    let mut status := 0
    for name in names do
      match ← content name with
      | .error e =>
        c.complain (fileFault name e)
        status := 1
      | .ok text =>
        if g.has 'c' then
          for l in lines text do
            let sum := l.takeWhile (· ≠ ' ')
            let file := l.drop (sum.length + 2)
            let good := match ← content file with
              | .ok text => digest (bytesOf text) = sum
              | .error _ => false
            if !good then status := 1
            if !(g.has 'S' || (g.has 'Q' && good)) then
              outLine (file ++ rawString (if good then ": OK" else ": FAILED"))
        else outLine (digest (bytesOf text) ++ [' ', ' '] ++ name)
    return status

/-- The remainder of a polynomial over bits, with one more byte. -/
def checkByte (sum : UInt32) (byte : UInt8) : UInt32 :=
  let start := sum ^^^ (byte.toUInt32 <<< 24)
  (List.range 8).foldl
    (fun s _ => if s &&& 0x80000000 ≠ 0 then (s <<< 1) ^^^ 0x04c11db7 else s <<< 1) start

/-- The bytes of a number, the lowest one first, without zeros at the end. -/
def lowBytes : Nat → Nat → List UInt8
  | 0, _ => []
  | fuel + 1, n => if n = 0 then [] else UInt8.ofNat (n % 256) :: lowBytes fuel (n / 256)

/-- Print short check sums and numbers of blocks of files. -/
def sum (c : Call) : Act Nat :=
  c.withOptions { letters := "rs" } 1 fun g => do
    let mut status := 0
    for name in (if g.operands.isEmpty then [['-']] else g.operands) do
      match ← content name with
      | .error e =>
        c.complain (fileFault name e)
        status := 1
      | .ok text =>
        let turned := text.foldl
          (fun n c => (n / 2 + n % 2 * 32768 + c.toNat) % 65536) 0
        let total := text.foldl (fun n c => n + c.toNat) 0
        let folded := total % 65536 + total % 4294967296 / 65536
        let digits := Text.decimal turned
        let shown := if g.has 's' then
            Text.decimal (folded % 65536 + folded / 65536) ++ ' ' ::
              Text.decimal ((text.length + 511) / 512)
          else
            List.replicate (5 - digits.length) '0' ++ digits ++ ' ' ::
              padLeft 5 (Text.decimal ((text.length + 1023) / 1024))
        outLine (if g.operands.isEmpty then shown else shown ++ ' ' :: name)
    return status

/-- Print check sums and sizes of files. -/
def cksum (c : Call) : Act Nat :=
  c.withOptions { letters := "" } 1 fun g => do
    let mut status := 0
    for name in (if g.operands.isEmpty then [['-']] else g.operands) do
      match ← content name with
      | .error e =>
        c.complain (fileFault name e)
        status := 1
      | .ok text =>
        let bytes := bytesOf text ++ lowBytes 8 text.length
        let sum := (bytes.foldl checkByte 0) ^^^ 0xffffffff
        let shown := Text.decimal sum.toNat ++ ' ' :: Text.decimal text.length
        outLine (if g.operands.isEmpty then shown else shown ++ ' ' :: name)
    return status

end NativeBuild.Tool
