import NativeBuild.Digest.Sha256

/-!
Two older digests: of 128 and of 160 bits.  Messages are padded as for the newer one, but the older
of the two writes numbers with the lowest byte first.
-/

namespace NativeBuild.Digest

/-- Rotate a word to the left. -/
def rotateLeft (x : UInt32) (n : Nat) : UInt32 :=
  let n := n % 32
  if n = 0 then x else (x <<< UInt32.ofNat n) ||| (x >>> UInt32.ofNat (32 - n))

/-- A number as bytes, the lowest one first. -/
def lowFirst (count n : Nat) : List UInt8 :=
  (List.range count).map fun k => UInt8.ofNat (n / Nat.pow 256 k % 256)

/-- A message with a one behind it, zeros, and its length in bits in the last eight bytes of a
block. -/
def paddedWith (lengthBytes : List UInt8) (message : List UInt8) : List UInt8 :=
  let zeros := (119 - message.length % 64) % 64
  message ++ [0x80] ++ List.replicate zeros 0 ++ lengthBytes

/-- Blocks of a number of items. -/
def blocksOf {α : Type} (size : Nat) : Nat → List α → List (List α)
  | 0, _ => []
  | _, [] => []
  | fuel + 1, items => items.take size :: blocksOf size fuel (items.drop size)

/-- A word of four bytes, the lowest one first. -/
def lowWord (bytes : List UInt8) : UInt32 :=
  bytes.foldr (fun b w => (w <<< 8) ||| b.toUInt32) 0

/-- A word of four bytes, the highest one first. -/
def highWord (bytes : List UInt8) : UInt32 :=
  bytes.foldl (fun w b => (w <<< 8) ||| b.toUInt32) 0

namespace Md5

/-- How far words are rotated in each of the four rounds. -/
def turns : List (List Nat) :=
  [[7, 12, 17, 22], [5, 9, 14, 20], [4, 11, 16, 23], [6, 10, 15, 21]]

/-- The constants that are added: whole parts of sines, scaled to 32 bits. -/
def constants : Array UInt32 :=
  #[0xd76aa478, 0xe8c7b756, 0x242070db, 0xc1bdceee, 0xf57c0faf, 0x4787c62a, 0xa8304613, 0xfd469501,
    0x698098d8, 0x8b44f7af, 0xffff5bb1, 0x895cd7be, 0x6b901122, 0xfd987193, 0xa679438e, 0x49b40821,
    0xf61e2562, 0xc040b340, 0x265e5a51, 0xe9b6c7aa, 0xd62f105d, 0x02441453, 0xd8a1e681, 0xe7d3fbc8,
    0x21e1cde6, 0xc33707d6, 0xf4d50d87, 0x455a14ed, 0xa9e3e905, 0xfcefa3f8, 0x676f02d9, 0x8d2a4c8a,
    0xfffa3942, 0x8771f681, 0x6d9d6122, 0xfde5380c, 0xa4beea44, 0x4bdecfa9, 0xf6bb4b60, 0xbebfbc70,
    0x289b7ec6, 0xeaa127fa, 0xd4ef3085, 0x04881d05, 0xd9d4d039, 0xe6db99e5, 0x1fa27cf8, 0xc4ac5665,
    0xf4292244, 0x432aff97, 0xab9423a7, 0xfc93a039, 0x655b59c3, 0x8f0ccc92, 0xffeff47d, 0x85845dd1,
    0x6fa87e4f, 0xfe2ce6e0, 0xa3014314, 0x4e0811a1, 0xf7537e82, 0xbd3af235, 0x2ad7d2bb, 0xeb86d391]

/-- The four words that are carried from block to block. -/
structure State where
  a : UInt32 := 0x67452301
  b : UInt32 := 0xefcdab89
  c : UInt32 := 0x98badcfe
  d : UInt32 := 0x10325476

/-- One of the 64 steps on a block. -/
def step (block : Array UInt32) (s : State) (k : Nat) : State :=
  let (f, place) : UInt32 × Nat :=
    match k / 16 with
    | 0 => ((s.b &&& s.c) ||| (s.b ^^^ 0xffffffff) &&& s.d, k)
    | 1 => ((s.d &&& s.b) ||| (s.d ^^^ 0xffffffff) &&& s.c, (5 * k + 1) % 16)
    | 2 => (s.b ^^^ s.c ^^^ s.d, (3 * k + 5) % 16)
    | _ => (s.c ^^^ (s.b ||| (s.d ^^^ 0xffffffff)), 7 * k % 16)
  let turn := (((turns[k / 16]?).getD [])[k % 4]?).getD 0
  let sum := s.a + f + (constants[k]?).getD 0 + (block[place]?).getD 0
  ⟨s.d, s.b + rotateLeft sum turn, s.b, s.c⟩

/-- The digest of a message. -/
def digest (message : List UInt8) : List UInt8 :=
  let padded := paddedWith (lowFirst 8 (message.length * 8)) message
  let final := (blocksOf 64 padded.length padded).foldl
    (fun s block =>
      let words := ((blocksOf 4 16 block).map lowWord).toArray
      let t := (List.range 64).foldl (step words) s
      ⟨s.a + t.a, s.b + t.b, s.c + t.c, s.d + t.d⟩) ({} : State)
  [final.a, final.b, final.c, final.d].flatMap fun w => lowFirst 4 w.toNat

end Md5

namespace Sha1

/-- The five words that are carried from block to block. -/
structure State where
  a : UInt32 := 0x67452301
  b : UInt32 := 0xefcdab89
  c : UInt32 := 0x98badcfe
  d : UInt32 := 0x10325476
  e : UInt32 := 0xc3d2e1f0

/-- The eighty words that a block of sixteen is drawn out to, in at most `fuel` steps. -/
def schedule : Nat → Array UInt32 → Array UInt32
  | 0, words => words
  | fuel + 1, words =>
    let n := words.size
    let back (k : Nat) : UInt32 := (words[n - k]?).getD 0
    schedule fuel (words.push (rotateLeft (back 3 ^^^ back 8 ^^^ back 14 ^^^ back 16) 1))

/-- One of the eighty steps on a block. -/
def step (words : Array UInt32) (s : State) (k : Nat) : State :=
  let (f, constant) : UInt32 × UInt32 :=
    match k / 20 with
    | 0 => ((s.b &&& s.c) ||| (s.b ^^^ 0xffffffff) &&& s.d, 0x5a827999)
    | 1 => (s.b ^^^ s.c ^^^ s.d, 0x6ed9eba1)
    | 2 => ((s.b &&& s.c) ||| (s.b &&& s.d) ||| (s.c &&& s.d), 0x8f1bbcdc)
    | _ => (s.b ^^^ s.c ^^^ s.d, 0xca62c1d6)
  let sum := rotateLeft s.a 5 + f + s.e + constant + (words[k]?).getD 0
  ⟨sum, s.a, rotateLeft s.b 30, s.c, s.d⟩

/-- The digest of a message. -/
def digest (message : List UInt8) : List UInt8 :=
  let padded := paddedWith (lowFirst 8 (message.length * 8)).reverse message
  let final := (blocksOf 64 padded.length padded).foldl
    (fun s block =>
      let words := schedule 64 ((blocksOf 4 16 block).map highWord).toArray
      let t := (List.range 80).foldl (step words) s
      ⟨s.a + t.a, s.b + t.b, s.c + t.c, s.d + t.d, s.e + t.e⟩) ({} : State)
  [final.a, final.b, final.c, final.d, final.e].flatMap fun w => (lowFirst 4 w.toNat).reverse

end Sha1

end NativeBuild.Digest
