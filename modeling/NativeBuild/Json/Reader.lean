import NativeBuild.Json.Number

/-!
Reading JSON from the left.  A reader takes what it needs from the front of the text and answers
with the value and the rest; the first fault in the order of the text is the one that is reported.
-/

namespace NativeBuild.Json

/-- What a reader makes of a text: a value and the rest of the text, or the first fault. -/
abbrev Reader (α : Type) := List Char → Except Fault (α × List Char)

/-- The four characters that may stand between the parts of a JSON text. -/
def isSpace (c : Char) : Bool :=
  c = ' ' || c = '\n' || c = '\t' || c = '\r'

/-- The text from its first character that is no space. -/
def skipSpace (s : List Char) : List Char :=
  s.dropWhile isSpace

/-- What is left of a text after a word that it must start with. -/
def expectWord : List Char → List Char → Except Fault (List Char)
  | [], s => .ok s
  | _ :: _, [] => .error .truncated
  | c :: word, d :: s => if c = d then expectWord word s else .error .malformed

/-- Read four hexadecimal digits.  Fewer than four bytes are a text cut off, whatever they are. -/
def readUnit (s : List Char) : Except Fault (Nat × List Char) :=
  let short := (s.take 4).foldl (fun n c => n + c.utf8Size) 0 < 4
  match s with
  | a :: b :: c :: d :: rest =>
    match Text.hexValue? a, Text.hexValue? b, Text.hexValue? c, Text.hexValue? d with
    | some a, some b, some c, some d => .ok (((a * 16 + b) * 16 + c) * 16 + d, rest)
    | _, _, _, _ => .error .malformed
  | _ => .error (if short then .truncated else .malformed)

/-- Whether a 16-bit unit is the first half of a pair, or the second. -/
def isHighUnit (n : Nat) : Bool :=
  0xd800 ≤ n && n ≤ 0xdbff

@[inherit_doc isHighUnit] def isLowUnit (n : Nat) : Bool :=
  0xdc00 ≤ n && n ≤ 0xdfff

/-- Read the character of a numeric escape after its letter; halves of pairs must come in pairs. -/
def readCodePoint (s : List Char) : Except Fault (Char × List Char) := do
  let (high, s) ← readUnit s
  if isLowUnit high then .error .malformed
  else if isHighUnit high then
    match s with
    | [] => .error .truncated
    | '\\' :: [] => .error .truncated
    | '\\' :: 'u' :: rest =>
      let (low, rest) ← readUnit rest
      if isLowUnit low then
        .ok (Char.ofNat (0x10000 + (high - 0xd800) * 0x400 + (low - 0xdc00)), rest)
      else .error .malformed
    | _ => .error .malformed
  else .ok (Char.ofNat high, s)

/-- The character that a letter stands for after a backslash. -/
def shortEscape? (c : Char) : Option Char :=
  match c with
  | '"' => some '"'
  | '\\' => some '\\'
  | '/' => some '/'
  | 'b' => some (Char.ofNat 8)
  | 'f' => some (Char.ofNat 12)
  | 'n' => some '\n'
  | 'r' => some '\r'
  | 't' => some '\t'
  | _ => none

/-- Read one character of a text after a backslash. -/
def readEscape : List Char → Except Fault (Char × List Char)
  | [] => .error .truncated
  | 'u' :: rest => readCodePoint rest
  | c :: rest =>
    match shortEscape? c with
    | some d => .ok (d, rest)
    | none => .error .malformed

/-- Read the characters of a text up to its closing quote, in at most `fuel` characters. -/
def readCharsWithin : Nat → List Char → Except Fault (List Char × List Char)
  | 0, _ => .error .truncated
  | _ + 1, [] => .error .truncated
  | fuel + 1, c :: rest =>
    if c = '"' then .ok ([], rest)
    else if c = '\\' then do
      let (d, rest) ← readEscape rest
      let (more, rest) ← readCharsWithin fuel rest
      .ok (d :: more, rest)
    else if c.toNat < 32 then .error .malformed
    else do
      let (more, rest) ← readCharsWithin fuel rest
      .ok (c :: more, rest)

/-- Read the characters of a text after its opening quote. -/
def readChars (s : List Char) : Except Fault (List Char × List Char) :=
  readCharsWithin s.length s

/-- The fault of a text that holds something else where a value of a certain kind is expected: the
value that stands there is read as far as naming it takes. -/
def refuse {α : Type} (expected : String) (s : List Char) : Except Fault α :=
  let wrong (found : Found) : Except Fault α := .error (.mismatch (.kind found expected))
  match s with
  | [] => .error .truncated
  | 'n' :: rest => do
    let _ ← expectWord ['u', 'l', 'l'] rest
    wrong .null
  | 't' :: rest => do
    let _ ← expectWord ['r', 'u', 'e'] rest
    wrong (.boolean true)
  | 'f' :: rest => do
    let _ ← expectWord ['a', 'l', 's', 'e'] rest
    wrong (.boolean false)
  | '"' :: rest => do
    let (found, _) ← readChars rest
    wrong (.text found)
  | '[' :: _ => wrong .sequence
  | '\x7b' :: _ => wrong .record
  | c :: _ =>
    if c = '-' || Text.isDigit c then do
      let (found, _) ← readNumber s
      wrong found
    else .error .malformed

namespace Reader

/-- Read a text; `expected` names it in messages. -/
def text (expected : String) : Reader String := fun s =>
  match skipSpace s with
  | '"' :: rest => do
    let (chars, rest) ← readChars rest
    .ok (String.ofList chars, rest)
  | s => refuse expected s

/-- Read null. -/
def unit : Reader Unit := fun s =>
  match skipSpace s with
  | 'n' :: rest => do
    let rest ← expectWord ['u', 'l', 'l'] rest
    .ok ((), rest)
  | s => refuse "unit" s

/-- Read null as none, and anything else as `read` does. -/
def optional {α : Type} (read : Reader α) : Reader (Option α) := fun s =>
  match skipSpace s with
  | [] => .error .truncated
  | 'n' :: rest => do
    let rest ← expectWord ['u', 'l', 'l'] rest
    .ok (none, rest)
  | s => do
    let (a, rest) ← read s
    .ok (some a, rest)

/-- A reader that changes what another one reads. -/
def map {α β : Type} (f : α → β) (read : Reader α) : Reader β := fun s => do
  let (a, rest) ← read s
  .ok (f a, rest)

end Reader

/-- What may stand where the next part of a list or a record is looked for. -/
inductive Turn where
  | stop (rest : List Char)
  | part (rest : List Char)

/-- Look for the next item of a list, or for its end; a comma comes before every item but the first.
-/
def nextItem (first : Bool) (s : List Char) : Except Fault Turn :=
  match skipSpace s with
  | [] => .error .truncated
  | ']' :: rest => .ok (.stop rest)
  | c :: rest =>
    if first then .ok (.part (c :: rest))
    else if c = ',' then
      match skipSpace rest with
      | [] => .error .truncated
      | ']' :: _ => .error .malformed
      | rest => .ok (.part rest)
    else .error .malformed

/-- Look for the next name of a record, past its opening quote, or for the end. -/
def nextName (first : Bool) (s : List Char) : Except Fault Turn :=
  match skipSpace s with
  | [] => .error .truncated
  | '\x7d' :: rest => .ok (.stop rest)
  | c :: rest =>
    if first then if c = '"' then .ok (.part rest) else .error .malformed
    else if c = ',' then
      match skipSpace rest with
      | [] => .error .truncated
      | '"' :: rest => .ok (.part rest)
      | _ => .error .malformed
    else .error .malformed

/-- What follows the colon after a name. -/
def expectColon (s : List Char) : Except Fault (List Char) :=
  match skipSpace s with
  | [] => .error .truncated
  | ':' :: rest => .ok rest
  | _ => .error .malformed

/-- Read items up to the end of a list, at most `fuel` of them. -/
def readItemsWithin {α : Type} (read : Reader α) :
    Nat → Bool → List Char → Except Fault (List α × List Char)
  | 0, _, _ => .error .truncated
  | fuel + 1, first, s => do
    match ← nextItem first s with
    | .stop rest => .ok ([], rest)
    | .part rest =>
      let (a, rest) ← read rest
      let (more, rest) ← readItemsWithin read fuel false rest
      .ok (a :: more, rest)

/-- Read names and their values up to the end of a record, at most `fuel` of them. -/
def readEntriesWithin {α : Type} (read : Reader α) :
    Nat → Bool → List Char → Except Fault (List (String × α) × List Char)
  | 0, _, _ => .error .truncated
  | fuel + 1, first, s => do
    match ← nextName first s with
    | .stop rest => .ok ([], rest)
    | .part rest =>
      let (name, rest) ← readChars rest
      let rest ← expectColon rest
      let (a, rest) ← read rest
      let (more, rest) ← readEntriesWithin read fuel false rest
      .ok ((String.ofList name, a) :: more, rest)

namespace Reader

/-- Read a list. -/
def list {α : Type} (read : Reader α) : Reader (List α) := fun s =>
  match skipSpace s with
  | '[' :: rest => readItemsWithin read (rest.length + 1) true rest
  | s => refuse "a sequence" s

/-- Read a record with any names, in the order of the text. -/
def entries {α : Type} (read : Reader α) : Reader (List (String × α)) := fun s =>
  match skipSpace s with
  | '\x7b' :: rest => readEntriesWithin read (rest.length + 1) true rest
  | s => refuse "a map" s

/-- Read a whole text: one value, and nothing but space after it. -/
def whole {α : Type} (read : Reader α) (s : List Char) : Except Fault α := do
  let (a, rest) ← read s
  if (skipSpace rest).isEmpty then .ok a else .error .malformed

end Reader

end NativeBuild.Json
