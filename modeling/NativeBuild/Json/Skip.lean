import NativeBuild.Json.Reader

/-!
Passing over a JSON value of any shape.  Only its form is checked: numbers may be of any size, and
the halves of a surrogate pair may stand alone.
-/

namespace NativeBuild.Json

/-- What is left after an escape in a text that is passed over. -/
def skipEscape : List Char → Except Fault (List Char)
  | [] => .error .truncated
  | 'u' :: rest => do
    let (_, rest) ← readUnit rest
    .ok rest
  | c :: rest => if (shortEscape? c).isSome then .ok rest else .error .malformed

/-- What is left after the closing quote of a text. -/
def skipCharsWithin : Nat → List Char → Except Fault (List Char)
  | 0, _ => .error .truncated
  | _ + 1, [] => .error .truncated
  | fuel + 1, c :: rest =>
    if c = '"' then .ok rest
    else if c = '\\' then do
      let rest ← skipEscape rest
      skipCharsWithin fuel rest
    else if c.toNat < 32 then .error .malformed
    else skipCharsWithin fuel rest

/-- What is left after a text, from behind its opening quote. -/
def skipChars (s : List Char) : Except Fault (List Char) :=
  skipCharsWithin s.length s

/-- What is left after one or more digits. -/
def skipDigits : List Char → Except Fault (List Char)
  | c :: rest => if Text.isDigit c then .ok (rest.dropWhile Text.isDigit) else .error .malformed
  | [] => .error .malformed

/-- What is left after an exponent, if one stands here. -/
def skipExponent (s : List Char) : Except Fault (List Char) :=
  match s with
  | [] => .ok []
  | c :: rest =>
    if c = 'e' ∨ c = 'E' then
      match rest with
      | '+' :: rest => skipDigits rest
      | '-' :: rest => skipDigits rest
      | _ => skipDigits rest
    else .ok s

/-- What is left after a number without its sign. -/
def skipNumber (s : List Char) : Except Fault (List Char) := do
  let rest ← match s with
    | '0' :: rest =>
      if (rest.head?.map Text.isDigit).getD false then .error .malformed else .ok rest
    | _ => skipDigits s
  match rest with
  | '.' :: places => do
    let rest ← skipDigits places
    skipExponent rest
  | _ => skipExponent rest

/-- What is open around the place in the text: a list or a record. -/
inductive Frame where
  | list
  | record
  deriving DecidableEq

/-- What may come next: a value, or the rest of the innermost open frame, in which `more` says that
a part has been passed. -/
inductive Place where
  | value
  | inside (more : Bool)

/-- What is left after a value, or after the rest of the open frames, in at most `fuel` steps. -/
def skipWithin : Nat → List Frame → Place → List Char → Except Fault (List Char)
  | 0, _, _, _ => .error .truncated
  | fuel + 1, frames, .value, s =>
    let ended (rest : List Char) : Except Fault (List Char) :=
      if frames.isEmpty then .ok rest else skipWithin fuel frames (.inside true) rest
    match skipSpace s with
    | [] => .error .truncated
    | 'n' :: rest => expectWord ['u', 'l', 'l'] rest >>= ended
    | 't' :: rest => expectWord ['r', 'u', 'e'] rest >>= ended
    | 'f' :: rest => expectWord ['a', 'l', 's', 'e'] rest >>= ended
    | '"' :: rest => skipChars rest >>= ended
    | '-' :: rest => skipNumber rest >>= ended
    | '[' :: rest => skipWithin fuel (.list :: frames) (.inside false) rest
    | '\x7b' :: rest => skipWithin fuel (.record :: frames) (.inside false) rest
    | c :: rest => if Text.isDigit c then skipNumber (c :: rest) >>= ended else .error .malformed
  | _ + 1, [], .inside _, s => .ok s
  | fuel + 1, frame :: outer, .inside more, s =>
    let closed (rest : List Char) : Except Fault (List Char) :=
      if outer.isEmpty then .ok rest else skipWithin fuel outer (.inside true) rest
    let part (rest : List Char) : Except Fault (List Char) :=
      match frame with
      | .list => skipWithin fuel (frame :: outer) .value rest
      | .record =>
        match skipSpace rest with
        | [] => .error .truncated
        | '"' :: rest => do
          let rest ← skipChars rest
          let rest ← expectColon rest
          skipWithin fuel (frame :: outer) .value rest
        | _ => .error .malformed
    match skipSpace s with
    | [] => .error .truncated
    | c :: rest =>
      if c = ',' ∧ more then part rest
      else if c = ']' ∧ frame = .list then closed rest
      else if c = '\x7d' ∧ frame = .record then closed rest
      else if more then .error .malformed
      else part (c :: rest)

/-- What is left after one value. -/
def skipValue (s : List Char) : Except Fault (List Char) :=
  skipWithin (2 * s.length + 2) [] .value s

end NativeBuild.Json
