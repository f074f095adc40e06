import NativeBuild.Text.Decimal

/-!
JSON values and their two written forms: the compact one, without any blank, and the indented one.
-/

namespace NativeBuild

/-- A JSON value; the fields of a record keep their order. -/
inductive Json where
  | null
  | number (n : Nat)
  | text (s : String)
  | list (items : List Json)
  | record (fields : List (String × Json))

namespace Json

/-- One character of a text: quotes, backslashes and control characters are escaped, and every other
character stands for itself. -/
def escape (c : Char) : List Char :=
  if c = '"' then ['\\', '"']
  else if c = '\\' then ['\\', '\\']
  else if c = '\n' then ['\\', 'n']
  else if c = '\r' then ['\\', 'r']
  else if c = '\t' then ['\\', 't']
  else if c.toNat = 8 then ['\\', 'b']
  else if c.toNat = 12 then ['\\', 'f']
  else if c.toNat < 32 then
    ['\\', 'u', '0', '0', Text.hexDigit (c.toNat / 16), Text.hexDigit (c.toNat % 16)]
  else [c]

/-- A text between its quotes. -/
def writeText (s : String) : List Char :=
  '"' :: s.toList.flatMap escape ++ ['"']

mutual

/-- A value without blanks. -/
def compact : Json → List Char
  | .null => ['n', 'u', 'l', 'l']
  | .number n => Text.decimal n
  | .text s => writeText s
  | .list items => '[' :: compactItems items ++ [']']
  | .record fields => '\x7b' :: compactFields fields ++ ['\x7d']

/-- Values between commas. -/
def compactItems : List Json → List Char
  | [] => []
  | [v] => compact v
  | v :: rest => compact v ++ ',' :: compactItems rest

/-- Fields between commas. -/
def compactFields : List (String × Json) → List Char
  | [] => []
  | [(name, v)] => writeText name ++ ':' :: compact v
  | (name, v) :: rest => writeText name ++ ':' :: compact v ++ ',' :: compactFields rest

end

/-- The start of a line at a depth: two blanks for each level. -/
def newline (depth : Nat) : List Char :=
  '\n' :: List.replicate (2 * depth) ' '

mutual

/-- A value with each item and field on a line of its own; what is empty stays on one line. -/
def indented (depth : Nat) : Json → List Char
  | .null => ['n', 'u', 'l', 'l']
  | .number n => Text.decimal n
  | .text s => writeText s
  | .list [] => ['[', ']']
  | .list items => '[' :: indentedItems (depth + 1) items ++ newline depth ++ [']']
  | .record [] => ['\x7b', '\x7d']
  | .record fields => '\x7b' :: indentedFields (depth + 1) fields ++ newline depth ++ ['\x7d']

/-- Values on lines of their own. -/
def indentedItems (depth : Nat) : List Json → List Char
  | [] => []
  | [v] => newline depth ++ indented depth v
  | v :: rest => newline depth ++ indented depth v ++ ',' :: indentedItems depth rest

/-- Fields on lines of their own. -/
def indentedFields (depth : Nat) : List (String × Json) → List Char
  | [] => []
  | [(name, v)] => newline depth ++ writeText name ++ ':' :: ' ' :: indented depth v
  | (name, v) :: rest =>
    newline depth ++ writeText name ++ ':' :: ' ' :: indented depth v ++
      ',' :: indentedFields depth rest

end

/-- A list of texts. -/
def texts (items : List String) : Json :=
  .list (items.map .text)

/-- A text, or null for none. -/
def optional (item : Option String) : Json :=
  match item with
  | none => .null
  | some s => .text s

end Json

end NativeBuild
