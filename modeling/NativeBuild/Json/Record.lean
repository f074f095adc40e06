import NativeBuild.Json.Skip

/-!
Readers for records with known fields and for values that are one of several named cases.  A record
may be written with its names, in any order, or as the list of its fields in their order.
-/

namespace NativeBuild.Json

/-- A known field of a record that is gathered in a draft: whether the draft has it already, and how
its value is read into the draft. -/
structure RecordField (δ : Type) where
  name : String
  given : δ → Bool
  read : δ → Reader δ

/-- A record with known fields.  `finish` turns a draft into the record or names the first field
that is missing.  Unknown names are refused if the record is `closed`, and passed over if it is not.
-/
structure RecordForm (δ α : Type) where
  title : String
  fields : List (RecordField δ)
  empty : δ
  finish : δ → Except String α
  closed : Bool

namespace RecordForm

variable {δ α : Type} (form : RecordForm δ α)

/-- The names of the known fields. -/
def names : List String :=
  form.fields.map RecordField.name

/-- Read names and values into a draft up to the end of a record. -/
def namedWithin : Nat → Bool → δ → List Char → Except Fault (α × List Char)
  | 0, _, _, _ => .error .truncated
  | fuel + 1, first, draft, s => do
    match ← nextName first s with
    | .stop rest =>
      match form.finish draft with
      | .ok a => .ok (a, rest)
      | .error name => .error (.mismatch (.missingField name))
    | .part rest =>
      let (chars, rest) ← readChars rest
      let name := String.ofList chars
      match form.fields.find? (·.name == name) with
      | none =>
        if form.closed then .error (.mismatch (.unknownField name form.names))
        else
          let rest ← expectColon rest
          let rest ← skipValue rest
          namedWithin fuel false draft rest
      | some field =>
        if field.given draft then .error (.mismatch (.duplicateField name))
        else
          let rest ← expectColon rest
          let (draft, rest) ← field.read draft rest
          namedWithin fuel false draft rest

/-- How a message speaks of the record written as a list. -/
def expectedLength : String :=
  let count := form.fields.length
  form.title ++ " with " ++ String.ofList (Text.decimal count) ++
    (if count = 1 then " element" else " elements")

/-- The record of a draft when the list that it is written as has ended. -/
def finishListed (draft : δ) : Except Fault α :=
  match form.finish draft with
  | .ok a => .ok a
  | .error name =>
    .error (.mismatch (.length (form.names.findIdx (· == name)) form.expectedLength))

/-- Read the fields of a record written as a list, in their order. -/
def listed : List (RecordField δ) → Bool → δ → List Char → Except Fault (α × List Char)
  | [], _, draft, s => do
    let a ← form.finishListed draft
    match skipSpace s with
    | [] => .error .truncated
    | ']' :: rest => .ok (a, rest)
    | _ => .error .malformed
  | field :: fields, first, draft, s => do
    match ← nextItem first s with
    | .stop rest =>
      let a ← form.finishListed draft
      .ok (a, rest)
    | .part rest =>
      let (draft, rest) ← field.read draft rest
      listed fields false draft rest

/-- Read a record in either form. -/
def read : Reader α := fun s =>
  match skipSpace s with
  | '\x7b' :: rest => form.namedWithin (rest.length + 1) true form.empty rest
  | '[' :: rest => form.listed form.fields true form.empty rest
  | s => refuse form.title s

end RecordForm

/-- One of several named cases: what its bare name stands for, or what the name should come with,
and how the value beside the name is read. -/
structure Case (α : Type) where
  name : String
  alone : Except String α
  payload : Reader α

/-- Read the name of a case. -/
def readCase {α : Type} (cases : List (Case α)) : Reader (Case α) := fun s => do
  let (name, rest) ← Reader.text "variant identifier" s
  match cases.find? (·.name == name) with
  | some c => .ok (c, rest)
  | none => .error (.mismatch (.unknownVariant name (cases.map Case.name)))

/-- Read one of several named cases: a bare name, or a record of one name and its value. -/
def Reader.oneOf {α : Type} (cases : List (Case α)) : Reader α := fun s =>
  match skipSpace s with
  | [] => .error .truncated
  | '\x7b' :: rest => do
    let (c, rest) ← readCase cases rest
    let rest ← expectColon rest
    let (a, rest) ← c.payload rest
    match skipSpace rest with
    | [] => .error .truncated
    | '\x7d' :: rest => .ok (a, rest)
    | _ => .error .malformed
  | '"' :: rest => do
    let (c, rest) ← readCase cases ('"' :: rest)
    match c.alone with
    | .ok a => .ok (a, rest)
    | .error expected => .error (.mismatch (.kind .bareVariant expected))
  | _ => .error .malformed

end NativeBuild.Json
