import NativeBuild.Userland.Tool.Awk.Program
import NativeBuild.Userland.Tool.Awk.Value
import NativeBuild.Userland.Tool.Basic

/-!
What a program that goes through records knows while it runs: its variables and arrays, the record
it is at with its fields, and what it reads from and writes to.
-/

namespace NativeBuild.Tool.Awk

open Shell (Raw isSpace)
open Text (Regex Subject)

/-- What a name stands for: a value, the array of a number, or nothing yet; what becomes an array
later may have its number already. -/
inductive Slot where
  | value (v : Value)
  | array (id : Nat)
  | free (id : Option Nat)

/-- What a program reads from or writes to: a file, the input of a command that is run when it is
closed, or text that waits to be read. -/
inductive Stream where
  | output (c : Channel)
  | command (text : List Raw)
  | input (rest : Raw)

/-- A running program.  `locals` are the parameters of the function it is in, if it is in one;
`active` are the rules for ranges of records that are within one; `input` is what is left of the
file that is read, and `argument` the number of the next one. -/
structure Run where
  functions : List Function
  globals : List (Raw × Slot) := []
  locals : Option (List (Raw × Slot)) := none
  arrays : List (Nat × List (Raw × Value)) := []
  next : Nat := 0
  record : Raw := []
  fields : List Raw := []
  streams : List ((Bool × Raw) × Stream) := []
  active : List Nat := []
  input : Option Raw := none
  argument : Nat := 1
  hasRead : Bool := false
  status : Nat := 0
  seed : Nat := 1

/-- How a program leaves what it is doing: for the next record, the next file, or its end. -/
inductive Leave where
  | next
  | nextFile
  | exit

/-- What a running program does. -/
abbrev Step := ExceptT Leave (StateT Run Act)

/-- How control goes on behind a statement. -/
inductive After where
  | next
  | break
  | continue
  | return (v : Value)

namespace Run

/-- The text of a variable that is set from the start. -/
def setting (r : Run) (name : String) : Raw :=
  match r.globals.lookup name.toList with
  | some (.value v) => v.toText "%.6g".toList
  | _ => []

/-- The format of numbers that are put into texts. -/
def conversion (r : Run) : Raw :=
  r.setting "CONVFMT"

/-- What a name stands for. -/
def slot (r : Run) (name : Raw) : Slot :=
  match r.locals.bind fun ls => ls.lookup name with
  | some s => s
  | none => (r.globals.lookup name).getD (.free none)

/-- Put something under a name in a list of names. -/
def putIn (name : Raw) (s : Slot) (all : List (Raw × Slot)) : List (Raw × Slot) :=
  if all.any (·.1 = name) then all.map fun old => if old.1 = name then (name, s) else old
  else (name, s) :: all

/-- Make a name stand for something. -/
def putSlot (r : Run) (name : Raw) (s : Slot) : Run :=
  match r.locals with
  | some ls =>
    if ls.any (·.1 = name) then { r with locals := some (putIn name s ls) }
    else { r with globals := putIn name s r.globals }
  | none => { r with globals := putIn name s r.globals }

/-- Give a variable that is set from the start a value. -/
def putSetting (r : Run) (name : String) (v : Value) : Run :=
  { r with globals := putIn name.toList (.value v) r.globals }

/-- Make a number the number of an array, if there is none yet. -/
def withArray (r : Run) (id : Nat) : Run :=
  if r.arrays.any (·.1 = id) then r else { r with arrays := (id, []) :: r.arrays }

/-- The array that a name stands for; if it stands for none, there is one from now on. -/
def arrayOf (r : Run) (name : Raw) : Run × Nat :=
  match r.slot name with
  | .array id => (r, id)
  | .free (some id) => ((r.putSlot name (.array id)).withArray id, id)
  | _ =>
    let id := r.next
    (({ r with next := id + 1 }.putSlot name (.array id)).withArray id, id)

/-- The items of an array. -/
def items (r : Run) (id : Nat) : List (Raw × Value) :=
  (r.arrays.lookup id).getD []

/-- Replace the items of an array. -/
def putItems (r : Run) (id : Nat) (items : List (Raw × Value)) : Run :=
  { r with arrays := (id, items) :: r.arrays.filter (·.1 ≠ id) }

/-- Put an item into an array. -/
def putItem (r : Run) (id : Nat) (key : Raw) (v : Value) : Run :=
  let items := r.items id
  r.putItems id
    (if items.any (·.1 = key) then items.map fun old => if old.1 = key then (key, v) else old
     else (key, v) :: items)

/-- An array as the items of a list, counted from one. -/
def putList (r : Run) (id : Nat) (texts : List Raw) : Run :=
  r.putItems id (texts.zipIdx.map fun (t, k) => (Text.decimal (k + 1), .input t))

end Run

/-! ### Records and fields -/

/-- The pieces of a text between matches of a regular expression that are not empty. -/
def piecesBetween (r : Regex) (text : Raw) : List Raw :=
  let t : Subject := ⟨text.toArray, false⟩
  let cuts := (r.all t).filter fun m => m.start < m.stop
  let (start, pieces) := cuts.foldl
    (fun (start, pieces) m => (m.stop, t.slice start m.start :: pieces)) (0, [])
  (t.slice start text.length :: pieces).reverse

/-- The fields of a text by a separator. -/
def splitFields (separator text : Raw) : List Raw :=
  if text.isEmpty then []
  else
    match separator with
    | [' '] =>
      (Text.pieces ' ' (text.map fun c => if isSpace c then ' ' else c)).filter fun f => !f.isEmpty
    | [] => text.map fun c => [c]
    | [c] => Text.pieces c text
    | _ => piecesBetween (regexOf separator) text

/-- The fields of a record; between paragraphs, ends of lines separate fields too. -/
def Run.fieldsOf (r : Run) (text : Raw) : List Raw :=
  let separator := r.setting "FS"
  if (r.setting "RS").isEmpty && separator ≠ [' '] then
    (Text.pieces '\n' text).flatMap fun line =>
      if line.isEmpty then [[]] else splitFields separator line
  else splitFields separator text

/-- Take a record from the front of a text: the record, and what follows it. -/
def takeRecord (separator text : Raw) : Option (Raw × Raw) :=
  if text.isEmpty then none
  else
    match separator with
    | [] =>
      let text := text.dropWhile (· = '\n')
      if text.isEmpty then none
      else
        let t : Subject := ⟨text.toArray, false⟩
        match (regexOf "\n\n+".toList).search t 0 with
        | some m => some (t.slice 0 m.start, text.drop m.stop)
        | none => some (if text.getLast? = some '\n' then text.dropLast else text, [])
    | [c] =>
      let (record, rest) := Text.cut c text
      some (record, rest.getD [])
    | _ =>
      let t : Subject := ⟨text.toArray, false⟩
      match (regexOf separator).search t 0 with
      | some m =>
        if m.start < m.stop then some (t.slice 0 m.start, text.drop m.stop) else some (text, [])
      | none => some (if text.getLast? = some '\n' then text.dropLast else text, [])

namespace Run

/-- Make a text the record. -/
def putRecord (r : Run) (text : Raw) : Run :=
  let fields := r.fieldsOf text
  { r with record := text, fields }.putSetting "NF" (.number (Float.ofNat fields.length))

/-- The record put together from its fields. -/
def rebuilt (r : Run) (fields : List Raw) : Run :=
  { r with fields, record := (r.setting "OFS").intercalate fields }.putSetting "NF"
    (.number (Float.ofNat fields.length))

/-- The value of a field; the field zero is the record. -/
def field (r : Run) (n : Nat) : Value :=
  if n = 0 then .input r.record
  else
    match r.fields[n - 1]? with
    | some t => .input t
    | none => .unset

/-- Give a field a text. -/
def putField (r : Run) (n : Nat) (text : Raw) : Run :=
  if n = 0 then r.putRecord text
  else
    let fields := r.fields ++ List.replicate (n - r.fields.length) []
    r.rebuilt (fields.set (n - 1) text)

/-- Give a variable a value; the number of fields changes the record. -/
def putVar (r : Run) (name : Raw) (v : Value) : Run :=
  let isLocal := (r.locals.bind fun ls => ls.lookup name).isSome
  if name = "NF".toList && !isLocal then
    let n := (wholePart v.toNumber).toNat
    r.rebuilt ((r.fields ++ List.replicate (n - r.fields.length) []).take n)
  else r.putSlot name (.value v)

/-- Count a record. -/
def counted (r : Run) (withinFile : Bool) : Run :=
  let up (r : Run) (name : String) : Run :=
    match r.globals.lookup name.toList with
    | some (.value v) => r.putSetting name (.number (v.toNumber + 1))
    | _ => r.putSetting name (.number 1)
  let r := up r "NR"
  if withinFile then up r "FNR" else r

end Run

end NativeBuild.Tool.Awk
