import NativeBuild.Number.Shortest
import NativeBuild.Text.Quoted

/-!
Why a JSON text cannot be read as the value that was asked for.
-/

namespace NativeBuild.Json

/-- What stands in the text where something else was expected. -/
inductive Found where
  | null
  | boolean (b : Bool)
  | integer (n : Int)
  | floating (x : Number.Binary)
  | text (s : List Char)
  | sequence
  | record
  | bareVariant
  deriving DecidableEq

/-- A value that is well formed but not of the expected shape. -/
inductive Mismatch where
  | kind (found : Found) (expected : String)
  | length (count : Nat) (expected : String)
  | missingField (name : String)
  | duplicateField (name : String)
  | unknownField (name : String) (known : List String)
  | unknownVariant (name : String) (known : List String)
  deriving DecidableEq

/-- The first fault of a text: no JSON, cut off too early, or of another shape. -/
inductive Fault where
  | malformed
  | truncated
  | mismatch (m : Mismatch)
  deriving DecidableEq

/-- A text between back quotes. -/
def ticked (s : List Char) : List Char :=
  "`".toList ++ s ++ "`".toList

/-- A name between back quotes. -/
def tickedName (name : String) : String :=
  String.ofList (ticked name.toList)

/-- How a message speaks of what it found. -/
def Found.describe : Found → List Char
  | .null => "null".toList
  | .boolean b => "boolean ".toList ++ ticked (if b then "true" else "false").toList
  | .integer n => "integer ".toList ++ ticked (Text.signedDecimal n)
  | .floating x => "floating point ".toList ++ ticked (Number.floatText x)
  | .text s => "string ".toList ++ Text.quoted s
  | .sequence => "sequence".toList
  | .record => "map".toList
  | .bareVariant => "unit variant".toList

/-- How a message lists the names that were possible. -/
def choices : List String → String
  | [] => "nothing"
  | [a] => tickedName a
  | [a, b] => tickedName a ++ " or " ++ tickedName b
  | names => "one of " ++ ", ".intercalate (names.map tickedName)

/-- The message for a value of another shape. -/
def Mismatch.message : Mismatch → String
  | .kind found expected =>
    "invalid type: " ++ String.ofList found.describe ++ ", expected " ++ expected
  | .length count expected =>
    "invalid length " ++ String.ofList (Text.decimal count) ++ ", expected " ++ expected
  | .missingField name => "missing field " ++ tickedName name
  | .duplicateField name => "duplicate field " ++ tickedName name
  | .unknownField name known =>
    "unknown field " ++ tickedName name ++ ", expected " ++ choices known
  | .unknownVariant name known =>
    "unknown variant " ++ tickedName name ++ ", expected " ++ choices known

/-- The message for the fault of a text. -/
def Fault.message : Fault → String
  | .malformed => "not JSON"
  | .truncated => "the text ends too early"
  | .mismatch m => m.message

end NativeBuild.Json
