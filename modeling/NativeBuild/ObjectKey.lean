import NativeBuild.Digest.Sha256
import NativeBuild.Json.Value
import NativeBuild.Path.Absolute
import NativeBuild.Text.Utf8

/-!
What tells one compilation from another: the absolute source and the flags.  The object file is
named for a digest of the two.
-/

namespace NativeBuild

/-- The key of a compilation. -/
structure ObjectKey where
  source : Path
  flags : List String
  deriving DecidableEq

namespace ObjectKey

/-- The key for compiling a source with some flags beside those of the toolchain. -/
def of (here source : Path) (flags : List String) : ObjectKey :=
  ⟨source.absolute here, flags⟩

/-- Keys are equal when their sources are the same path and their flags agree. -/
def Same (a b : ObjectKey) : Prop :=
  a.source.Same b.source ∧ a.flags = b.flags

instance (a b : ObjectKey) : Decidable (a.Same b) :=
  inferInstanceAs (Decidable (_ ∧ _))

/-- The text that is digested: the source and the flags as a record. -/
def text (k : ObjectKey) : List Char :=
  (Json.record [("source", .text k.source.text), ("flags", .texts k.flags)]).compact

/-- The first half of the digest, in hexadecimal digits. -/
def hash (k : ObjectKey) : String :=
  String.ofList ((Sha256.hex (Text.encode k.text)).take 32)

/-- The name of the object file. -/
def objectName (k : ObjectKey) : String :=
  k.hash ++ ".o"

end ObjectKey

end NativeBuild
