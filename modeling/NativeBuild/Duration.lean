import NativeBuild.Number.Binary64
import NativeBuild.Text.Decimal

/-!
Lengths of time for a reader: milliseconds below a second, tenths of a second below a minute, whole
minutes and seconds from there on.
-/

namespace NativeBuild

/-- A length of time: seconds, and nanoseconds that do not make another second. -/
structure Duration where
  seconds : Nat
  nanos : Nat
  nanos_lt : nanos < 1000000000 := by omega

namespace Duration

/-- Whole milliseconds. -/
def millis (d : Duration) : Nat :=
  d.seconds * 1000 + d.nanos / 1000000

/-- The number of seconds rounded twice: the part below a second as a 64-bit binary number, then the
sum with the whole seconds as another. -/
def rounded (d : Duration) : Number.Ratio :=
  let near (r : Number.Ratio) : Number.Ratio :=
    ((Number.Binary.nearest? false r).map Number.Binary.ratio).getD r
  near ((near ⟨d.seconds, 1⟩).add (near ⟨d.nanos, 1000000000⟩))

/-- A number of seconds in tenths, rounded to the nearest, a half to the even one. -/
def tenths (seconds : Number.Ratio) : Nat :=
  Number.roundQuotient (seconds.top * 10) seconds.bottom

/-- The text of a length of time. -/
def format (d : Duration) : String :=
  if d.millis < 1000 then String.ofList (Text.decimal d.millis) ++ "ms"
  else if d.seconds < 60 then
    let n := tenths d.rounded
    String.ofList (Text.decimal (n / 10) ++ '.' :: Text.decimal (n % 10)) ++ "s"
  else
    String.ofList (Text.decimal (d.seconds / 60)) ++ "m " ++
      String.ofList (Text.decimal (d.seconds % 60)) ++ "s"

end Duration

end NativeBuild
