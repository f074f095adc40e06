import NativeBuild.Userland.Shell.Raw

/-!
Dates, and times as formats show them.
-/

namespace NativeBuild.Calendar

open Shell (Raw rawString)

/-- The time at which the machine was started, in seconds since the start of the year 1970. -/
def startSecond : Int := 1767225600

/-- The number of days from the start of the year 1970 to a date. -/
def daysTo (year month day : Nat) : Int :=
  let y : Int := if month ≤ 2 then (year : Int) - 1 else year
  let m : Int := (month + 9) % 12
  let era := y / 400
  let yearOfEra := y % 400
  let dayOfYear := (153 * m + 2) / 5 + (day : Int) - 1
  era * 146097 + yearOfEra * 365 + yearOfEra / 4 - yearOfEra / 100 + dayOfYear - 719468

/-- The year, month and day of a number of days since the start of the year 1970. -/
def dateOf (days : Int) : Int × Nat × Nat :=
  let z := days + 719468
  let era := z / 146097
  let inEra := (z % 146097).toNat
  let year := (inEra - inEra / 1460 + inEra / 36524 - inEra / 146096) / 365
  let inYear := inEra - (365 * year + year / 4 - year / 100)
  let m := (5 * inYear + 2) / 153
  let month := if m < 10 then m + 3 else m - 9
  ((year : Int) + era * 400 + (if month ≤ 2 then 1 else 0), month, inYear - (153 * m + 2) / 5 + 1)

/-- The names of the months. -/
def monthNames : List String :=
  ["January", "February", "March", "April", "May", "June", "July", "August", "September",
    "October", "November", "December"]

/-- The names of the days of a week. -/
def dayNames : List String :=
  ["Sunday", "Monday", "Tuesday", "Wednesday", "Thursday", "Friday", "Saturday"]

/-- A moment: the seconds since the start of the year 1970, and the part of a second behind them in
nanoseconds. -/
structure Moment where
  seconds : Int
  nanos : Nat := 0

/-- The moment of a time in nanoseconds since the start of the machine. -/
def Moment.ofTime (time : Int) : Moment :=
  ⟨startSecond + time / 1000000000, (time % 1000000000).toNat⟩

/-- How a field of a time is shown: a number with at least as many characters, filled up with one,
or a text. -/
inductive Shown where
  | number (value : Int) (width : Nat) (filler : Char)
  | text (value : Raw)

namespace Moment

/-- The number of days since the start of the year 1970. -/
def days (m : Moment) : Int :=
  m.seconds / 86400

/-- The day of the week, from Sunday on. -/
def weekday (m : Moment) : Nat :=
  ((m.days + 4) % 7).toNat

/-- The day of the year, from one on. -/
def yearday (m : Moment) : Nat :=
  (m.days - daysTo (dateOf m.days).1.toNat 1 1).toNat + 1

/-- The year and the week that a moment is in, where weeks start on Mondays and belong to the year
that their Thursday is in. -/
def week (m : Moment) : Int × Nat :=
  let thursday := m.days + 3 - (m.days + 3) % 7
  let year := (dateOf thursday).1
  (year, (thursday - daysTo year.toNat 1 1).toNat / 7 + 1)

/-- What a letter in a format shows, or the format that it stands for. -/
def field (m : Moment) (letter : Char) : Option (Shown ⊕ String) :=
  let inDay := (m.seconds % 86400).toNat
  let (year, month, day) := dateOf m.days
  let hour := inDay / 3600
  let half := if hour % 12 = 0 then 12 else hour % 12
  let two (n : Nat) : Option (Shown ⊕ String) := some (.inl (.number n 2 '0'))
  let number (n : Int) (width : Nat) : Option (Shown ⊕ String) := some (.inl (.number n width '0'))
  let spaced (n : Nat) : Option (Shown ⊕ String) := some (.inl (.number n 2 ' '))
  let text (s : String) : Option (Shown ⊕ String) := some (.inl (.text (rawString s)))
  let named (names : List String) (k : Nat) : String := (names[k]?).getD ""
  let short (s : String) : String := String.ofList (s.toList.take 3)
  match letter with
  | 'Y' => number year 1
  | 'y' => two (year % 100).toNat
  | 'C' => two (year / 100).toNat
  | 'G' => number m.week.1 1
  | 'g' => two (m.week.1 % 100).toNat
  | 'V' => two m.week.2
  | 'U' => two ((m.yearday + 6 - m.weekday) / 7)
  | 'W' => two ((m.yearday + 6 - (m.weekday + 6) % 7) / 7)
  | 'm' => two month
  | 'd' => two day
  | 'e' => spaced day
  | 'H' => two hour
  | 'I' => two half
  | 'k' => spaced hour
  | 'l' => spaced half
  | 'M' => two (inDay / 60 % 60)
  | 'S' => two (inDay % 60)
  | 'p' => text (if hour < 12 then "AM" else "PM")
  | 'P' => text (if hour < 12 then "am" else "pm")
  | 's' => number m.seconds 1
  | 'N' => number m.nanos 9
  | 'j' => number m.yearday 3
  | 'B' => text (named monthNames (month - 1))
  | 'b' => text (short (named monthNames (month - 1)))
  | 'h' => text (short (named monthNames (month - 1)))
  | 'A' => text (named dayNames m.weekday)
  | 'a' => text (short (named dayNames m.weekday))
  | 'u' => number (if m.weekday = 0 then 7 else m.weekday) 1
  | 'w' => number m.weekday 1
  | 'q' => number ((month + 2) / 3) 1
  | 'F' => some (.inr "%Y-%m-%d")
  | 'T' => some (.inr "%H:%M:%S")
  | 'R' => some (.inr "%H:%M")
  | 'r' => some (.inr "%I:%M:%S %p")
  | 'D' => some (.inr "%m/%d/%y")
  | 'c' => some (.inr "%a %b %e %H:%M:%S %Y")
  | 'x' => some (.inr "%m/%d/%y")
  | 'X' => some (.inr "%H:%M:%S")
  | 'Z' => text "UTC"
  | 'z' => text "+0000"
  | 'n' => text "\n"
  | 't' => text "\t"
  | '%' => text "%"
  | _ => none

/-- A field in the way that a sign in front of its letter asks for. -/
def flagged (flag : Option Char) : Shown → Raw
  | .number n width filler =>
    let digits := Text.signedDecimal n
    let width := if flag = some '-' then 0 else width
    let filler := match flag with
      | some '_' => ' '
      | some '0' => '0'
      | _ => filler
    List.replicate (width - digits.length) filler ++ digits
  | .text t => if flag = some '^' then t.map Char.toUpper else t

/-- A moment as a format shows it, in at most `fuel` steps. -/
def textWithin (m : Moment) : Nat → Raw → Raw
  | 0, _ => []
  | _, [] => []
  | fuel + 1, '%' :: rest =>
    let (flag, after) : Option Char × Raw :=
      match rest with
      | '-' :: more => (some '-', more)
      | '_' :: more => (some '_', more)
      | '0' :: more => (some '0', more)
      | '^' :: more => (some '^', more)
      | '3' :: 'N' :: more => (none, '3' :: 'N' :: more)
      | _ => (none, rest)
    match after with
    | '3' :: 'N' :: more =>
      let millis := Text.decimal (m.nanos / 1000000)
      List.replicate (3 - millis.length) '0' ++ millis ++ textWithin m fuel more
    | ':' :: 'z' :: more => rawString "+00:00" ++ textWithin m fuel more
    | c :: more =>
      match m.field c with
      | some (.inl shown) => flagged flag shown ++ textWithin m fuel more
      | some (.inr format) => textWithin m fuel (format.toList ++ more)
      | none => '%' :: rest.take (rest.length - more.length) ++ textWithin m fuel more
    | [] => '%' :: rest
  | fuel + 1, c :: rest => c :: textWithin m fuel rest

/-- A moment as a format shows it. -/
def shownBy (m : Moment) (format : Raw) : Raw :=
  m.textWithin (24 * format.length + 8) format

end Moment

end NativeBuild.Calendar
