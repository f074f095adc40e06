import NativeBuild.Userland.Calendar
import NativeBuild.Userland.Tool.Basic

/-!
Times in words: dates, clocks and steps such as "next week" or "3 days ago".
-/

namespace NativeBuild.Tool

open Shell
open Calendar (startSecond daysTo)

/-- What the words of a time say: a day, by its number since the start of the year 1970, a second of
the day, and seconds and months to be added. -/
structure TimeWords where
  day : Option Int := none
  second : Option Int := none
  seconds : Int := 0
  months : Int := 0

/-- The day that a text with its year, month and day names. -/
def dayOf? (text : Raw) : Option Int :=
  match (Text.pieces '-' text).map Text.decimal? with
  | [some y, some m, some d] =>
    let length := daysTo (if m = 12 then y + 1 else y) (m % 12 + 1) 1 - daysTo y m 1
    if 1 ≤ m ∧ m ≤ 12 ∧ 1 ≤ d ∧ d ≤ length then some (daysTo y m d) else none
  | _ => none

/-- The second of the day that a text with hours and minutes names. -/
def clockOf? (text : Raw) : Option Int :=
  let text := if text.getLast? = some 'Z' then text.dropLast else text
  match (Text.pieces ':' (Text.cut '.' text).1).map Text.decimal? with
  | [some h, some m] => if h < 24 ∧ m < 60 then some (h * 3600 + m * 60 : Nat) else none
  | [some h, some m, some s] =>
    if h < 24 ∧ m < 60 ∧ s < 61 then some (h * 3600 + m * 60 + s : Nat) else none
  | _ => none

/-- The seconds and the months in a unit of time. -/
def unitOf? (text : Raw) : Option (Int × Int) :=
  let unit := if text.getLast? = some 's' then text.dropLast else text
  match String.ofList unit with
  | "sec" => some (1, 0)
  | "second" => some (1, 0)
  | "min" => some (60, 0)
  | "minute" => some (60, 0)
  | "hour" => some (3600, 0)
  | "day" => some (86400, 0)
  | "week" => some (604800, 0)
  | "fortnight" => some (1209600, 0)
  | "month" => some (0, 1)
  | "year" => some (0, 12)
  | _ => none

/-- Read the words of a time on a given day, in at most `fuel` steps. -/
def readTimeWords (today : Int) : Nat → TimeWords → List Raw → Option TimeWords
  | 0, _, _ => none
  | _, t, [] => some t
  | fuel + 1, t, word :: rest =>
    let more (count : Int) (unit : Int × Int) (rest : List Raw) : Option TimeWords :=
      let (count, rest) : Int × List Raw :=
        if rest.head? = some "ago".toList then (-count, rest.drop 1) else (count, rest)
      readTimeWords today fuel
        { t with seconds := t.seconds + count * unit.1, months := t.months + count * unit.2 } rest
    match word, rest with
    | ['+'], n :: rest => readTimeWords today fuel t (('+' :: n) :: rest)
    | ['-'], n :: rest => readTimeWords today fuel t (('-' :: n) :: rest)
    | _, _ =>
      match integer? word, (rest.head?.bind unitOf?), unitOf? word with
      | some count, some unit, _ => more count unit (rest.drop 1)
      | none, _, some unit => more 1 unit rest
      | _, _, _ =>
        match String.ofList word with
        | "now" => readTimeWords today fuel t rest
        | "today" => readTimeWords today fuel t rest
        | "next" => readTimeWords today fuel t rest
        | "last" => readTimeWords today fuel t (['-', '1'] :: rest)
        | "yesterday" => readTimeWords today fuel { t with seconds := t.seconds - 86400 } rest
        | "tomorrow" => readTimeWords today fuel { t with seconds := t.seconds + 86400 } rest
        | "UTC" => readTimeWords today fuel t rest
        | "GMT" => readTimeWords today fuel t rest
        | "Z" => readTimeWords today fuel t rest
        | "+0000" => readTimeWords today fuel t rest
        | _ =>
          match dayOf? word, clockOf? word with
          | some day, _ => readTimeWords today fuel { t with day := some day } rest
          | none, some second =>
            readTimeWords today fuel
              { t with second := some second, day := some (t.day.getD today) } rest
          | none, none => none

/-- The time that a text names, in nanoseconds since the start of the machine. -/
def timeOf? (now : Int) (text : Raw) : Option Int :=
  let nano : Int := 1000000000
  match text with
  | '@' :: rest =>
    let (whole, part) := Text.cut '.' rest
    let part := (part.getD []).take 9
    let nanos : Int := Text.decimalValue (part ++ List.replicate (9 - part.length) '0')
    (integer? whole).map fun n =>
      (n - startSecond) * nano + if n < 0 then -nanos else nanos
  | _ => do
    let words := (Text.pieces ' ' (text.map fun c => if c = 'T' then ' ' else c)).filter fun f =>
      !f.isEmpty
    let nowSecond := startSecond + now / nano
    let t ← readTimeWords (nowSecond / 86400) (2 * words.length + 2) {} words
    let day := t.day.getD (nowSecond / 86400)
    let second := match t.day with
      | some _ => t.second.getD 0
      | none => nowSecond % 86400
    let (year, month, date) := Calendar.dateOf day
    let months := year * 12 + (month : Int) - 1 + t.months
    let day := if t.months = 0 then day
      else daysTo (months / 12).toNat ((months % 12).toNat + 1) 1 + (date : Int) - 1
    some ((day * 86400 + second + t.seconds - startSecond) * nano +
      if t.day.isNone then now % nano else 0)

/-- The time that digits for a date and a time of day name. -/
def stampOf? (text : Raw) : Option Int :=
  let (digits, seconds) := Text.cut '.' text
  if !digits.all Text.isDigit then none
  else
    let digits := if digits.length = 10 then
        (if Text.decimalValue (digits.take 2) < 69 then ['2', '0'] else ['1', '9']) ++ digits
      else if digits.length = 8 then ['2', '0', '2', '6'] ++ digits else digits
    if digits.length ≠ 12 then none
    else
      let part (start count : Nat) : Nat := Text.decimalValue ((digits.drop start).take count)
      let days := daysTo (part 0 4) (part 4 2) (part 6 2)
      let inDay := part 8 2 * 3600 + part 10 2 * 60 + Text.decimalValue (seconds.getD [])
      some ((days * 86400 + inDay - startSecond) * 1000000000)

end NativeBuild.Tool
