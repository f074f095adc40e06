import NativeBuild.Duration
import NativeBuild.Proofs.Number.Rounding

/-!
The unit that a length of time is written in.  The number is rounded twice as a binary number before it
is written with one decimal, and still it is the nearest tenth, for the error of a binary number is small
beside a nanosecond.  The unit is chosen before the number is rounded; so a text has a number that belongs
to the next unit exactly when rounding reaches it, on the last twentieth of a second of the first minute.
-/

namespace NativeBuild.Duration

open Number

variable {d : Duration} {n k : Nat}

/-! ### Texts -/

def millisText (n : Nat) : String :=
  String.ofList (Text.decimal n) ++ "ms"

/-- Seconds with one decimal, given in tenths. -/
def tenthsText (n : Nat) : String :=
  String.ofList (Text.decimal (n / 10) ++ '.' :: Text.decimal (n % 10)) ++ "s"

def minutesText (m s : Nat) : String :=
  String.ofList (Text.decimal m) ++ "m " ++ String.ofList (Text.decimal s) ++ "s"

/-- A text whose number belongs to its unit: below a second, below a minute, or at least a minute with
less than one besides. -/
inductive Fits : String → Prop where
  | millis {n : Nat} (hlt : n < 1000) : Fits (millisText n)
  | seconds {n : Nat} (hle : 10 ≤ n) (hlt : n < 600) : Fits (tenthsText n)
  | minutes {m s : Nat} (hpos : 1 ≤ m) (hlt : s < 60) : Fits (minutesText m s)

theorem decimal_inj (h : Text.decimal n = Text.decimal k) : n = k := by
  have hread := congrArg (Nat.ofDigitChars 10 · 0) h
  simpa [Text.decimal, Text.digits] using hread

theorem not_mem_decimal {c : Char} (hc : c.isDigit = false) (n : Nat) : c ∉ Text.decimal n := by
  intro hmem
  have hdigit : c.isDigit = true := Nat.isDigit_of_mem_toDigits (by decide) le_rfl hmem
  exact nomatch hc.symm.trans hdigit

theorem toList_tenthsText (n : Nat) : (tenthsText n).toList =
    Text.decimal (n / 10) ++ '.' :: (Text.decimal (n % 10) ++ ['s']) := by
  simp [tenthsText]

theorem tenthsText_inj (h : tenthsText n = tenthsText k) : n = k := by
  have hlist := congrArg String.toList h
  rw [toList_tenthsText, toList_tenthsText] at hlist
  have hpoint (j : Nat) : '.' ∉ Text.decimal j := not_mem_decimal rfl j
  obtain ⟨hseconds, -, htenth⟩ :=
    (List.append_cons_inj_of_notMem (hpoint _) (by simp [hpoint])).1 hlist
  have hdiv : n / 10 = k / 10 := decimal_inj hseconds
  have hmod : n % 10 = k % 10 := decimal_inj (List.append_cancel_right htenth)
  omega

/-- Only milliseconds and minutes have an `m`. -/
theorem not_mem_tenthsText (n : Nat) : 'm' ∉ (tenthsText n).toList := by
  rw [toList_tenthsText]
  simp [not_mem_decimal]

theorem fits_tenthsText_iff : Fits (tenthsText n) ↔ 10 ≤ n ∧ n < 600 := by
  constructor
  · intro h
    have hm := not_mem_tenthsText n
    generalize htext : tenthsText n = text at h hm
    cases h with
    | millis _ => exact absurd (by simp [millisText]) hm
    | seconds hle hlt => exact tenthsText_inj htext ▸ ⟨hle, hlt⟩
    | minutes _ _ => exact absurd (by simp [minutesText]) hm
  · rintro ⟨hle, hlt⟩
    exact .seconds hle hlt

/-! ### Rounding -/

/-- All of a length of time in nanoseconds. -/
def total (d : Duration) : Nat :=
  d.seconds * 1000000000 + d.nanos

/-- The whole seconds are rounded, the part below a second, and the sum of the two. -/
theorem abs_rounded_sub_le (d : Duration) :
    |d.rounded.value - d.total / 10 ^ 9| ≤ ((d.total : ℚ) / 10 ^ 9 + 2) / 2 ^ 51 := by
  let whole := Binary.near ⟨d.seconds, 1⟩
  let part := Binary.near ⟨d.nanos, 1000000000⟩
  have hbottom : 0 < whole.bottom := Binary.bottom_near Nat.one_pos
  have hbottom' : 0 < part.bottom := Binary.bottom_near (Nat.zero_lt_succ _)
  have hwhole : |whole.value - d.seconds| ≤ ((d.seconds : ℚ) + 1) / 2 ^ 53 := by
    simpa [Ratio.value] using Binary.abs_near_sub_le (r := ⟨d.seconds, 1⟩) Nat.one_pos
  have hpart : |part.value - d.nanos / 10 ^ 9| ≤ ((d.nanos : ℚ) / 10 ^ 9 + 1) / 2 ^ 53 := by
    have h := Binary.abs_near_sub_le (r := ⟨d.nanos, 1000000000⟩) (Nat.zero_lt_succ _)
    norm_num [Ratio.value] at h ⊢
    exact h
  have hsum : |d.rounded.value - (whole.value + part.value)| ≤
      (whole.value + part.value + 1) / 2 ^ 53 := by
    rw [← Ratio.value_add hbottom hbottom']
    exact Binary.abs_near_sub_le (Nat.mul_pos hbottom hbottom')
  have htotal : (d.total : ℚ) / 10 ^ 9 = d.seconds + d.nanos / 10 ^ 9 := by
    rw [total]
    push_cast
    ring
  have hseconds : (0 : ℚ) ≤ d.seconds := Nat.cast_nonneg _
  have hnanos : (0 : ℚ) ≤ d.nanos / 10 ^ 9 := by positivity
  rw [htotal]
  rw [abs_le] at *
  constructor <;> linarith

theorem bottom_rounded (d : Duration) : 0 < d.rounded.bottom :=
  Binary.bottom_near (Nat.mul_pos (Binary.bottom_near Nat.one_pos)
    (Binary.bottom_near (Nat.zero_lt_succ _)))

/-- The tenths of less than a minute are the nearest ones to the exact time. -/
theorem tenths_bounds (hlt : d.total < 60000000000) :
    100000000 * tenths d.rounded ≤ d.total + 50000000 ∧
    d.total ≤ 100000000 * tenths d.rounded + 50000000 := by
  have hround : |(tenths d.rounded : ℚ) - d.rounded.value * 10| ≤ 1 / 2 := by
    have h := Ratio.abs_roundQuotient_sub_le (d.rounded.top * 10) d.bottom_rounded
    rwa [Nat.cast_mul, mul_div_right_comm] at h
  have hnear := d.abs_rounded_sub_le
  have htotal : (d.total : ℚ) < 60 * 10 ^ 9 := by exact_mod_cast hlt
  rw [abs_le] at hround hnear
  -- Both bounds are whole numbers, so an error of less than one makes no difference.
  have hlow : (100000000 * tenths d.rounded : ℚ) < d.total + 50000000 + 1 := by linarith
  have hhigh : (d.total : ℚ) < 100000000 * tenths d.rounded + 50000000 + 1 := by linarith
  exact ⟨Nat.lt_succ_iff.1 (by exact_mod_cast hlow), Nat.lt_succ_iff.1 (by exact_mod_cast hhigh)⟩

/-- The binary number nearest to 59.95 is above it. -/
theorem tenths_tie : tenths (rounded ⟨59, 950000000, by decide⟩) = 600 := by
  decide

/-- Rounding reaches a minute a twentieth of a second before it is over. -/
theorem tenths_eq_iff (hlt : d.total < 60000000000) :
    tenths d.rounded = 600 ↔ 59950000000 ≤ d.total := by
  obtain ⟨hlow, hhigh⟩ := tenths_bounds hlt
  have htie : d.total = 59950000000 → tenths d.rounded = 600 := by
    intro htotal
    obtain ⟨seconds, nanos, hnanos⟩ := d
    obtain ⟨rfl, rfl⟩ : seconds = 59 ∧ nanos = 950000000 := by
      simp only [total] at htotal
      omega
    exact tenths_tie
  omega

/-! ### Units -/

theorem millis_eq (d : Duration) : d.millis = d.total / 1000000 := by
  unfold millis total
  omega

theorem format_of_millis (h : d.total < 1000000000) : d.format = millisText (d.total / 1000000) := by
  rw [← millis_eq, format, if_pos (by rw [millis_eq]; omega)]
  rfl

theorem format_of_seconds (hle : 1000000000 ≤ d.total) (hlt : d.total < 60000000000) :
    d.format = tenthsText (tenths d.rounded) := by
  rw [format, if_neg (by rw [millis_eq]; omega), if_pos (by unfold total at hlt; omega)]
  rfl

theorem format_of_minutes (h : 60000000000 ≤ d.total) : d.format =
    minutesText (d.total / 60000000000) (d.total / 1000000000 % 60) := by
  have hnanos := d.nanos_lt
  have hseconds : d.total / 1000000000 = d.seconds := by
    unfold total
    omega
  have hminutes : d.total / 60000000000 = d.seconds / 60 := by
    rw [← hseconds, Nat.div_div_eq_div_mul]
  rw [format, if_neg (by rw [millis_eq]; omega), if_neg (by omega), hseconds, hminutes]
  rfl

theorem format_of_edge (hle : 59950000000 ≤ d.total) (hlt : d.total < 60000000000) :
    d.format = tenthsText 600 := by
  rw [format_of_seconds (by omega) hlt, (tenths_eq_iff hlt).2 hle]

/-- For every length of time the text has a number that belongs to its unit exactly unless the time falls
short of a minute by a twentieth of a second at most; then it says sixty seconds.  Below a second there
are whole milliseconds and from a minute on whole minutes and seconds, cut off; between them there is the
nearest tenth of a second, at least a second. -/
theorem format_fits_iff (d : Duration) :
    (Fits d.format ↔ ¬ (59950000000 ≤ d.total ∧ d.total < 60000000000)) ∧
    (59950000000 ≤ d.total → d.total < 60000000000 → d.format = "60.0s") ∧
    (d.total < 1000000000 → d.format = millisText (d.total / 1000000)) ∧
    (1000000000 ≤ d.total → d.total < 60000000000 → ∃ n, d.format = tenthsText n ∧ 10 ≤ n ∧
      100000000 * n ≤ d.total + 50000000 ∧ d.total ≤ 100000000 * n + 50000000) ∧
    (60000000000 ≤ d.total →
      d.format = minutesText (d.total / 60000000000) (d.total / 1000000000 % 60)) := by
  refine ⟨?_, format_of_edge, format_of_millis, fun hle hlt => ?_, format_of_minutes⟩
  · rcases Nat.lt_or_ge d.total 1000000000 with hmillis | hle
    · rw [format_of_millis hmillis]
      exact iff_of_true (.millis (by omega)) (by omega)
    rcases Nat.lt_or_ge d.total 60000000000 with hlt | hminutes
    · obtain ⟨hlow, hhigh⟩ := tenths_bounds hlt
      have hedge := tenths_eq_iff hlt
      rw [format_of_seconds hle hlt, fits_tenthsText_iff]
      omega
    · rw [format_of_minutes hminutes]
      exact iff_of_true (.minutes (by omega) (by omega)) (by omega)
  · obtain ⟨hlow, hhigh⟩ := tenths_bounds hlt
    exact ⟨tenths d.rounded, format_of_seconds hle hlt, by omega, hlow, hhigh⟩

/-- Forty milliseconds before the minute is over the text says sixty seconds. -/
theorem exists_unfit : ∃ d : Duration, d.seconds = 59 ∧ d.nanos = 960000000 ∧ d.format = "60.0s" ∧
    ¬ Fits d.format := by
  have hformat : (⟨59, 960000000, by decide⟩ : Duration).format = tenthsText 600 :=
    format_of_edge (by decide) (by decide)
  refine ⟨⟨59, 960000000, by decide⟩, rfl, rfl, hformat, ?_⟩
  rw [hformat, fits_tenthsText_iff]
  decide

/-- The last time before the edge, the edge and the minute. -/
theorem format_fits_iff_edge :
    Fits (⟨59, 949999999, by decide⟩ : Duration).format ∧
    (⟨59, 950000000, by decide⟩ : Duration).format = "60.0s" ∧
    (⟨60, 0, by decide⟩ : Duration).format = "1m 0s" :=
  ⟨(format_fits_iff ⟨59, 949999999, by decide⟩).1.2 (by decide),
    (format_fits_iff ⟨59, 950000000, by decide⟩).2.1 (by decide) (by decide),
    ((format_fits_iff ⟨60, 0, by decide⟩).2.2.2.2 (by decide)).trans (by decide)⟩

end NativeBuild.Duration
