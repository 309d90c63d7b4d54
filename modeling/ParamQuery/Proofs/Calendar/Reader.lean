/-
Dates and timestamps are read from their own texts.

Every scanner finds the number that stands in front of a text, and leaves
the text, if no digit goes on there (`NoDigit`); so the parts of a text are
read one by one. A date is read again whatever its year
(`Date.read?_chars`). The text of a timestamp without zone has no
fraction, so it is the text of `wholeSeconds`, which is read
(`read?_text`). The text in UTC has its fraction, but the strict form wants
four digits for the year, and no other form knows an offset: it is read if
the year has four digits (`readUtc?_utcText`), and else not at all
(`readUtc?_utcText_of_wide`).
-/
import ParamQuery.Calendar.Printer
import ParamQuery.Calendar.Reader
import ParamQuery.Proofs.Calendar.Timestamp
import ParamQuery.Proofs.Number.Digits
import ParamQuery.Proofs.Text.Trimmed

namespace ParamQuery.Calendar

open Number (padded valueOf valueOf_padded length_padded isDigit_of_mem_padded padded_ne_nil)
open Text (trimStart isBlank IsTrimmed)

/-! ## Digits in front of a text -/

/-- No digit goes on in front of the text. -/
def NoDigit (rest : List Char) : Prop := ∀ c ∈ rest.head?, c.isDigit = false

theorem isBlank_of_isDigit {c : Char} (h : c.isDigit = true) : isBlank c = false := by
  simp only [Char.isDigit, Bool.and_eq_true, decide_eq_true_eq, ge_iff_le, UInt32.le_iff_toNat_le] at h
  have hleast : 48 ≤ c.toNat := h.1
  have hgreatest : c.toNat ≤ 57 := h.2
  simp only [isBlank, Bool.or_eq_false_iff, Bool.and_eq_false_iff, decide_eq_false_iff_not, beq_eq_false_iff_ne]
  omega

theorem takeWhile_isDigit_append {ds rest : List Char} (hds : ∀ c ∈ ds, c.isDigit = true)
    (hrest : NoDigit rest) : (ds ++ rest).takeWhile Char.isDigit = ds := by
  rw [List.takeWhile_append_of_pos hds]
  cases rest with
  | nil => rw [List.takeWhile_nil, List.append_nil]
  | cons c rest => rw [List.takeWhile_cons, if_neg (by simp [hrest c rfl]), List.append_nil]

theorem NoDigit.take {rest : List Char} (h : NoDigit rest) (count : Nat) : NoDigit (rest.take count) := by
  cases count with
  | zero => simp [NoDigit]
  | succ count => cases rest with
    | nil => simp [NoDigit]
    | cons c rest => exact h

theorem trimStart_append_of_digits {ds : List Char} (hne : ds ≠ []) (hds : ∀ c ∈ ds, c.isDigit = true)
    (rest : List Char) : trimStart (ds ++ rest) = ds ++ rest := by
  obtain ⟨d, ds, rfl⟩ := List.exists_cons_of_ne_nil hne
  exact List.dropWhile_cons_of_neg (by simp [isBlank_of_isDigit (hds d (by simp))])

theorem scanNumber_append {width : Nat} {ds rest : List Char} (hne : ds ≠ [])
    (hds : ∀ c ∈ ds, c.isDigit = true) (hlength : ds.length ≤ width) (hrest : NoDigit rest) :
    scanNumber width (ds ++ rest) = .some (valueOf ds, rest) := by
  have hrun : ((ds ++ rest).take width).takeWhile Char.isDigit = ds := by
    rw [List.take_append, List.take_of_length_le hlength, takeWhile_isDigit_append hds (hrest.take _)]
  simp [scanNumber, hrun, hne]

/-! ## Fields of a fixed width -/

variable {width n : Nat} {rest : List Char}

theorem scanField_padded (width n : Nat) (hwidth : 0 < width) (hn : n < 10 ^ width) (hrest : NoDigit rest) :
    scanField width (padded width n ++ rest) = .some (n, rest) := by
  have hds : ∀ c ∈ padded width n, c.isDigit = true := fun c => isDigit_of_mem_padded
  have hlength : (padded width n).length ≤ width := (length_padded hwidth hn).le
  rw [scanField, trimStart_append_of_digits (padded_ne_nil width n) hds,
    scanNumber_append (padded_ne_nil width n) hds hlength hrest, valueOf_padded]

/-- A run of digits of the given width. -/
structure AreDigits (width : Nat) (ds : List Char) : Prop where
  length_eq : ds.length = width
  isDigit : ∀ c ∈ ds, c.isDigit = true

theorem areDigits_padded (hwidth : 0 < width) (hn : n < 10 ^ width) : AreDigits width (padded width n) :=
  ⟨length_padded hwidth hn, fun _ => isDigit_of_mem_padded⟩

theorem scanExact_digits {ds : List Char} (h : AreDigits width ds) (rest : List Char) :
    scanExact width (ds ++ rest) = .some (valueOf ds, rest) := by
  have hds : ds.all Char.isDigit = true := List.all_eq_true.2 h.isDigit
  simp [scanExact, List.take_left' h.length_eq, List.drop_left' h.length_eq, h.length_eq, hds]

theorem scanChar_self (c : Char) (rest : List Char) : scanChar c (c :: rest) = .some rest := by
  simp [scanChar]

/-- The nanoseconds of a fraction that is written in `width` digits. -/
theorem scanNanos_padded (hwidth : 0 < width) (hmost : width ≤ 9) (hn : n < 10 ^ width) (hrest : NoDigit rest) :
    scanNanos (padded width n ++ rest) = .some (n * 10 ^ (9 - width), rest) := by
  have hlength := length_padded hwidth hn
  have hrun : (padded width n ++ rest).takeWhile Char.isDigit = padded width n :=
    takeWhile_isDigit_append (fun c => isDigit_of_mem_padded) hrest
  have hkept : (padded width n).take 9 = padded width n := List.take_of_length_le (by omega)
  simp [scanNanos, hrun, hkept, padded_ne_nil, valueOf_padded, hlength]

/-! ## Nothing to trim -/

/-- No character is a blank. -/
def IsVisible (cs : List Char) : Prop := ∀ c ∈ cs, isBlank c = false

theorem IsVisible.append {a b : List Char} (ha : IsVisible a) (hb : IsVisible b) : IsVisible (a ++ b) :=
  List.forall_mem_append.2 ⟨ha, hb⟩

theorem IsVisible.cons {c : Char} {a : List Char} (hc : isBlank c = false) (ha : IsVisible a) :
    IsVisible (c :: a) := List.forall_mem_cons.2 ⟨hc, ha⟩

theorem IsVisible.isTrimmed {a : List Char} (h : IsVisible a) : IsTrimmed a :=
  ⟨fun c hc => h c (List.mem_of_mem_head? hc), fun c hc => h c (List.mem_of_getLast? hc)⟩

theorem isVisible_padded (width n : Nat) : IsVisible (padded width n) :=
  fun _ hc => isBlank_of_isDigit (isDigit_of_mem_padded hc)

theorem isVisible_yearText (year : Int) : IsVisible (yearText year) := by
  unfold yearText
  split
  · exact isVisible_padded 4 _
  · split
    · exact (isVisible_padded 4 _).cons (by decide)
    · exact (isVisible_padded 4 _).cons (by decide)

theorem Date.isVisible_chars (d : Date) : IsVisible d.chars := by
  have hdash : isBlank '-' = false := by decide
  exact ((isVisible_yearText d.year).append ((isVisible_padded 2 d.month).cons hdash)).append
    ((isVisible_padded 2 d.day).cons hdash)

theorem Date.chars_ne_nil (d : Date) : d.chars ≠ [] := by simp [Date.chars]

/-! ## Years and dates -/

theorem scanYear_minus (cs : List Char) :
    scanYear ('-' :: cs) = (scanNumber cs.length cs).map fun (n, r) => (-(n : Int), r) := rfl

theorem scanYear_plus (cs : List Char) :
    scanYear ('+' :: cs) = (scanNumber cs.length cs).map fun (n, r) => ((n : Int), r) := rfl

/-- A year is read whatever its sign and however many digits it has. -/
theorem scanYear_yearText (year : Int) (hrest : NoDigit rest) :
    scanYear (yearText year ++ rest) = .some (year, rest) := by
  have hscan {width : Nat} {count : Nat} (hlength : (padded 4 count).length ≤ width) :
      scanNumber width (padded 4 count ++ rest) = .some (count, rest) := by
    have hds : ∀ c ∈ padded 4 count, c.isDigit = true := fun c => isDigit_of_mem_padded
    rw [scanNumber_append (padded_ne_nil 4 count) hds hlength hrest, valueOf_padded]
  by_cases hfour : 0 ≤ year ∧ year ≤ 9999
  · have hds : ∀ c ∈ padded 4 year.toNat, c.isDigit = true := fun c => isDigit_of_mem_padded
    have hlength : (padded 4 year.toNat).length ≤ 4 := (length_padded (by omega) (by omega)).le
    have htrim := trimStart_append_of_digits (padded_ne_nil 4 year.toNat) hds rest
    obtain ⟨d, ds, hcons⟩ := List.exists_cons_of_ne_nil (padded_ne_nil 4 year.toNat)
    have hdigit : d.isDigit = true := hds d (by simp [hcons])
    have hplus : d ≠ '+' := by rintro rfl; simp at hdigit
    have hminus : d ≠ '-' := by rintro rfl; simp at hdigit
    have hyear : (year.toNat : Int) = year := Int.toNat_of_nonneg hfour.1
    rw [yearText, if_pos hfour, scanYear, htrim]
    split
    · simp_all
    · simp_all
    · rw [hscan hlength]
      simp [hyear]
  · rw [yearText, if_neg hfour]
    by_cases hneg : year < 0
    · have hyear : -(year.natAbs : Int) = year := by omega
      rw [if_pos hneg, List.cons_append, scanYear_minus, hscan (by simp), Option.map_some]
      exact congrArg (fun y => Option.some (y, rest)) hyear
    · have hyear : (year.natAbs : Int) = year := by omega
      rw [if_neg hneg, List.cons_append, scanYear_plus, hscan (by simp), Option.map_some]
      exact congrArg (fun y => Option.some (y, rest)) hyear

theorem noDigit_cons {c : Char} (hc : c.isDigit = false) (rest : List Char) : NoDigit (c :: rest) := by
  rintro d ⟨⟩
  exact hc

theorem noDigit_nil : NoDigit [] := by simp [NoDigit]

theorem scanDate_chars (d : Date) (hrest : NoDigit rest) : scanDate (d.chars ++ rest) = .some (d, rest) := by
  have hmonth := d.month_bounds
  have hday := d.day_bounds
  have hdash (after : List Char) : NoDigit ('-' :: after) := noDigit_cons (by decide) after
  simp only [scanDate, Date.chars, List.append_assoc, List.cons_append, scanYear_yearText d.year (hdash _),
    scanField_padded 2 d.month (by omega) (by omega) (hdash _),
    scanField_padded 2 d.day (by omega) (by omega) hrest, scanChar_self,
    Option.bind_eq_bind, Option.bind_some, Date.make?_parts]

/-- **A date is read from its text.** -/
theorem Date.read?_chars (d : Date) : Date.read? d.chars = .some d := by
  have hscan := scanDate_chars d noDigit_nil
  rw [List.append_nil] at hscan
  rw [Date.read?, hscan, whole]

namespace Timestamp

/-! ## The clock -/

/-- The timestamp without its fraction of a second. -/
def wholeSeconds (t : Timestamp) : Timestamp where
  date := t.date
  second := t.second
  nano := t.nano - t.fraction
  is_time := by
    have h := isTime_iff.1 t.is_time
    exact isTime_iff.2 ⟨h.1, by omega, h.2.2.imp_left (by omega)⟩

theorem second_wholeSeconds (t : Timestamp) : t.wholeSeconds.second = t.second := rfl

theorem nano_wholeSeconds (t : Timestamp) : t.wholeSeconds.nano = t.nano - t.nano % 1000000000 := rfl

theorem wholeSeconds_eq_self_iff (t : Timestamp) : t.wholeSeconds = t ↔ t.fraction = 0 := by
  have hfraction := t.fraction_eq
  have hnano : t.wholeSeconds = t ↔ t.nano - t.fraction = t.nano := by
    cases t
    simp [wholeSeconds]
  rw [hnano]
  omega

theorem fraction_wholeSeconds (t : Timestamp) : t.wholeSeconds.fraction = 0 := by
  rw [fraction_eq, nano_wholeSeconds]
  omega

theorem clock_wholeSeconds (t : Timestamp) : t.wholeSeconds.clock = t.clock := by
  have hsecond : t.wholeSeconds.secondOfMinute = t.secondOfMinute := by
    rw [secondOfMinute_eq, secondOfMinute_eq, second_wholeSeconds, nano_wholeSeconds]
    omega
  rw [clock, hsecond]
  rfl

/-- The parts of a clock are in their ranges. -/
theorem clock_bounds (t : Timestamp) :
    t.hour < 24 ∧ t.minute < 60 ∧ t.secondOfMinute ≤ 60 ∧ t.fraction < nanosPerSecond := by
  have h := isTime_iff.1 t.is_time
  rw [hour, minute, secondOfMinute_eq, fraction_eq, nanosPerSecond]
  omega

/-- The parts of a clock make the timestamp again, in a leap second too. -/
theorem ofClock?_parts (t : Timestamp) :
    ofClock? t.date t.hour t.minute t.secondOfMinute t.fraction = .some t := by
  have h := isTime_iff.1 t.is_time
  have hmake {second nano : Nat} (hsecond : second = t.second) (hnano : nano = t.nano) :
      make? t.date second nano = .some t := by
    rw [hsecond, hnano, make?_parts]
  rw [ofClock?, if_pos t.clock_bounds, secondOfMinute_eq, fraction_eq, hour, minute, nanosPerSecond]
  split
  · exact hmake (by omega) (by omega)
  · exact hmake (by omega) (by omega)

/-- A clock is read with the fraction that stands behind it. -/
theorem scanClock_clock (date : Date) (t : Timestamp) {nano : Nat} {fraction rest : List Char}
    (hdigit : NoDigit fraction) (hscan : scanFraction fraction = .some (nano, rest)) :
    scanClock date (t.clock ++ fraction) =
      (ofClock? date t.hour t.minute t.secondOfMinute nano).map fun made => (made, rest) := by
  obtain ⟨hhour, hminute, hsecond, -⟩ := t.clock_bounds
  have hcolon (after : List Char) : NoDigit (':' :: after) := noDigit_cons (by decide) after
  simp only [scanClock, clock, List.append_assoc, List.cons_append,
    scanField_padded 2 t.hour (by omega) (by omega) (hcolon _),
    scanField_padded 2 t.minute (by omega) (by omega) (hcolon _),
    scanField_padded 2 t.secondOfMinute (by omega) (by omega) hdigit, scanChar_self,
    hscan, Option.bind_eq_bind, Option.bind_some]
  cases ofClock? date t.hour t.minute t.secondOfMinute nano <;> rfl

theorem isVisible_clock (t : Timestamp) : IsVisible t.clock := by
  have hcolon : isBlank ':' = false := by decide
  exact ((isVisible_padded 2 t.hour).append ((isVisible_padded 2 t.minute).cons hcolon)).append
    ((isVisible_padded 2 t.secondOfMinute).cons hcolon)

/-! ## Without zone -/

theorem isTrimmed_text (t : Timestamp) : IsTrimmed t.text.toList := by
  have hclock : t.clock ≠ [] := by simp [clock]
  rw [text, String.toList_ofList]
  exact t.date.isVisible_chars.isTrimmed.between t.isVisible_clock.isTrimmed t.date.chars_ne_nil hclock [' ']

theorem trimStart_blank_clock (t : Timestamp) (rest : List Char) :
    trimStart (' ' :: (t.clock ++ rest)) = t.clock ++ rest := by
  have hds : ∀ c ∈ padded 2 t.hour, c.isDigit = true := fun c => isDigit_of_mem_padded
  have hblank : trimStart (' ' :: (t.clock ++ rest)) = trimStart (t.clock ++ rest) :=
    List.dropWhile_cons_of_pos (by decide)
  rw [hblank, clock, List.append_assoc, List.append_assoc]
  exact trimStart_append_of_digits (padded_ne_nil 2 t.hour) hds _

theorem read?_text_of_whole {t : Timestamp} (h : t.fraction = 0) :
    read? (t.date.chars ++ ' ' :: t.clock) = .some t := by
  have hdate := scanDate_chars t.date (noDigit_cons (c := ' ') (by decide) t.clock)
  have hnone : scanFraction [] = .some (0, []) := rfl
  have hclock := scanClock_clock t.date t noDigit_nil hnone
  have htrim := t.trimStart_blank_clock []
  rw [List.append_nil] at hclock htrim
  rw [← h, ofClock?_parts, Option.map_some] at hclock
  have hread : readWith? .blank (t.date.chars ++ ' ' :: t.clock) = .some t := by
    simp only [readWith?, hdate, Separator.skip, htrim, hclock, whole, Option.bind_eq_bind, Option.bind_some]
  rw [read?, hread, Option.some_or]

/-- **A timestamp without zone is read from its text without its fraction.** -/
theorem read?_text (t : Timestamp) : read? t.text.toList = .some t.wholeSeconds := by
  have hread := read?_text_of_whole t.fraction_wholeSeconds
  rw [clock_wholeSeconds] at hread
  rw [text, String.toList_ofList]
  exact hread

/-! ## In UTC -/

/-- The offset of a text in UTC. -/
def utcOffset : List Char := ['+', '0', '0', ':', '0', '0']

/-- The characters of the text in UTC. -/
def utcChars (t : Timestamp) : List Char :=
  t.date.chars ++ 'T' :: (t.clock ++ (t.fractionText ++ utcOffset))

theorem noDigit_utcOffset : NoDigit utcOffset := noDigit_cons (by decide) _

theorem toList_utcText (t : Timestamp) : t.utcText.toList = t.utcChars := by
  rw [utcText, String.toList_ofList, utcChars]
  simp only [List.append_assoc, List.cons_append]
  rfl

theorem isTrimmed_utcText (t : Timestamp) : IsTrimmed t.utcText.toList := by
  have hfraction : IsVisible t.fractionText := by
    have hgroups (width n : Nat) : IsVisible ('.' :: padded width n) :=
      (isVisible_padded width n).cons (by decide)
    rw [fractionText]
    split
    · simp [IsVisible]
    · split
      · exact hgroups 3 _
      · split
        · exact hgroups 6 _
        · exact hgroups 9 _
  have hoffset : IsVisible utcOffset := by
    have hall : utcOffset.all (!isBlank ·) = true := by decide
    simpa [IsVisible] using hall
  rw [toList_utcText]
  exact (t.date.isVisible_chars.append
    ((t.isVisible_clock.append (hfraction.append hoffset)).cons (by decide))).isTrimmed

/-- A fraction is read from the groups of digits that hold it. -/
theorem scanFraction_fractionText (t : Timestamp) :
    scanFraction (t.fractionText ++ utcOffset) = .some (t.fraction, utcOffset) := by
  have hfraction : t.fraction < 1000000000 := t.clock_bounds.2.2.2
  have hgroups {width n : Nat} (hwidth : 0 < width) (hmost : width ≤ 9) (hn : n < 10 ^ width)
      (hvalue : n * 10 ^ (9 - width) = t.fraction) :
      scanFraction ('.' :: padded width n ++ utcOffset) = .some (t.fraction, utcOffset) := by
    rw [List.cons_append, scanFraction, scanNanos_padded hwidth hmost hn noDigit_utcOffset, hvalue]
  rw [fractionText]
  split
  · rename_i hzero
    rw [hzero]
    rfl
  · split
    · exact hgroups (by omega) (by omega) (by omega) (by omega)
    · split
      · exact hgroups (by omega) (by omega) (by omega) (by omega)
      · exact hgroups (by omega) (by omega) (by omega) (by omega)

theorem noDigit_fractionText (t : Timestamp) : NoDigit (t.fractionText ++ utcOffset) := by
  have hdot (after : List Char) : NoDigit ('.' :: after) := noDigit_cons (by decide) after
  rw [fractionText]
  split
  · exact noDigit_utcOffset
  · split
    · exact hdot _
    · split
      · exact hdot _
      · exact hdot _

/-- An offset of nothing changes nothing. -/
theorem minusMinutes?_zero (t : Timestamp) : t.minusMinutes? 0 = .some t := by
  have hsecond := (isTime_iff.1 t.is_time).1
  have hday : (t.date.number * secondsPerDay + t.second - 0 * 60) / secondsPerDay = t.date.number := by
    unfold secondsPerDay
    omega
  have hrest : ((t.date.number * secondsPerDay + t.second - 0 * 60) % secondsPerDay).toNat = t.second := by
    unfold secondsPerDay
    omega
  simp only [minusMinutes?, hday, hrest, Date.ofNumber?_number, Option.bind_some, make?_parts]

theorem scanStrictSeparator_cons {separator : Char} (h : separator ∈ ['T', 't', ' ']) (rest : List Char) :
    scanStrictSeparator (separator :: rest) = .some rest := by
  have hseparator : (separator == 'T' || separator == 't' || separator == ' ') = true := by
    simpa [or_assoc] using h
  rw [scanStrictSeparator, if_pos hseparator]

/-- The strict form reads a day and a clock in full width, and an offset behind them. -/
theorem readStrict?_parts {year month day hour minute second fraction offset : List Char} {separator : Char}
    {date : Date} {nano : Nat} {minutes : Int} {t u : Timestamp} (hyear : AreDigits 4 year)
    (hmonth : AreDigits 2 month) (hday : AreDigits 2 day)
    (hdate : Date.make? (valueOf year) (valueOf month) (valueOf day) = .some date)
    (hseparator : separator ∈ ['T', 't', ' ']) (hhour : AreDigits 2 hour) (hminute : AreDigits 2 minute)
    (hsecond : AreDigits 2 second) (hfraction : scanFraction fraction = .some (nano, offset))
    (hoffset : whole (scanOffset offset) = .some minutes)
    (hclock : ofClock? date (valueOf hour) (valueOf minute) (valueOf second) nano = .some t)
    (hmoved : t.minusMinutes? minutes = .some u) :
    readStrict? (year ++ '-' :: (month ++ '-' :: (day ++ separator ::
      (hour ++ ':' :: (minute ++ ':' :: (second ++ fraction)))))) = .some u := by
  refine Option.bind_eq_some_iff.2 ⟨_, scanExact_digits hyear _, ?_⟩
  refine Option.bind_eq_some_iff.2 ⟨_, scanChar_self '-' _, ?_⟩
  refine Option.bind_eq_some_iff.2 ⟨_, scanExact_digits hmonth _, ?_⟩
  refine Option.bind_eq_some_iff.2 ⟨_, scanChar_self '-' _, ?_⟩
  refine Option.bind_eq_some_iff.2 ⟨_, scanExact_digits hday _, ?_⟩
  refine Option.bind_eq_some_iff.2 ⟨_, scanStrictSeparator_cons hseparator _, ?_⟩
  refine Option.bind_eq_some_iff.2 ⟨_, scanExact_digits hhour _, ?_⟩
  refine Option.bind_eq_some_iff.2 ⟨_, scanChar_self ':' _, ?_⟩
  refine Option.bind_eq_some_iff.2 ⟨_, scanExact_digits hminute _, ?_⟩
  refine Option.bind_eq_some_iff.2 ⟨_, scanChar_self ':' _, ?_⟩
  refine Option.bind_eq_some_iff.2 ⟨_, scanExact_digits hsecond _, ?_⟩
  refine Option.bind_eq_some_iff.2 ⟨_, hfraction, ?_⟩
  refine Option.bind_eq_some_iff.2 ⟨_, hoffset, ?_⟩
  refine Option.bind_eq_some_iff.2 ⟨_, hdate, ?_⟩
  exact Option.bind_eq_some_iff.2 ⟨_, hclock, hmoved⟩

/-- The strict form reads a text in UTC of which the year has four digits. -/
theorem readStrict?_utcChars {t : Timestamp} (h : 0 ≤ t.date.year ∧ t.date.year ≤ 9999) :
    readStrict? t.utcChars = .some t := by
  have hmonth := t.date.month_bounds
  have hday := t.date.day_bounds
  obtain ⟨hhour, hminute, hsecond, -⟩ := t.clock_bounds
  have hdate : Date.make? (t.date.year.toNat : Int) t.date.month t.date.day = .some t.date := by
    rw [Int.toNat_of_nonneg h.1, Date.make?_parts]
  have hdigits {n : Nat} (hn : n < 100) : AreDigits 2 (padded 2 n) := areDigits_padded (by omega) hn
  have hread := readStrict?_parts (areDigits_padded (by omega) (by omega : t.date.year.toNat < 10 ^ 4))
    (hdigits (by omega : t.date.month < 100)) (hdigits (by omega : t.date.day < 100))
    (by simpa only [valueOf_padded] using hdate) (by simp : 'T' ∈ ['T', 't', ' '])
    (hdigits (by omega : t.hour < 100)) (hdigits (by omega : t.minute < 100))
    (hdigits (by omega : t.secondOfMinute < 100)) t.scanFraction_fractionText
    (by decide : whole (scanOffset utcOffset) = .some 0)
    (by simpa only [valueOf_padded] using t.ofClock?_parts) t.minusMinutes?_zero
  simpa only [utcChars, Date.chars, clock, yearText, if_pos h, List.append_assoc, List.cons_append] using hread

/-- A text in UTC is read if its year has four digits. -/
theorem readUtc?_utcText {t : Timestamp} (h : 0 ≤ t.date.year ∧ t.date.year ≤ 9999) :
    readUtc? t.utcText.toList = .some t := by
  rw [toList_utcText, readUtc?, readStrict?_utcChars h, Option.some_or]

/-- A year of another width has a sign, which the strict form does not take. -/
theorem readStrict?_utcChars_of_wide {t : Timestamp} (h : ¬ (0 ≤ t.date.year ∧ t.date.year ≤ 9999)) :
    readStrict? t.utcChars = .none := by
  have hsign {sign : Char} (hsign : sign.isDigit = false) (rest : List Char) : readStrict? (sign :: rest) = .none := by
    have hscan : scanExact 4 (sign :: rest) = .none := by
      simp [scanExact, hsign]
    rw [readStrict?, hscan]
    rfl
  rw [utcChars, Date.chars, yearText, if_neg h]
  split
  · exact hsign (by decide) _
  · exact hsign (by decide) _

/-- The forms without offset do not read a text in UTC. -/
theorem read?_utcChars (t : Timestamp) : read? t.utcChars = .none := by
  have hletterNext : NoDigit ('T' :: (t.clock ++ (t.fractionText ++ utcOffset))) := noDigit_cons (by decide) _
  have hdate := scanDate_chars t.date hletterNext
  have hclock := scanClock_clock t.date t t.noDigit_fractionText t.scanFraction_fractionText
  have hletter (rest : List Char) : scanField 2 ('T' :: rest) = .none := by
    simp [scanField, scanNumber, trimStart, isBlank]
  have hblank : readWith? .blank t.utcChars = .none := by
    simp [readWith?, utcChars, hdate, Separator.skip, trimStart, isBlank, scanClock, hletter, whole]
  have hoffset : readWith? .letter t.utcChars = .none := by
    simp only [readWith?, utcChars, hdate, Separator.skip, scanChar_self, hclock, ofClock?_parts, whole,
      Option.bind_eq_bind, Option.bind_some, Option.map_some]
    rfl
  have hmidnight : Date.read? t.utcChars = .none := by
    rw [Date.read?, utcChars, hdate, whole]
    simp
  rw [read?, hblank, hoffset, hmidnight]
  rfl

/-- **A text in UTC of which the year has not four digits is not read at all.** -/
theorem readUtc?_utcText_of_wide {t : Timestamp} (h : ¬ (0 ≤ t.date.year ∧ t.date.year ≤ 9999)) :
    readUtc? t.utcText.toList = .none := by
  rw [toList_utcText, readUtc?, readStrict?_utcChars_of_wide h, read?_utcChars]
  rfl

end Timestamp

end ParamQuery.Calendar
