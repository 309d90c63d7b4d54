/-
Texts with an offset.

The strict form is that of RFC 3339: date and clock in full width, and an
offset behind them (`OffsetText`). It reads these texts and nothing else
(`hasOffset_iff`). The loose form reads date and clock of such a text too,
but then the offset is left (`OffsetText.read?_chars`). So no text is read
in both ways, and what the loose form reads, a date among it, is read the
same where the strict one is tried first (`Timestamp.readUtc?_of_read?`).
-/
import ParamQuery.Proofs.Calendar.Reader

namespace ParamQuery.Calendar

open Number (valueOf)
open Text (trimStart isBlank)

/-! ## Parts of a text -/

/-- A fraction of a second: nothing, or a point and digits. -/
inductive IsFraction : List Char → Prop
  | none : IsFraction []
  | digits {ds : List Char} (ne_nil : ds ≠ []) (isDigit : ∀ c ∈ ds, c.isDigit = true) : IsFraction ('.' :: ds)

/-- An offset: the letter of UTC, or a sign with hours and minutes, less than a day. For a minus there
is a hyphen or the sign of its own. -/
inductive IsOffset : List Char → Prop
  | utc {letter : Char} (letter_mem : letter ∈ ['Z', 'z']) : IsOffset [letter]
  | hours {sign : Char} {hours minutes : List Char} (sign_mem : sign ∈ ['+', '-', '\u2212'])
      (hours_digits : AreDigits 2 hours) (minutes_digits : AreDigits 2 minutes)
      (hours_lt : valueOf hours < 24) (minutes_lt : valueOf minutes < 60) :
      IsOffset (sign :: (hours ++ ':' :: minutes))

/-- A text in the form of RFC 3339: a day and a time in full width, perhaps a fraction, and an offset. -/
structure OffsetText where
  year : List Char
  month : List Char
  day : List Char
  separator : Char
  hour : List Char
  minute : List Char
  second : List Char
  fraction : List Char
  offset : List Char
  year_digits : AreDigits 4 year
  month_digits : AreDigits 2 month
  day_digits : AreDigits 2 day
  is_day : isDay (valueOf year) (valueOf month) (valueOf day) = true
  separator_mem : separator ∈ ['T', 't', ' ']
  hour_digits : AreDigits 2 hour
  minute_digits : AreDigits 2 minute
  second_digits : AreDigits 2 second
  is_clock : valueOf hour < 24 ∧ valueOf minute < 60 ∧ valueOf second ≤ 60
  is_fraction : IsFraction fraction
  is_offset : IsOffset offset

namespace OffsetText

/-- The clock with the offset. -/
def clock (z : OffsetText) : List Char :=
  z.hour ++ ':' :: (z.minute ++ ':' :: (z.second ++ (z.fraction ++ z.offset)))

/-- The whole text. -/
def chars (z : OffsetText) : List Char :=
  z.year ++ '-' :: (z.month ++ '-' :: (z.day ++ z.separator :: z.clock))

end OffsetText

/-- The text is one with an offset. -/
def HasOffset (cs : List Char) : Prop := ∃ z : OffsetText, z.chars = cs

/-! ## What the strict form reads -/

theorem areDigits_of_scanExact {width n : Nat} {cs rest : List Char} (h : scanExact width cs = .some (n, rest)) :
    ∃ ds, AreDigits width ds ∧ cs = ds ++ rest ∧ valueOf ds = n := by
  rw [scanExact] at h
  split at h
  · rename_i hds
    rw [Bool.and_eq_true, decide_eq_true_eq, List.all_eq_true] at hds
    obtain ⟨hvalue, hrest⟩ := Prod.mk.inj (Option.some.inj h)
    exact ⟨cs.take width, ⟨hds.1, hds.2⟩, by rw [← hrest, List.take_append_drop], hvalue⟩
  · cases h

theorem cons_of_scanChar {c : Char} {cs rest : List Char} (h : scanChar c cs = .some rest) : cs = c :: rest := by
  unfold scanChar at h
  split at h
  · split at h
    · rename_i hc
      rw [eq_of_beq hc, Option.some.inj h]
    · cases h
  · cases h

theorem isFraction_of_scanFraction {n : Nat} {cs rest : List Char} (h : scanFraction cs = .some (n, rest)) :
    ∃ fraction, IsFraction fraction ∧ cs = fraction ++ rest := by
  unfold scanFraction at h
  split at h
  · rename_i cs
    rw [scanNanos] at h
    split at h
    · cases h
    · rename_i hkept
      obtain ⟨-, hrest⟩ := Prod.mk.inj (Option.some.inj h)
      refine ⟨'.' :: cs.takeWhile Char.isDigit, .digits (fun hnil => hkept (by simp [hnil])) ?_, ?_⟩
      · intro c hc
        exact List.mem_takeWhile_imp hc
      · rw [← hrest, List.cons_append]
        exact congrArg _ (List.prefix_iff_eq_append.1 (List.takeWhile_prefix Char.isDigit)).symm
  · obtain ⟨-, rfl⟩ := Prod.mk.inj (Option.some.inj h)
    exact ⟨[], .none, rfl⟩

theorem whole_eq_some_iff {α : Type} {read : Option (α × List Char)} {a : α} :
    whole read = .some a ↔ read = .some (a, []) := by
  unfold whole
  split
  · simp
  · rename_i hne
    constructor
    · intro h
      cases h
    · intro h
      exact absurd h (hne a)

theorem isDay_of_make? {year : Int} {month day : Nat} {d : Date} (h : Date.make? year month day = .some d) :
    isDay year month day = true := by
  rw [Date.make?] at h
  split at h
  · assumption
  · cases h

namespace Timestamp

theorem isClock_of_ofClock? {date : Date} {hour minute second nano : Nat} {t : Timestamp}
    (h : ofClock? date hour minute second nano = .some t) : hour < 24 ∧ minute < 60 ∧ second ≤ 60 := by
  rw [ofClock?] at h
  split at h
  · rename_i hclock
    exact ⟨hclock.1, hclock.2.1, hclock.2.2.1⟩
  · cases h

theorem isOffset_of_scanOffset {n : Int} {cs : List Char} (h : whole (scanOffset cs) = .some n) : IsOffset cs := by
  rw [whole_eq_some_iff] at h
  unfold scanOffset at h
  split at h
  · rename_i c cs
    split at h
    · rename_i hletter
      obtain ⟨-, rfl⟩ := Prod.mk.inj (Option.some.inj h)
      exact .utc (by simpa using hletter)
    · split at h
      · rename_i hsign
        simp only [Option.bind_eq_bind, Option.bind_eq_some_iff] at h
        obtain ⟨⟨hours, behindHours⟩, hhours, behindColon, hcolon, ⟨minutes, behind⟩, hminutes, h⟩ := h
        split at h
        · rename_i hday
          obtain ⟨-, rfl⟩ := Prod.mk.inj (Option.some.inj h)
          obtain ⟨hours, hoursDigits, rfl, rfl⟩ := areDigits_of_scanExact hhours
          obtain ⟨minutes, minutesDigits, rfl, rfl⟩ := areDigits_of_scanExact hminutes
          obtain rfl : behindHours = ':' :: (minutes ++ []) := cons_of_scanChar hcolon
          rw [List.append_nil]
          exact .hours (by simpa [or_assoc] using hsign) hoursDigits minutesDigits hday.1 hday.2
        · cases h
      · cases h
  · cases h

theorem eq_cons_of_scanStrictSeparator {cs rest : List Char} (h : scanStrictSeparator cs = .some rest) :
    ∃ separator ∈ ['T', 't', ' '], cs = separator :: rest := by
  unfold scanStrictSeparator at h
  split at h
  · rename_i c cs
    split at h
    · rename_i hseparator
      exact ⟨c, by simpa [or_assoc] using hseparator, by rw [Option.some.inj h]⟩
    · cases h
  · cases h

/-- The strict form reads nothing but texts with an offset. -/
theorem hasOffset_of_readStrict? {cs : List Char} {t : Timestamp} (h : readStrict? cs = .some t) :
    HasOffset cs := by
  obtain ⟨⟨year, behindYear⟩, hyear, h⟩ := Option.bind_eq_some_iff.1 h
  obtain ⟨atMonth, hdash, h⟩ := Option.bind_eq_some_iff.1 h
  obtain ⟨⟨month, behindMonth⟩, hmonth, h⟩ := Option.bind_eq_some_iff.1 h
  obtain ⟨atDay, hdash', h⟩ := Option.bind_eq_some_iff.1 h
  obtain ⟨⟨day, behindDay⟩, hday, h⟩ := Option.bind_eq_some_iff.1 h
  obtain ⟨atHour, hseparator, h⟩ := Option.bind_eq_some_iff.1 h
  obtain ⟨⟨hour, behindHour⟩, hhour, h⟩ := Option.bind_eq_some_iff.1 h
  obtain ⟨atMinute, hcolon, h⟩ := Option.bind_eq_some_iff.1 h
  obtain ⟨⟨minute, behindMinute⟩, hminute, h⟩ := Option.bind_eq_some_iff.1 h
  obtain ⟨atSecond, hcolon', h⟩ := Option.bind_eq_some_iff.1 h
  obtain ⟨⟨second, behindSecond⟩, hsecond, h⟩ := Option.bind_eq_some_iff.1 h
  obtain ⟨⟨nano, offset⟩, hfraction, h⟩ := Option.bind_eq_some_iff.1 h
  obtain ⟨minutes, hoffset, h⟩ := Option.bind_eq_some_iff.1 h
  obtain ⟨date, hdate, h⟩ := Option.bind_eq_some_iff.1 h
  obtain ⟨made, hmade, -⟩ := Option.bind_eq_some_iff.1 h
  obtain ⟨year, yearDigits, rfl, rfl⟩ := areDigits_of_scanExact hyear
  obtain ⟨month, monthDigits, rfl, rfl⟩ := areDigits_of_scanExact hmonth
  obtain ⟨day, dayDigits, rfl, rfl⟩ := areDigits_of_scanExact hday
  obtain ⟨hour, hourDigits, rfl, rfl⟩ := areDigits_of_scanExact hhour
  obtain ⟨minute, minuteDigits, rfl, rfl⟩ := areDigits_of_scanExact hminute
  obtain ⟨second, secondDigits, rfl, rfl⟩ := areDigits_of_scanExact hsecond
  obtain ⟨fraction, isFraction, rfl⟩ := isFraction_of_scanFraction hfraction
  obtain rfl : behindYear = '-' :: (month ++ behindMonth) := cons_of_scanChar hdash
  obtain rfl : behindMonth = '-' :: (day ++ behindDay) := cons_of_scanChar hdash'
  obtain ⟨separator, isSeparator, rfl⟩ := eq_cons_of_scanStrictSeparator hseparator
  obtain rfl : behindHour = ':' :: (minute ++ behindMinute) := cons_of_scanChar hcolon
  obtain rfl : behindMinute = ':' :: (second ++ (fraction ++ offset)) := cons_of_scanChar hcolon'
  exact ⟨{
    year, month, day, separator, hour, minute, second, fraction, offset
    year_digits := yearDigits
    month_digits := monthDigits
    day_digits := dayDigits
    is_day := isDay_of_make? hdate
    separator_mem := isSeparator
    hour_digits := hourDigits
    minute_digits := minuteDigits
    second_digits := secondDigits
    is_clock := isClock_of_ofClock? hmade
    is_fraction := isFraction
    is_offset := isOffset_of_scanOffset hoffset }, rfl⟩

end Timestamp

/-! ## What the loose form makes of them -/

theorem AreDigits.ne_nil {width : Nat} {ds : List Char} (h : AreDigits width ds) (hwidth : 0 < width) : ds ≠ [] :=
  List.ne_nil_of_length_pos (by rw [h.length_eq]; exact hwidth)

theorem scanField_digits {ds rest : List Char} (h : AreDigits 2 ds) (hrest : NoDigit rest) :
    scanField 2 (ds ++ rest) = .some (valueOf ds, rest) := by
  have hne := h.ne_nil (by omega)
  rw [scanField, trimStart_append_of_digits hne h.isDigit,
    scanNumber_append hne h.isDigit h.length_eq.le hrest]

theorem scanYear_digits {ds rest : List Char} (h : AreDigits 4 ds) (hrest : NoDigit rest) :
    scanYear (ds ++ rest) = .some ((valueOf ds : Int), rest) := by
  have hne := h.ne_nil (by omega)
  obtain ⟨d, ds', hcons⟩ := List.exists_cons_of_ne_nil hne
  have hdigit : d.isDigit = true := h.isDigit d (by simp [hcons])
  have hplus : d ≠ '+' := by rintro rfl; simp at hdigit
  have hminus : d ≠ '-' := by rintro rfl; simp at hdigit
  rw [scanYear, trimStart_append_of_digits hne h.isDigit]
  split
  · simp_all
  · simp_all
  · rw [scanNumber_append hne h.isDigit h.length_eq.le hrest]
    rfl

/-- An offset starts with a character that goes on with no number and no fraction. -/
theorem IsOffset.exists_cons {offset : List Char} (h : IsOffset offset) :
    ∃ c rest, offset = c :: rest ∧ c.isDigit = false ∧ c ≠ '.' := by
  have hletters : ∀ c ∈ ['Z', 'z'], c.isDigit = false ∧ c ≠ '.' := by simp [Char.isDigit]
  have hsigns : ∀ c ∈ ['+', '-', '\u2212'], c.isDigit = false ∧ c ≠ '.' := by simp [Char.isDigit]
  cases h with
  | utc hletter => exact ⟨_, _, rfl, hletters _ hletter⟩
  | hours hsign => exact ⟨_, _, rfl, hsigns _ hsign⟩

/-- Behind a fraction the offset is left. -/
theorem scanFraction_append {fraction offset : List Char} (hfraction : IsFraction fraction)
    (hoffset : IsOffset offset) :
    NoDigit (fraction ++ offset) ∧
      ∃ nano < nanosPerSecond, scanFraction (fraction ++ offset) = .some (nano, offset) := by
  obtain ⟨c, rest, rfl, hdigit, hpoint⟩ := hoffset.exists_cons
  cases hfraction with
  | none =>
    refine ⟨noDigit_cons hdigit rest, 0, by decide, ?_⟩
    rw [List.nil_append, scanFraction]
    simpa using hpoint
  | @digits ds hne hds =>
    have hvalue : valueOf (ds.take 9) * 10 ^ (9 - (ds.take 9).length) < nanosPerSecond := by
      have hkept : (ds.take 9).length ≤ 9 := List.length_take_le 9 ds
      calc valueOf (ds.take 9) * 10 ^ (9 - (ds.take 9).length)
          < 10 ^ (ds.take 9).length * 10 ^ (9 - (ds.take 9).length) :=
            Nat.mul_lt_mul_of_pos_right (Number.valueOf_lt fun c hc => hds c (List.mem_of_mem_take hc))
              (Nat.pow_pos (by decide))
        _ = 10 ^ 9 := by rw [← Nat.pow_add, Nat.add_sub_cancel' hkept]
    refine ⟨noDigit_cons (by decide) _, _, hvalue, ?_⟩
    have hrun := takeWhile_isDigit_append hds (noDigit_cons hdigit rest)
    have hkept : ds.take 9 ≠ [] := by simpa using hne
    rw [List.cons_append, scanFraction, scanNanos]
    simp [hrun, hkept]

namespace OffsetText

/-- The day of a text. -/
def date (z : OffsetText) : Date := ⟨valueOf z.year, valueOf z.month, valueOf z.day, z.is_day⟩

theorem separator_cases (z : OffsetText) :
    z.separator = 'T' ∨ z.separator = 't' ∨ z.separator = ' ' := by
  simpa using z.separator_mem

theorem scanDate_chars (z : OffsetText) : scanDate z.chars = .some (z.date, z.separator :: z.clock) := by
  have hdash (rest : List Char) : NoDigit ('-' :: rest) := noDigit_cons (by decide) rest
  have hseparator : NoDigit (z.separator :: z.clock) := by
    rcases z.separator_cases with h | h | h <;> exact noDigit_cons (by rw [h]; decide) _
  have hdate : Date.make? (valueOf z.year) (valueOf z.month) (valueOf z.day) = .some z.date := dif_pos z.is_day
  simp only [scanDate, chars, scanYear_digits z.year_digits (hdash _), scanField_digits z.month_digits (hdash _),
    scanField_digits z.day_digits hseparator, scanChar_self, hdate, Option.bind_eq_bind, Option.bind_some]

/-- A clock is read, and the offset is left. -/
theorem whole_scanClock (z : OffsetText) (date : Date) : whole (scanClock date z.clock) = .none := by
  have hcolon (rest : List Char) : NoDigit (':' :: rest) := noDigit_cons (by decide) rest
  obtain ⟨hdigit, nano, -, hfraction⟩ := scanFraction_append z.is_fraction z.is_offset
  obtain ⟨c, rest, hoffset, -⟩ := z.is_offset.exists_cons
  simp only [scanClock, clock, scanField_digits z.hour_digits (hcolon _), scanField_digits z.minute_digits (hcolon _),
    scanField_digits z.second_digits hdigit, scanChar_self, hfraction, Option.bind_eq_bind, Option.bind_some]
  cases Timestamp.ofClock? date (valueOf z.hour) (valueOf z.minute) (valueOf z.second) nano with
  | none => rfl
  | some t => rw [hoffset]; rfl

/-- No clock begins with a letter. -/
theorem whole_scanClock_letter {c : Char} (date : Date) (hc : isBlank c = false ∧ c.isDigit = false)
    (rest : List Char) : whole (scanClock date (trimStart (c :: rest))) = .none := by
  have htrim : trimStart (c :: rest) = c :: rest := List.dropWhile_cons_of_neg (by simp [hc.1])
  have hhour : scanField 2 (c :: rest) = .none := by
    rw [scanField, htrim]
    simp [scanNumber, hc.2]
  simp only [htrim, scanClock, hhour, Option.bind_eq_bind, Option.bind_none, whole]

theorem trimStart_blank_clock (z : OffsetText) : trimStart (' ' :: z.clock) = z.clock := by
  have hblank : trimStart (' ' :: z.clock) = trimStart z.clock := List.dropWhile_cons_of_pos (by decide)
  rw [hblank, clock, trimStart_append_of_digits (z.hour_digits.ne_nil (by omega)) z.hour_digits.isDigit]

/-- **The loose form reads no text with an offset.** -/
theorem read?_chars (z : OffsetText) : Timestamp.read? z.chars = .none := by
  have hclock := z.whole_scanClock z.date
  have hblank : Timestamp.readWith? .blank z.chars = .none := by
    simp only [Timestamp.readWith?, scanDate_chars, Separator.skip, Option.bind_eq_bind, Option.bind_some]
    rcases z.separator_cases with h | h | h
    · rw [h, whole_scanClock_letter _ (by decide)]
    · rw [h, whole_scanClock_letter _ (by decide)]
    · rw [h, trimStart_blank_clock, hclock]
  have hletter : Timestamp.readWith? .letter z.chars = .none := by
    simp only [Timestamp.readWith?, scanDate_chars, Separator.skip, Option.bind_eq_bind, Option.bind_some]
    rcases z.separator_cases with h | h | h
    · rw [h, scanChar_self, Option.bind_some, hclock]
    · rw [h]
      rfl
    · rw [h]
      rfl
  have hmidnight : Date.read? z.chars = .none := by
    rw [Date.read?, scanDate_chars]
    rfl
  rw [Timestamp.read?, hblank, hletter, hmidnight]
  rfl

end OffsetText

/-! ## What the strict form makes of them -/

namespace Timestamp

/-- An offset is less than a day. -/
theorem exists_scanOffset {offset : List Char} (h : IsOffset offset) :
    ∃ minutes, whole (scanOffset offset) = .some minutes ∧ -1440 < minutes ∧ minutes < 1440 := by
  cases h with
  | @utc letter hletter =>
    have hzulu : (letter == 'Z' || letter == 'z') = true := by simpa using hletter
    exact ⟨0, by simp only [scanOffset, hzulu, if_true, whole], by decide, by decide⟩
  | @hours sign hours minutes hsign hhours hminutes hday hhour =>
    have hletters : ∀ c ∈ ['+', '-', '\u2212'], (c == 'Z' || c == 'z') = false := by simp
    have hletter := hletters sign hsign
    have hsigns : (sign == '+' || sign == '-' || sign == '\u2212') = true := by simpa [or_assoc] using hsign
    have hend : scanExact 2 minutes = .some (valueOf minutes, []) := by
      simpa using scanExact_digits hminutes []
    have hscan : whole (scanOffset (sign :: (hours ++ ':' :: minutes))) =
        .some (if sign == '+' then ((valueOf hours * 60 + valueOf minutes : Nat) : Int)
          else -((valueOf hours * 60 + valueOf minutes : Nat) : Int)) := by
      simp only [scanOffset, hletter, hsigns, scanExact_digits hhours, scanChar_self, hend, Option.bind_eq_bind,
        Option.bind_some, hday, hhour, and_self, if_true, Bool.false_eq_true, if_false, whole]
    refine ⟨_, hscan, ?_⟩
    split <;> omega

theorem exists_ofClock? (date : Date) {hour minute second nano : Nat}
    (h : hour < 24 ∧ minute < 60 ∧ second ≤ 60) (hnano : nano < nanosPerSecond) :
    ∃ t, ofClock? date hour minute second nano = .some t ∧ t.date = date := by
  have hmake {second nano : Nat} (htime : isTime second nano = true) :
      ∃ t, make? date second nano = .some t ∧ t.date = date := ⟨⟨date, second, nano, htime⟩, dif_pos htime, rfl⟩
  rw [ofClock?, if_pos ⟨h.1, h.2.1, h.2.2, hnano⟩]
  unfold nanosPerSecond at *
  split
  · exact hmake (isTime_iff.2 (by omega))
  · exact hmake (isTime_iff.2 (by omega))

/-- Within a day of a year of four digits there is a clock for every offset. -/
theorem exists_minusMinutes? {t : Timestamp} (hyear : 0 ≤ t.date.year ∧ t.date.year ≤ 9999) {minutes : Int}
    (hminutes : -1440 < minutes ∧ minutes < 1440) : ∃ u, t.minusMinutes? minutes = .some u := by
  have hcycle := t.date.number_in_cycle
  have hmarch := t.date.marchYear_cases
  have htime := isTime_iff.1 t.is_time
  unfold Date.march0 at hcycle
  rw [minusMinutes?, secondsPerDay]
  generalize htotal : t.date.number * (86400 : Nat) + t.second - minutes * 60 = total
  obtain ⟨d, hd⟩ := Date.exists_number (n := total / (86400 : Nat)) (by omega)
  have hrest : isTime (total % (86400 : Nat)).toNat t.nano = true := isTime_iff.2 (by omega)
  refine ⟨⟨d, _, _, hrest⟩, ?_⟩
  rw [← hd, Date.ofNumber?_number, Option.bind_some]
  exact dif_pos hrest

end Timestamp

namespace OffsetText

/-- **The strict form reads every text with an offset.** -/
theorem exists_readStrict? (z : OffsetText) : ∃ t, Timestamp.readStrict? z.chars = .some t := by
  obtain ⟨-, nano, hnano, hfraction⟩ := scanFraction_append z.is_fraction z.is_offset
  obtain ⟨minutes, hoffset, hminutes⟩ := Timestamp.exists_scanOffset z.is_offset
  obtain ⟨t, ht, hdate⟩ := Timestamp.exists_ofClock? z.date z.is_clock hnano
  have hyear : 0 ≤ t.date.year ∧ t.date.year ≤ 9999 := by
    have hvalue := Number.valueOf_lt z.year_digits.isDigit
    rw [z.year_digits.length_eq] at hvalue
    have hwritten : z.date.year = valueOf z.year := rfl
    rw [hdate, hwritten]
    omega
  obtain ⟨u, hu⟩ := Timestamp.exists_minusMinutes? hyear hminutes
  exact ⟨u, Timestamp.readStrict?_parts z.year_digits z.month_digits z.day_digits (dif_pos z.is_day) z.separator_mem
    z.hour_digits z.minute_digits z.second_digits hfraction hoffset ht hu⟩

end OffsetText

/-- **The texts with an offset are those that the strict form reads.** -/
theorem hasOffset_iff {cs : List Char} : HasOffset cs ↔ ∃ t, Timestamp.readStrict? cs = .some t := by
  constructor
  · rintro ⟨z, rfl⟩
    exact z.exists_readStrict?
  · rintro ⟨t, ht⟩
    exact Timestamp.hasOffset_of_readStrict? ht

/-! ## One form after the other -/

/-- A date is read as its midnight, for no clock stands behind it. -/
theorem Timestamp.read?_of_date {cs : List Char} {d : Date} (h : Date.read? cs = .some d) :
    read? cs = .some (midnight d) := by
  have hdate := whole_eq_some_iff.1 h
  have hwith (sep : Separator) : readWith? sep cs = .none := by
    cases sep <;> simp only [readWith?, hdate, Option.bind_eq_bind, Option.bind_some] <;> rfl
  rw [read?, hwith, hwith, h]
  rfl

/-- What the loose form reads is not read otherwise where the strict form is tried first. -/
theorem Timestamp.readUtc?_of_read? {cs : List Char} {t : Timestamp} (h : read? cs = .some t) :
    readUtc? cs = .some t := by
  have hstrict : readStrict? cs = .none := by
    cases hread : readStrict? cs with
    | none => rfl
    | some t' =>
      obtain ⟨z, rfl⟩ := hasOffset_iff.2 ⟨t', hread⟩
      rw [z.read?_chars] at h
      cases h
  rw [readUtc?, hstrict, Option.none_or, h]

/-- What is read only where the strict form is tried has an offset. -/
theorem Timestamp.read?_of_readUtc? {cs : List Char} {t : Timestamp} (h : readUtc? cs = .some t)
    (hoffset : ¬ HasOffset cs) : read? cs = .some t := by
  cases hread : readStrict? cs with
  | none => rwa [readUtc?, hread, Option.none_or] at h
  | some t' => exact absurd (hasOffset_iff.2 ⟨t', hread⟩) hoffset

end ParamQuery.Calendar
