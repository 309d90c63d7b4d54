/-
Dates and timestamps are read from the texts that they are shown as.

A date always is (`coerce_date_display`). A timestamp without zone comes
back without its fraction of a second, which its text does not have
(`coerce_timestamp_display`). A timestamp in UTC comes back whole, but only
if its year has four digits; else its text is refused
(`coerce_timestampUtc_display`, `coerce_timestampUtc_display_of_wide`).
-/
import ParamQuery.Proofs.Calendar.Reader
import ParamQuery.Value.Coercion

namespace ParamQuery.Value

open Calendar (Date Timestamp)

theorem coerce_date_display (d : Date) : Scalar.date.coerce (.text (Value.date d).display) = .ok (.date d) := by
  have hread : readDate d.text = .ok d := by
    rw [readDate, Date.text, String.toList_ofList, d.isVisible_chars.isTrimmed.trim, Date.read?_chars]
  rw [display, Scalar.coerce, toDate, hread]
  rfl

theorem coerce_timestamp_display (t : Timestamp) :
    Scalar.timestamp.coerce (.text (Value.timestamp t).display) = .ok (.timestamp t.wholeSeconds) := by
  have hread : readTimestamp t.text = .ok t.wholeSeconds := by
    rw [readTimestamp, t.isTrimmed_text.trim, t.read?_text]
  rw [display, Scalar.coerce, toTimestamp, hread]
  rfl

theorem coerce_timestampUtc_display {t : Timestamp} (h : 0 ≤ t.date.year ∧ t.date.year ≤ 9999) :
    Scalar.timestampUtc.coerce (.text (Value.timestampUtc t).display) = .ok (.timestampUtc t) := by
  have hread : readTimestampUtc t.utcText = .ok t := by
    rw [readTimestampUtc, t.isTrimmed_utcText.trim, Timestamp.readUtc?_utcText h]
  rw [display, Scalar.coerce, toTimestampUtc, hread]
  rfl

theorem coerce_timestampUtc_display_of_wide {t : Timestamp} (h : ¬ (0 ≤ t.date.year ∧ t.date.year ≤ 9999)) :
    Scalar.timestampUtc.coerce (.text (Value.timestampUtc t).display) =
      .error (.badText (Value.timestampUtc t).display "a timestamp") := by
  have htrim := t.isTrimmed_utcText.trim
  have hread : readTimestampUtc t.utcText = .error (.badText t.utcText "a timestamp") := by
    rw [readTimestampUtc, htrim, Timestamp.readUtc?_utcText_of_wide h, Text.trimmed, htrim, String.ofList_toList]
  rw [display, Scalar.coerce, toTimestampUtc, hread]
  rfl

/-- **Which dates and timestamps their texts keep.** Every date; a timestamp without zone exactly if it
is at a whole second; a timestamp in UTC exactly if its year has four digits. -/
theorem temporal_display_kept (d : Date) (t : Timestamp) :
    Scalar.date.coerce (.text (Value.date d).display) = .ok (.date d) ∧
      (Scalar.timestamp.coerce (.text (Value.timestamp t).display) = .ok (.timestamp t) ↔ t.fraction = 0) ∧
      (Scalar.timestampUtc.coerce (.text (Value.timestampUtc t).display) = .ok (.timestampUtc t) ↔
        0 ≤ t.date.year ∧ t.date.year ≤ 9999) := by
  refine ⟨coerce_date_display d, ?_, ?_⟩
  · rw [coerce_timestamp_display, Except.ok.injEq, Value.timestamp.injEq, t.wholeSeconds_eq_self_iff]
  · by_cases hyear : 0 ≤ t.date.year ∧ t.date.year ≤ 9999
    · simp only [coerce_timestampUtc_display hyear, hyear, and_self]
    · simp only [coerce_timestampUtc_display_of_wide hyear, hyear, reduceCtorEq]

/-- The beginning of the year 12345. -/
def farMidnight : Timestamp := .midnight ⟨12345, 1, 1, by decide⟩

/-- Half a second into 1970. -/
def halfSecond : Timestamp := ⟨.epoch, 0, 500000000, by decide⟩

/-- Neither is in a leap second; the text of the one is refused, the other loses its fraction. -/
theorem temporal_display_lost :
    (farMidnight.nano < Calendar.nanosPerSecond ∧
      (Value.timestampUtc farMidnight).display = "+12345-01-01T00:00:00+00:00" ∧
      Scalar.timestampUtc.coerce (.text (Value.timestampUtc farMidnight).display) =
        .error (.badText "+12345-01-01T00:00:00+00:00" "a timestamp")) ∧
    (halfSecond.nano < Calendar.nanosPerSecond ∧
      (Value.timestamp halfSecond).display = "1970-01-01 00:00:00" ∧
      Scalar.timestamp.coerce (.text (Value.timestamp halfSecond).display) =
        .ok (.timestamp (.midnight .epoch)) ∧
      halfSecond ≠ .midnight .epoch) := by
  have hfar : (Value.timestampUtc farMidnight).display = "+12345-01-01T00:00:00+00:00" := by decide +kernel
  have hhalf : (Value.timestamp halfSecond).display = "1970-01-01 00:00:00" := by decide +kernel
  refine ⟨⟨by decide, hfar, ?_⟩, by decide, hhalf, ?_, by decide⟩
  · rw [coerce_timestampUtc_display_of_wide (by decide), hfar]
  · rw [coerce_timestamp_display]
    rfl

end ParamQuery.Value
