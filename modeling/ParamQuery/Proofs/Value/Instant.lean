/-
Texts as timestamps with and without zone.

The two read a text in different orders of forms, but no text has two
readings: what a field without zone holds after it, one in UTC holds too,
a date among it. The other way round exactly the texts with an offset make
a difference: one in UTC takes all of them, a field without zone none
(`timestamps_of_text`).
-/
import ParamQuery.Proofs.Calendar.Offset
import ParamQuery.Value.Coercion

namespace ParamQuery.Value

open Calendar (Date Timestamp HasOffset)
open Text (trim)

theorem toDate_text_eq_ok_iff {s : String} {d : Date} :
    toDate (.text s) = .ok d ↔ Date.read? (trim s.toList) = .some d := by
  rw [toDate, readDate]
  cases Date.read? (trim s.toList) <;> simp

theorem toTimestamp_text_eq_ok_iff {s : String} {t : Timestamp} :
    toTimestamp (.text s) = .ok t ↔ Timestamp.read? (trim s.toList) = .some t := by
  rw [toTimestamp, readTimestamp]
  cases Timestamp.read? (trim s.toList) <;> simp

theorem toTimestampUtc_text_eq_ok_iff {s : String} {t : Timestamp} :
    toTimestampUtc (.text s) = .ok t ↔ Timestamp.readUtc? (trim s.toList) = .some t := by
  rw [toTimestampUtc, readTimestampUtc]
  cases Timestamp.readUtc? (trim s.toList) <;> simp

/-- **A text means one instant for both kinds of timestamps**, blanks around it apart: the clock that it
shows, in UTC, and of a date the midnight; only a text with an offset is left to timestamps in UTC. -/
theorem timestamps_of_text (s : String) :
    (∀ t, toTimestamp (.text s) = .ok t → toTimestampUtc (.text s) = .ok t) ∧
    (∀ d, toDate (.text s) = .ok d →
      toTimestamp (.text s) = .ok (.midnight d) ∧ toTimestampUtc (.text s) = .ok (.midnight d)) ∧
    (∀ t, toTimestampUtc (.text s) = .ok t → ¬ HasOffset (trim s.toList) → toTimestamp (.text s) = .ok t) ∧
    (HasOffset (trim s.toList) ↔ ∃ t, toTimestampUtc (.text s) = .ok t ∧ toTimestamp (.text s) ≠ .ok t) := by
  simp only [ne_eq, toDate_text_eq_ok_iff, toTimestamp_text_eq_ok_iff, toTimestampUtc_text_eq_ok_iff]
  refine ⟨fun t => Timestamp.readUtc?_of_read?, fun d hd => ?_, fun t => Timestamp.read?_of_readUtc?, ?_, ?_⟩
  · have hmidnight := Timestamp.read?_of_date hd
    exact ⟨hmidnight, Timestamp.readUtc?_of_read? hmidnight⟩
  · rintro ⟨z, hz⟩
    obtain ⟨t, ht⟩ := z.exists_readStrict?
    rw [← hz, Timestamp.readUtc?, ht, z.read?_chars]
    exact ⟨t, rfl, by simp⟩
  · rintro ⟨t, hutc, hnaive⟩
    by_contra hoffset
    exact hnaive (Timestamp.read?_of_readUtc? hutc hoffset)

/-- In the middle of a leap second at the end of a year. -/
def leapSecond : Timestamp := ⟨⟨2016, 12, 31, by decide⟩, 86399, 1500000000, by decide⟩

example : toTimestamp (.text " 2016-12-31 23:59:60.5\n") = .ok leapSecond :=
  toTimestamp_text_eq_ok_iff.2 (by decide +kernel)

example : toTimestampUtc (.text " 2016-12-31T18:59:60.5-05:00\n") = .ok leapSecond :=
  toTimestampUtc_text_eq_ok_iff.2 (by decide +kernel)

end ParamQuery.Value
