/-
Timestamps as microseconds.

An instant that is no whole number of microseconds is cut, and a leap
second becomes the second behind it; every other timestamp is the one of
its microseconds (`ofMicros?_micros_iff`).
-/
import ParamQuery.Calendar.Timestamp
import ParamQuery.Proofs.Calendar.Date

namespace ParamQuery.Calendar.Timestamp

/-- The instant is a whole number of microseconds, and not in a leap second. -/
def IsWhole (t : Timestamp) : Prop := t.nano < nanosPerSecond ∧ t.nano % 1000 = 0

instance (t : Timestamp) : Decidable t.IsWhole := inferInstanceAs (Decidable (_ ∧ _))

/-- Which seconds and nanoseconds are a time. -/
theorem isTime_iff {second nano : Nat} :
    isTime second nano = true ↔
      second < 86400 ∧ nano < 2000000000 ∧ (nano < 1000000000 ∨ second % 60 = 59) := by
  simp only [isTime, Bool.and_eq_true, Bool.or_eq_true, decide_eq_true_eq, beq_iff_eq, and_assoc]
  exact Iff.rfl

theorem fraction_eq (t : Timestamp) : t.fraction = t.nano % 1000000000 := rfl

theorem secondOfMinute_eq (t : Timestamp) : t.secondOfMinute = t.second % 60 + t.nano / 1000000000 := rfl

theorem make?_parts (t : Timestamp) : make? t.date t.second t.nano = .some t := dif_pos t.is_time

theorem bounds (t : Timestamp) : t.second < 86400 ∧ t.nano < 2000000000 :=
  (isTime_iff.1 t.is_time).imp_right And.left

theorem micros_eq (t : Timestamp) :
    t.micros = Int.tdiv ((t.date.number * 86400 + t.second) * 1000000000 + t.nano) 1000 := rfl

/-- The microseconds have room in eight bytes. -/
theorem micros_bounds (t : Timestamp) : -9223372036854775808 ≤ t.micros ∧ t.micros < 9223372036854775808 := by
  obtain ⟨hleast, hgreatest⟩ := t.date.number_bounds
  obtain ⟨hsecond, hnano⟩ := t.bounds
  rw [micros_eq, Int.tdiv_eq_ediv]
  have hsign : Int.sign 1000 = 1 := rfl
  split <;> omega

theorem micros_of_isWhole {t : Timestamp} (h : t.IsWhole) :
    t.micros = (t.date.number * 86400 + t.second) * 1000000 + (t.nano / 1000 : Nat) := by
  have hnanos : (t.date.number * 86400 + t.second) * 1000000000 + t.nano =
      ((t.date.number * 86400 + t.second) * 1000000 + (t.nano / 1000 : Nat)) * 1000 := by
    have := h.2
    omega
  rw [micros_eq, hnanos, Int.mul_tdiv_cancel _ (by decide)]

theorem ofMicros?_micros {t : Timestamp} (h : t.IsWhole) : ofMicros? t.micros = .some t := by
  obtain ⟨hsecond, -⟩ := t.bounds
  have hnano : t.nano / 1000 < 1000000 := by
    have := h.1
    unfold nanosPerSecond at this
    omega
  have hday : t.micros / 86400000000 = t.date.number := by
    rw [micros_of_isWhole h]
    omega
  have hrest : (t.micros % 86400000000).toNat = t.second * 1000000 + t.nano / 1000 := by
    rw [micros_of_isWhole h]
    omega
  have hof : ofMicros? t.micros = (Date.ofNumber? (t.micros / 86400000000)).bind fun date =>
      make? date ((t.micros % 86400000000).toNat / 1000000) ((t.micros % 86400000000).toNat % 1000000 * 1000) :=
    rfl
  have hclock : (t.second * 1000000 + t.nano / 1000) / 1000000 = t.second := by omega
  have hfraction : (t.second * 1000000 + t.nano / 1000) % 1000000 * 1000 = t.nano := by
    have := h.2
    omega
  rw [hof, hday, hrest, hclock, hfraction, Date.ofNumber?_number, Option.bind_some, make?_parts]

theorem nano_of_make? {date : Date} {second nano : Nat} {t : Timestamp}
    (h : make? date second nano = .some t) : t.nano = nano := by
  unfold make? at h
  split at h
  · rw [← Option.some.inj h]
  · simp at h

theorem isWhole_of_ofMicros? {us : Int} {t : Timestamp} (h : ofMicros? us = .some t) : t.IsWhole := by
  obtain ⟨date, -, hmake⟩ := Option.bind_eq_some_iff.1 h
  have hnano := nano_of_make? hmake
  unfold IsWhole nanosPerSecond
  omega

/-- **A timestamp is that of its microseconds** exactly if it is a whole number of them and in no leap
second. -/
theorem ofMicros?_micros_iff (t : Timestamp) : ofMicros? t.micros = .some t ↔ t.IsWhole :=
  ⟨isWhole_of_ofMicros?, ofMicros?_micros⟩

end ParamQuery.Calendar.Timestamp
