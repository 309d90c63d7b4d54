/-
Values that are written to a column and read back.

The kinds of a fixed width and those that are sent as they are go with
types of their own (`HeldAs`). A value of such a kind is sent for such a
type if it has room, and is read back as itself; a timestamp is read back as
the same instant in the kind of the type, exactly if it is a whole number of
microseconds and in no leap second (`ofCell_bind_iff`).
-/
import ParamQuery.Proofs.Calendar.Timestamp
import ParamQuery.Proofs.Value.Numbers
import ParamQuery.Value.Cell

namespace ParamQuery.Value

open Calendar (Date Timestamp)
open Number (bigEndian signedOfBigEndian IntRange)

/-- What a column of a type holds of a value that goes with the type: the value itself, or the same
instant in the kind of the type. -/
inductive HeldAs : (v : Value) → (type : PgType) → (w : Value) → Prop where
  | bool (b : Bool) : HeldAs (.bool b) .bool (.bool b)
  | int (i : Int64) {type : PgType} (htype : type ∈ [.int2, .int4, .int8]) : HeldAs (.int i) type (.int i)
  | text (s : String) {type : PgType} (htype : type.isText = true) : HeldAs (.text s) type (.text s)
  | date (d : Date) : HeldAs (.date d) .date (.date d)
  | timestamp (t : Timestamp) {v : Value} (hv : v ∈ [.timestamp t, .timestampUtc t]) :
    HeldAs v .timestamp (.timestamp t)
  | timestampUtc (t : Timestamp) {v : Value} (hv : v ∈ [.timestamp t, .timestampUtc t]) :
    HeldAs v .timestamptz (.timestampUtc t)
  | uuid (u : Uuid) : HeldAs (.uuid u) .uuid (.uuid u)
  | bytes (bs : List UInt8) : HeldAs (.bytes bs) .bytea (.bytes bs)

/-- Whether nothing in a value is finer than what a column holds. -/
def IsWhole : Value → Prop
  | .timestamp t | .timestampUtc t => t.IsWhole
  | _ => True

/-- A value is sent if it has room, and read back as `w` if nothing of it is lost. -/
structure IsReadAs (v : Value) (type : PgType) (w : Value) : Prop where
  sent : (∃ data, v.bind type = .ok (.some data)) ↔ v.Fits type
  read : ∀ cell, v.bind type = .ok cell → (ofCell type cell = .ok w ↔ v.IsWhole)

/-- A value that is always sent. -/
theorem isReadAs_of_bind {v w : Value} {type : PgType} {data : List UInt8}
    (hbind : v.bind type = .ok (.some data)) (hfits : v.Fits type)
    (hread : ofCell type (.some data) = .ok w ↔ v.IsWhole) : v.IsReadAs type w where
  sent := iff_of_true ⟨data, hbind⟩ hfits
  read cell hcell := by
    rw [hbind, Except.ok.injEq] at hcell
    rw [← hcell]
    exact hread

/-! ## Integers -/

/-- The range of a type is checked before an integer is sent in its width. -/
theorem check_cases (bits : Nat) (i : Int) :
    (-2 ^ (bits - 1) ≤ i ∧ i < 2 ^ (bits - 1) ∧ (IntRange.signed bits).check i = .ok i) ∨
      (¬ (-2 ^ (bits - 1) ≤ i ∧ i < 2 ^ (bits - 1)) ∧ ∃ fault, (IntRange.signed bits).check i = .error fault) := by
  by_cases h : -2 ^ (bits - 1) ≤ i ∧ i < 2 ^ (bits - 1)
  · have hholds : (IntRange.signed bits).holds i = true := IntRange.holds_iff.2 ⟨h.1, Int.le_sub_one_of_lt h.2⟩
    exact .inl ⟨h.1, h.2, IntRange.check_eq_ok_iff.2 ⟨hholds, rfl⟩⟩
  · refine .inr ⟨h, ?_⟩
    cases hcheck : (IntRange.signed bits).check i with
    | ok j =>
      obtain ⟨hleast, hgreatest⟩ := IntRange.holds_iff.1 (IntRange.check_eq_ok_iff.1 hcheck).1
      exact absurd ⟨hleast, Int.lt_of_le_sub_one hgreatest⟩ h
    | error fault => exact ⟨fault, rfl⟩

/-- An integer has room in its type, and is sent in the width of the type; or it is refused. -/
theorem bind_int_cases {type : PgType} (htype : type ∈ [PgType.int2, .int4, .int8]) (i : Int64) :
    (∃ count, (type, count) ∈ [(PgType.int2, 2), (.int4, 4), (.int8, 8)] ∧
        -256 ^ count ≤ 2 * i.toInt ∧ 2 * i.toInt < 256 ^ count ∧
        (Value.int i).bind type = .ok (.some (bigEndian count i.toInt)) ∧ (Value.int i).Fits type) ∨
      (∃ fault, (Value.int i).bind type = .error fault) ∧ ¬ (Value.int i).Fits type := by
  simp only [List.mem_cons, List.not_mem_nil, or_false] at htype
  rcases htype with rfl | rfl | rfl
  · rcases check_cases 16 i.toInt with ⟨hleast, hgreatest, hcheck⟩ | ⟨hfits, fault, hcheck⟩
    · exact .inl ⟨2, by simp, by omega, by omega, by simp [bind, bindInt, hcheck, Except.map], hleast, hgreatest⟩
    · exact .inr ⟨⟨.integer fault, by simp [bind, bindInt, hcheck, Except.map]⟩, hfits⟩
  · rcases check_cases 32 i.toInt with ⟨hleast, hgreatest, hcheck⟩ | ⟨hfits, fault, hcheck⟩
    · exact .inl ⟨4, by simp, by omega, by omega, by simp [bind, bindInt, hcheck, Except.map], hleast, hgreatest⟩
    · exact .inr ⟨⟨.integer fault, by simp [bind, bindInt, hcheck, Except.map]⟩, hfits⟩
  · have hleast := i.le_toInt
    have hgreatest := i.toInt_lt
    exact .inl ⟨8, by simp, by omega, by omega, rfl, trivial⟩

theorem ofCell_int {type : PgType} {count : Nat} {data : List UInt8}
    (htype : (type, count) ∈ [(PgType.int2, 2), (.int4, 4), (.int8, 8)]) (hlength : data.length = count) :
    ofCell type (.some data) = .ok (.int (.ofInt (signedOfBigEndian data))) := by
  simp only [List.mem_cons, Prod.mk.injEq, List.not_mem_nil, or_false] at htype
  rcases htype with ⟨rfl, rfl⟩ | ⟨rfl, rfl⟩ | ⟨rfl, rfl⟩
  all_goals simp only [ofCell, ofCellBytes?, ofExactly, hlength, if_true]

theorem isReadAs_int (i : Int64) {type : PgType} (htype : type ∈ [PgType.int2, .int4, .int8]) :
    (Value.int i).IsReadAs type (.int i) := by
  rcases bind_int_cases htype i with ⟨count, hcount, hleast, hgreatest, hbind, hfits⟩ | ⟨⟨fault, hbind⟩, hfits⟩
  · refine isReadAs_of_bind hbind hfits (iff_of_true ?_ trivial)
    rw [ofCell_int hcount (Number.length_bigEndian _ _),
      Number.signedOfBigEndian_bigEndian hleast hgreatest, Int64.ofInt_toInt]
  · exact ⟨iff_of_false (by simp [hbind]) hfits, by simp [hbind]⟩

/-! ## Dates and timestamps -/

theorem ofCell_date (d : Date) : ofCell .date (.some d.bytes) = .ok (.date d) := by
  have hbounds := d.number_bounds
  have hnumber : signedOfBigEndian d.bytes = d.number :=
    Number.signedOfBigEndian_bigEndian (by omega) (by omega)
  have hlength : d.bytes.length = 4 := Number.length_bigEndian 4 d.number
  simp only [ofCell, ofCellBytes?, ofExactly, hlength, hnumber, if_true, Date.ofNumber?_number, Option.map_some]

/-- A cell of a type of timestamps has the timestamp of its microseconds. -/
theorem ofCell_timestamp_iff (t : Timestamp) :
    (ofCell .timestamp (.some t.bytes) = .ok (.timestamp t) ↔ t.IsWhole) ∧
      (ofCell .timestamptz (.some t.bytes) = .ok (.timestampUtc t) ↔ t.IsWhole) := by
  have hbounds := t.micros_bounds
  have hmicros : signedOfBigEndian t.bytes = t.micros :=
    Number.signedOfBigEndian_bigEndian (by omega) (by omega)
  have hlength : t.bytes.length = 8 := Number.length_bigEndian 8 t.micros
  rw [← t.ofMicros?_micros_iff]
  simp only [ofCell, ofCellBytes?, ofExactly, hlength, hmicros, if_true]
  cases Timestamp.ofMicros? t.micros with
  | none => simp
  | some u => simp

/-! ## All kinds -/

theorem ofCell_text {type : PgType} (htype : type.isText = true) (s : String) :
    ofCell type (.some (Text.utf8 s)) = .ok (.text s) := by
  cases type with
  | text | varchar | bpchar | name =>
    simp only [ofCell, ofCellBytes?, Text.ofUtf8?_utf8, Option.map_some]
  | _ => simp [PgType.isText] at htype

theorem bind_text {type : PgType} (htype : type.isText = true) (s : String) :
    (Value.text s).bind type = .ok (.some (Text.utf8 s)) := by
  cases type with
  | text | varchar | bpchar | name => rfl
  | _ => simp [PgType.isText] at htype

/-- **What is written to a column is read back.** A value is sent exactly if it has room; what is sent
is read as what the column holds of it exactly if it is whole. -/
theorem ofCell_bind_iff {v w : Value} {type : PgType} (h : v.HeldAs type w) :
    ((∃ data, v.bind type = .ok (.some data)) ↔ v.Fits type) ∧
      ∀ cell, v.bind type = .ok cell → (ofCell type cell = .ok w ↔ v.IsWhole) := by
  suffices hread : v.IsReadAs type w from ⟨hread.sent, hread.read⟩
  cases h with
  | bool b =>
    refine isReadAs_of_bind rfl trivial (iff_of_true ?_ trivial)
    cases b <;> rfl
  | int i htype => exact isReadAs_int i htype
  | text s htype => exact isReadAs_of_bind (bind_text htype s) trivial (iff_of_true (ofCell_text htype s) trivial)
  | date d => exact isReadAs_of_bind rfl trivial (iff_of_true (ofCell_date d) trivial)
  | timestamp t hv =>
    have hread := (ofCell_timestamp_iff t).1
    rcases List.mem_pair.1 hv with rfl | rfl
    · exact isReadAs_of_bind rfl trivial hread
    · exact isReadAs_of_bind rfl trivial hread
  | timestampUtc t hv =>
    have hread := (ofCell_timestamp_iff t).2
    rcases List.mem_pair.1 hv with rfl | rfl
    · exact isReadAs_of_bind rfl trivial hread
    · exact isReadAs_of_bind rfl trivial hread
  | uuid u =>
    have hread : ofCell .uuid (.some u.bytes) = .ok (.uuid u) := by
      simp [ofCell, ofCellBytes?, Uuid.ofBytes?, u.length_eq]
    exact isReadAs_of_bind rfl trivial (iff_of_true hread trivial)
  | bytes bs => exact isReadAs_of_bind rfl trivial (iff_of_true rfl trivial)

/-- The last microsecond before 2000, written without a time zone and read with one. -/
theorem ofCell_bind_eve :
    ∃ t : Timestamp, t.micros = -1 ∧ (Value.timestamp t).HeldAs .timestamptz (.timestampUtc t) ∧
      (Value.timestamp t).bind .timestamptz = .ok (.some (List.replicate 8 0xFF)) ∧
      ofCell .timestamptz (.some (List.replicate 8 0xFF)) = .ok (.timestampUtc t) := by
  let t : Timestamp := ⟨⟨1999, 12, 31, by decide⟩, 86399, 999999000, by decide⟩
  have hheld : (Value.timestamp t).HeldAs .timestamptz (.timestampUtc t) := .timestampUtc t (by simp)
  have hbytes : t.bytes = List.replicate 8 0xFF := by decide +kernel
  have hbind : (Value.timestamp t).bind .timestamptz = .ok (.some (List.replicate 8 0xFF)) := by
    rw [← hbytes]
    rfl
  have hwhole : (Value.timestamp t).IsWhole := ⟨by decide, by decide⟩
  exact ⟨t, by decide +kernel, hheld, hbind, ((ofCell_bind_iff hheld).2 _ hbind).2 hwhole⟩

end ParamQuery.Value
