/-
Texts that are sent, and texts that are read into fields.

A text for a parameter is read by the parameter's type, and a text in a cell
by the field that it goes to. Where the type holds what the field holds, the
two accept the same texts and understand them alike (`sentAsRead`). Integers
are read in two ways: a parameter's type refuses digits that leave its range,
while a field reads 64 bits first and narrows them.
-/
import ParamQuery.Proofs.Value.RoundTrip
import ParamQuery.Proofs.Value.Whole

namespace ParamQuery

open Number (bigEndian IntRange IsIntegerText)

/-- The type of parameters that hold what a field holds. -/
def Scalar.parameterType? : Scalar → Option PgType
  | .int16 => .some .int2
  | .int32 => .some .int4
  | .int64 => .some .int8
  | .float64 => .some .float8
  | .decimal => .some .numeric
  | .bool => .some .bool
  | .date => .some .date
  | .timestamp => .some .timestamp
  | .timestampUtc => .some .timestamptz
  | _ => .none

namespace Value

/-- A text is sent as the value that a field reads from it, and only if the field reads it. -/
structure SentAsRead (field : Scalar) (type : PgType) (s : String) : Prop where
  sent : ∀ v, field.coerce (.text s) = .ok v →
    ∃ data, (Value.text s).bind type = .ok (.some data) ∧ v.bind type = .ok (.some data)
  read : ∀ cell, (Value.text s).bind type = .ok cell → ∃ v, field.coerce (.text s) = .ok v

variable {field : Scalar} {type : PgType} {s : String}

/-- It is enough that one reader decides for both sides, and that what it reads is sent in the form
that its text gets. -/
theorem SentAsRead.of_reader {ε α : Type} (reader : Except ε α) (wrap : α → Value) (form : α → List UInt8)
    (hok : ∀ a, reader = .ok a → field.coerce (.text s) = .ok (wrap a) ∧
      (Value.text s).bind type = .ok (.some (form a)) ∧ (wrap a).bind type = .ok (.some (form a)))
    (herror : ∀ e, reader = .error e → (∃ reason, field.coerce (.text s) = .error reason) ∧
      ∃ fault, (Value.text s).bind type = .error fault) : SentAsRead field type s := by
  cases hreader : reader with
  | ok a =>
    obtain ⟨hread, htext, hvalue⟩ := hok a hreader
    refine ⟨fun v hv => ?_, fun _ _ => ⟨wrap a, hread⟩⟩
    rw [hread, Except.ok.injEq] at hv
    exact ⟨form a, htext, hv ▸ hvalue⟩
  | error e =>
    obtain ⟨⟨reason, hread⟩, fault, htext⟩ := herror e hreader
    exact ⟨fun v hv => by simp [hread] at hv, fun cell hcell => by simp [htext] at hcell⟩

/-! ## Integers -/

/-- A type of integers, with its bits and its bytes. -/
def integerTypes : List (PgType × Nat × Nat) := [(.int2, 16, 2), (.int4, 32, 4), (.int8, 64, 8)]

theorem bind_text_integer {bits count : Nat} (htype : (type, bits, count) ∈ integerTypes) :
    (Value.text s).bind type =
      match Number.readInt (.signed bits) (Text.trim s.toList) with
      | .ok n => .ok (.some (bigEndian count n))
      | .error fault => .error (.integer fault) := by
  simp only [integerTypes, List.mem_cons, Prod.mk.injEq, List.not_mem_nil, or_false] at htype
  rcases htype with ⟨rfl, rfl, rfl⟩ | ⟨rfl, rfl, rfl⟩ | ⟨rfl, rfl, rfl⟩
  · simp only [bind, bindText]
    cases Number.readInt (.signed 16) (Text.trim s.toList) <;> rfl
  · simp only [bind, bindText]
    cases Number.readInt (.signed 32) (Text.trim s.toList) <;> rfl
  · simp only [bind, bindText]
    cases Number.readInt (.signed 64) (Text.trim s.toList) <;> rfl

/-- An integer that its type has room for is sent in the width of the type. -/
theorem bind_int_of_mem {bits count : Nat} (htype : (type, bits, count) ∈ integerTypes) {i : Int64}
    (hi : i.toInt ∈ Set.Ico (-2 ^ (bits - 1)) (2 ^ (bits - 1))) :
    (Value.int i).bind type = .ok (.some (bigEndian count i.toInt)) := by
  have hcheck : (IntRange.signed bits).check i.toInt = .ok i.toInt :=
    IntRange.check_eq_ok_iff.2 ⟨(holds_signed_iff bits).2 hi, rfl⟩
  simp only [integerTypes, List.mem_cons, Prod.mk.injEq, List.not_mem_nil, or_false] at htype
  rcases htype with ⟨rfl, rfl, rfl⟩ | ⟨rfl, rfl, rfl⟩ | ⟨rfl, rfl, rfl⟩
  · simp only [bind, bindInt, hcheck, Except.map]
  · simp only [bind, bindInt, hcheck, Except.map]
  · rfl

theorem readInt_signed_iff {bits : Nat} {n : Int} :
    Number.readInt (.signed bits) (Text.trim s.toList) = .ok n ↔
      (Value.text s).Denotes n ∧ n ∈ Set.Ico (-2 ^ (bits - 1)) (2 ^ (bits - 1)) := by
  have hpos : (0 : Int) < 2 ^ (bits - 1) := by positivity
  have hzero : (IntRange.signed bits).holds 0 = true := (holds_signed_iff bits).2 ⟨by omega, hpos⟩
  have hneg : (IntRange.signed bits).least < 0 := Int.neg_neg_of_pos hpos
  rw [Number.readInt_eq_ok_iff hzero hneg, holds_signed_iff]
  simp [Denotes]

/-- Digits that leave the range of the type, and integers that the field has no room for, are the
same: an integer that the field reads from the text is one that the type reads. -/
theorem sentAsRead_integer (bits count : Nat) (htype : (type, bits, count) ∈ integerTypes)
    (hfield : field.integers? = .some (Set.Ico (-2 ^ (bits - 1)) (2 ^ (bits - 1)))) (s : String) :
    SentAsRead field type s := by
  obtain ⟨read, hcoerce, hread⟩ := exists_coerce_eq hfield (v := .text s) rfl
  refine .of_reader (Number.readInt (.signed bits) (Text.trim s.toList)) (fun n => .int (.ofInt n))
    (bigEndian count) (fun n hn => ?_) fun e he => ?_
  · obtain ⟨hdenotes, hroom⟩ := readInt_signed_iff.1 hn
    obtain ⟨hleast, hgreatest⟩ := subset_of_integers? hfield hroom
    have hint : (Int64.ofInt n).toInt = n := Int64.toInt_ofInt_of_le hleast hgreatest
    have hfound : read = .ok (.ofInt n) := (hread _).2 (by rw [hint]; exact ⟨hdenotes, hroom⟩)
    refine ⟨by rw [hcoerce, hfound]; rfl, by rw [bind_text_integer htype, hn], ?_⟩
    rw [bind_int_of_mem htype (by rwa [hint]), hint]
  · refine ⟨?_, .integer e, by rw [bind_text_integer htype, he]⟩
    cases hfound : read with
    | ok i =>
      have hn := readInt_signed_iff.2 ((hread i).1 hfound)
      simp [he] at hn
    | error reason => exact ⟨reason, by rw [hcoerce, hfound]; rfl⟩

/-! ## All pairs -/

/-- **A text is sent as the value that is read from it**, for every field and the type that holds
what the field holds: it is refused for a parameter exactly if it is refused in a cell. -/
theorem sentAsRead (h : field.parameterType? = .some type) (s : String) : SentAsRead field type s := by
  cases field with
  | int16 => cases h; exact sentAsRead_integer 16 2 (by simp [integerTypes]) rfl s
  | int32 => cases h; exact sentAsRead_integer 32 4 (by simp [integerTypes]) rfl s
  | int64 => cases h; exact sentAsRead_integer 64 8 (by simp [integerTypes]) rfl s
  | float64 =>
    cases h
    refine .of_reader (Number.Literal.read (Text.trim s.toList)) (fun l => .float l.toBinary64)
      (fun l => l.toBinary64.bytes) (fun l hl => ⟨?_, ?_, rfl⟩) fun e he => ?_
    · simp [Scalar.coerce, toBinary64, hl, Except.map]
    · simp [bind, bindText, hl, Except.map]
    · simp [Scalar.coerce, toBinary64, bind, bindText, he, Except.map]
  | decimal =>
    cases h
    refine .of_reader (readDecimal s) .decimal ((·.bytes))
      (fun d hd => ⟨?_, ?_, rfl⟩) fun e he => ?_
    · simp [Scalar.coerce, toDecimal, hd, Except.map]
    · simp [bind, bindText, hd, Except.map]
    · simp [Scalar.coerce, toDecimal, bind, bindText, he, Except.map]
  | bool =>
    cases h
    refine .of_reader (readBool s) .bool (fun b => [if b then 1 else 0])
      (fun b hb => ⟨?_, ?_, rfl⟩) fun e he => ?_
    · simp [Scalar.coerce, toBool, hb, Except.map]
    · simp [bind, bindText, hb, Except.map]
    · simp [Scalar.coerce, toBool, bind, bindText, he, Except.map]
  | date =>
    cases h
    refine .of_reader (readDate s) .date ((·.bytes))
      (fun d hd => ⟨?_, ?_, rfl⟩) fun e he => ?_
    · simp [Scalar.coerce, toDate, hd, Except.map]
    · simp [bind, bindText, hd, Except.map]
    · simp [Scalar.coerce, toDate, bind, bindText, he, Except.map]
  | timestamp =>
    cases h
    refine .of_reader (readTimestamp s) .timestamp ((·.bytes))
      (fun t ht => ⟨?_, ?_, rfl⟩) fun e he => ?_
    · simp [Scalar.coerce, toTimestamp, ht, Except.map]
    · simp [bind, bindText, ht, Except.map]
    · simp [Scalar.coerce, toTimestamp, bind, bindText, he, Except.map]
  | timestampUtc =>
    cases h
    refine .of_reader (readTimestampUtc s) .timestampUtc ((·.bytes))
      (fun t ht => ⟨?_, ?_, rfl⟩) fun e he => ?_
    · simp [Scalar.coerce, toTimestampUtc, ht, Except.map]
    · simp [bind, bindText, ht, Except.map]
    · simp [Scalar.coerce, toTimestampUtc, bind, bindText, he, Except.map]
  | _ => simp [Scalar.parameterType?] at h

/-- A blank, a sign and zeros in front are no obstacle to either side. -/
theorem sentAsRead_int16_least :
    Scalar.int16.parameterType? = .some .int2 ∧
      Scalar.int16.coerce (.text " -032768") = .ok (.int (-32768)) ∧
      (Value.text " -032768").bind .int2 = .ok (.some [0x80, 0]) := by
  have hpair : Scalar.int16.parameterType? = .some .int2 := rfl
  have hread : Scalar.int16.coerce (.text " -032768") = .ok (.int (-32768)) := by rfl
  obtain ⟨data, htext, hvalue⟩ := (sentAsRead hpair " -032768").sent _ hread
  refine ⟨hpair, hread, ?_⟩
  rw [htext, ← hvalue]
  rfl

end Value

end ParamQuery
