/-
Parameters before they have names. A slot is a stem and a value; numbering
gives each slot of a list the name that its stem and its place make.

`allocateAll_eq`: allocating is numbering behind what is there.
-/
import ParamQuery.Statement.Params

namespace ParamQuery

/-- Parameters that have no names yet: the stem and the value of each. -/
abbrev Slots := List (String × Value)

namespace Slots

/-- The stems, in order. -/
def stems (s : Slots) : List String := s.map (·.1)

/-- The values, in order. -/
def values (s : Slots) : List Value := s.map (·.2)

/-- The parameters of the slots, in a statement that has `n` already. -/
def number (n : Nat) : Slots → Params
  | [] => []
  | (stem, v) :: s => ⟨stem ++ Number.natText n, v⟩ :: number (n + 1) s

@[simp] theorem length_number (n : Nat) (s : Slots) : (number n s).length = s.length := by
  induction s generalizing n with
  | nil => rfl
  | cons slot s ih => simp [number, ih]

theorem number_append (n : Nat) (s t : Slots) :
    number n (s ++ t) = number n s ++ number (n + s.length) t := by
  induction s generalizing n with
  | nil => simp [number]
  | cons slot s ih =>
    simp only [List.cons_append, number, ih, List.length_cons]
    rw [Nat.add_right_comm, Nat.add_assoc]

@[simp] theorem values_number (n : Nat) (s : Slots) : (number n s).values = s.values := by
  induction s generalizing n with
  | nil => rfl
  | cons slot s ih => simpa [number, Params.values, values] using ih (n + 1)

@[simp] theorem length_names_number (n : Nat) (s : Slots) : (number n s).names.length = s.length := by
  simp [Params.names]

theorem names_number_append (n : Nat) (s t : Slots) :
    (number n (s ++ t)).names = (number n s).names ++ (number (n + s.length) t).names := by
  simp [number_append, Params.names]

/-- The name of a slot is its stem with its place in the statement. -/
theorem names_number_getElem? (n i : Nat) (s : Slots) :
    (number n s).names[i]? = s.stems[i]?.map (· ++ Number.natText (n + i)) := by
  induction s generalizing n i with
  | nil => simp [number, Params.names, stems]
  | cons slot s ih =>
    cases i with
    | zero => simp [number, Params.names, stems]
    | succ i =>
      have := ih (n + 1) i
      simp only [Params.names, stems, List.getElem?_map] at this
      simp only [number, Params.names, stems, List.map_cons, List.getElem?_cons_succ,
        List.getElem?_map, this]
      rw [Nat.add_assoc, Nat.add_comm 1 i]

end Slots

namespace Params

open Slots (number)

theorem allocate_eq (ps : Params) (stem : String) (v : Value) :
    ps.allocate stem v = ps ++ number ps.next [(stem, v)] := rfl

theorem allocateAll_eq (stem : String) (ps : Params) (vs : List Value) :
    allocateAll stem ps vs = ps ++ number ps.next (vs.map (stem, ·)) := by
  induction vs generalizing ps with
  | nil => simp [allocateAll, number]
  | cons v vs ih =>
    rw [allocateAll, ih, allocate_eq, List.map_cons, number, List.append_assoc]
    simp [next, number]

theorem nextNames_eq (stem : String) (n : Nat) (vs : List Value) :
    nextNames stem n vs.length = (number n (vs.map (stem, ·))).names := by
  induction vs generalizing n with
  | nil => rfl
  | cons v vs ih => simp only [List.length_cons, nextNames, ih, List.map_cons, number, names]

@[simp] theorem names_append (ps qs : Params) : names (ps ++ qs) = ps.names ++ qs.names := by
  simp [names]

@[simp] theorem values_append (ps qs : Params) : values (ps ++ qs) = ps.values ++ qs.values := by
  simp [values]

@[simp] theorem next_append (ps qs : Params) : next (ps ++ qs) = ps.next + qs.length := by
  simp [next]

end Params

end ParamQuery
