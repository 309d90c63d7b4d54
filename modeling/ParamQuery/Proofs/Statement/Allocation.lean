/-
Parameters that are allocated one after the other, from an empty list on.

Each has its place for its number, so the names are those of numbered slots
(`allocateSlots_eq`). Two of them are equal exactly if the digits by which
the later number is longer stand at the end of the earlier stem
(`equal_names_iff`). A column whose name ends in no digit is therefore
safe, however many parameters there are.
-/
import ParamQuery.Proofs.Statement.Names

namespace ParamQuery

namespace Params

/-- The parameters after an allocation for each slot, in order. -/
def allocateSlots (ps : Params) (s : Slots) : Params :=
  s.foldl (fun ps slot => ps.allocate slot.1 slot.2) ps

theorem allocateSlots_eq (ps : Params) (s : Slots) : ps.allocateSlots s = ps ++ s.number ps.next := by
  induction s generalizing ps with
  | nil => exact (List.append_nil ps).symm
  | cons slot s ih =>
    have hrest : ps.allocateSlots (slot :: s) = (ps.allocate slot.1 slot.2).allocateSlots s := rfl
    rw [hrest, ih, allocate_eq, List.append_assoc]
    simp [next, Slots.number]

end Params

/-- A clash, in texts. -/
theorem clash_iff (a : String) (i : Nat) (b : String) (j : Nat) :
    Clash a i b j ↔ ∃ d : String, d ≠ "" ∧ (∀ c ∈ d.toList, c.isDigit = true) ∧
      Number.natText j = d ++ Number.natText i ∧ a = b ++ d := by
  constructor
  · rintro ⟨d, hd, ha, hj⟩
    refine ⟨.ofList d, by simpa using hd, fun c hc => ?_, ?_, ?_⟩
    · rw [String.toList_ofList] at hc
      exact Number.isDigit_of_mem_digits (n := j) (hj ▸ List.mem_append_left _ hc)
    · rw [Number.natText, Number.natText, hj, String.ofList_append]
    · rw [← String.toList_inj, ha, String.toList_append, String.toList_ofList]
  · rintro ⟨d, hd, -, hj, rfl⟩
    refine ⟨d.toList, by simpa using hd, String.toList_append, ?_⟩
    have htexts := congrArg String.toList hj
    rwa [Number.natText, Number.natText, String.toList_append, String.toList_ofList,
      String.toList_ofList] at htexts

/-- **When two allocated parameters have one name**: exactly if digits that stand in front of the
number of the earlier make the number of the later, and stand at the end of its stem, behind the
stem of the later. Without digits at the ends of stems all names are apart. -/
theorem equal_names_iff (s : Slots) :
    let ps := Params.allocateSlots [] s
    (∀ i j a b, i < j → s.stems[i]? = .some a → s.stems[j]? = .some b →
      ((∃ name, ps.names[i]? = .some name ∧ ps.names[j]? = .some name) ↔
        ∃ d : String, d ≠ "" ∧ (∀ c ∈ d.toList, c.isDigit = true) ∧
          Number.natText j = d ++ Number.natText i ∧ a = b ++ d)) ∧
    ((∀ a ∈ s.stems, ∀ c ∈ a.toList.getLast?, c.isDigit = false) → ps.names.Nodup) := by
  intro ps
  have hps : ps = s.number 0 := Params.allocateSlots_eq [] s
  rw [hps]
  refine ⟨fun i j a b hij ha hb => ?_, fun h => nodup_names_of_stems (.inr h)⟩
  rw [← clash_iff, ← name_eq_iff hij, Slots.names_number_getElem?, Slots.names_number_getElem?, ha, hb]
  simp [eq_comm]

/-- Eleven parameters, of which the first and the last have one name. -/
theorem equal_names_eleven :
    ∃ name, (Params.allocateSlots [] (("A1", .null) :: List.replicate 9 ("B", .null) ++ [("A", .null)])).names[0]? =
        .some name ∧
      (Params.allocateSlots [] (("A1", .null) :: List.replicate 9 ("B", .null) ++ [("A", .null)])).names[10]? =
        .some name :=
  ((equal_names_iff (("A1", .null) :: List.replicate 9 ("B", .null) ++ [("A", .null)])).1 0 10 "A1" "A" (by decide)
    rfl rfl).2 ⟨"1", by decide, by simp [Char.isDigit], by decide +kernel, by decide⟩

end ParamQuery
