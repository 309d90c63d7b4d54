/-
Maps of fields, by the insertions that made them.

A field that is inserted again takes the new column and keeps its place. So
a map can be read off its insertions (`IsLeftBy`): its fields are those
inserted, in the order of their first insertions, and each is mapped to the
column of its last. Every insertion keeps this (`IsLeftBy.insert`), so it
holds of all maps that insertions make (`ordered_by_insertion`).
-/
import Mathlib.Data.Finset.Card
import ParamQuery.Proofs.Declaration.Options
import ParamQuery.Proofs.Entity.Mapped

namespace ParamQuery.FieldMap

open Declaration (lastValue? lastValue?_append)

/-! ## Insertions -/

/-- The fields that are inserted, each as often as it is. -/
def inserted (pairs : List (String × String)) : List String := pairs.map (·.1)

/-- The map after further insertions, in order. -/
def insertAll (m : FieldMap) (pairs : List (String × String)) : FieldMap :=
  pairs.foldl (fun m p => m.insert p.1 p.2) m

theorem insert_of_notMem {m : FieldMap} {p : String} (c : String) (h : p ∉ m.properties) :
    m.insert p c = m ++ [(p, c)] := by
  induction m with
  | nil => rfl
  | cons q m ih =>
    rw [properties, List.map_cons, List.mem_cons, not_or] at h
    rw [insert, if_neg (Ne.symm h.1), ih h.2, List.cons_append]

theorem properties_insert_of_mem {m : FieldMap} {p : String} (c : String) (h : p ∈ m.properties) :
    (m.insert p c).properties = m.properties := by
  induction m with
  | nil => simp [properties] at h
  | cons q m ih =>
    rw [insert]
    split
    · rfl
    · rename_i hq
      have hrest : p ∈ properties m := by simpa [properties, Ne.symm hq] using h
      exact congrArg (q.1 :: ·) (ih hrest)

/-- A pair that is there already is inserted for nothing. -/
theorem insert_of_mem {m : FieldMap} (hnodup : m.properties.Nodup) {p c : String} (h : (p, c) ∈ m) :
    m.insert p c = m := by
  induction m with
  | nil => cases h
  | cons q m ih =>
    obtain ⟨hnotMem, hnodup⟩ := List.nodup_cons.1 hnodup
    rw [insert]
    split
    · rename_i hq
      rcases List.mem_cons.1 h with rfl | h
      · rfl
      · subst hq
        exact absurd (List.mem_map_of_mem h) hnotMem
    · rename_i hq
      rcases List.mem_cons.1 h with rfl | h
      · exact absurd rfl hq
      · rw [ih hnodup h]

/-! ## What insertions leave -/

/-- The map is what the insertions leave. -/
structure IsLeftBy (m : FieldMap) (pairs : List (String × String)) : Prop where
  mem : ∀ p, p ∈ m.properties ↔ p ∈ inserted pairs
  /-- A field stands before those that are first inserted later. -/
  ordered : m.properties.Pairwise fun p q => (inserted pairs).idxOf p < (inserted pairs).idxOf q
  get? : ∀ p, m.get? p = lastValue? p pairs

namespace IsLeftBy

variable {m : FieldMap} {pairs : List (String × String)}

theorem nil : IsLeftBy [] [] := ⟨fun _ => Iff.rfl, .nil, fun _ => rfl⟩

theorem nodup (h : m.IsLeftBy pairs) : m.properties.Nodup :=
  h.ordered.imp fun hlt heq => by simp [heq] at hlt

/-- Further insertions do not change which of two fields came first. -/
theorem ordered_append (h : m.IsLeftBy pairs) (later : List String) :
    m.properties.Pairwise fun p q =>
      (inserted pairs ++ later).idxOf p < (inserted pairs ++ later).idxOf q := by
  refine h.ordered.imp_of_mem fun hp hq hlt => ?_
  rwa [List.idxOf_append_of_mem ((h.mem _).1 hp), List.idxOf_append_of_mem ((h.mem _).1 hq)]

theorem insert (h : m.IsLeftBy pairs) (p c : String) : (m.insert p c).IsLeftBy (pairs ++ [(p, c)]) := by
  have hinserted : inserted (pairs ++ [(p, c)]) = inserted pairs ++ [p] := by simp [inserted]
  have hget (q : String) : (m.insert p c).get? q = lastValue? q (pairs ++ [(p, c)]) := by
    rw [lastValue?_append]
    by_cases hq : q = p
    · subst hq
      simp [get?_insert_self, lastValue?]
    · simp [get?_insert_other m c hq, h.get? q, lastValue?, Ne.symm hq]
  by_cases hmem : p ∈ m.properties
  · have hproperties := properties_insert_of_mem c hmem
    refine ⟨fun q => ?_, ?_, hget⟩
    · have hp := (h.mem p).1 hmem
      rw [hproperties, hinserted, h.mem, List.mem_append, List.mem_singleton]
      exact ⟨.inl, fun hq => hq.elim id fun hq => hq ▸ hp⟩
    · rw [hproperties, hinserted]
      exact h.ordered_append [p]
  · have hproperties : (m.insert p c).properties = m.properties ++ [p] := by
      rw [insert_of_notMem c hmem, properties, List.map_append]
      rfl
    refine ⟨fun q => ?_, ?_, hget⟩
    · rw [hproperties, hinserted, List.mem_append, List.mem_append, h.mem]
    · rw [hproperties, hinserted, List.pairwise_append]
      refine ⟨h.ordered_append [p], List.pairwise_singleton _ _, fun q hq r hr => ?_⟩
      -- The new field is first inserted behind all others.
      obtain rfl := List.mem_singleton.1 hr
      have hr : r ∉ inserted pairs := fun hr => hmem ((h.mem r).2 hr)
      have hlt := List.idxOf_lt_length_iff.2 ((h.mem q).1 hq)
      rw [List.idxOf_append_of_mem ((h.mem q).1 hq), List.idxOf_append_of_notMem hr]
      omega

theorem insertAll (h : m.IsLeftBy pairs) (later : List (String × String)) :
    (m.insertAll later).IsLeftBy (pairs ++ later) := by
  induction later generalizing m pairs with
  | nil => rwa [List.append_nil]
  | cons p later ih =>
    have hrest := ih (h.insert p.1 p.2)
    rwa [List.append_assoc] at hrest

theorem length (h : m.IsLeftBy pairs) : m.length = (inserted pairs).toFinset.card := by
  have hset : m.properties.toFinset = (inserted pairs).toFinset := by
    ext p
    rw [List.mem_toFinset, List.mem_toFinset, h.mem]
  rw [← hset, List.toFinset_card_of_nodup h.nodup, properties, List.length_map]

theorem columns (h : m.IsLeftBy pairs) :
    m.columns.map .some = m.properties.map fun p => lastValue? p pairs := by
  rw [FieldMap.columns, properties, List.map_map, List.map_map]
  refine List.map_congr_left fun p hp => ?_
  exact (get?_of_mem h.nodup hp).symm.trans (h.get? p.1)

end IsLeftBy

theorem isLeftBy_ofPairs (pairs : List (String × String)) : (ofPairs pairs).IsLeftBy pairs :=
  IsLeftBy.nil.insertAll pairs

/-! ## Inserting what a map holds -/

theorem insertAll_of_subset {m : FieldMap} (hnodup : m.properties.Nodup) {pairs : List (String × String)}
    (h : pairs ⊆ m) : m.insertAll pairs = m := by
  induction pairs with
  | nil => rfl
  | cons p pairs ih =>
    obtain ⟨hp, hpairs⟩ := List.cons_subset.1 h
    rw [insertAll, List.foldl_cons, insert_of_mem hnodup hp]
    exact ih hpairs

theorem insertAll_of_nodup {m : FieldMap} {pairs : List (String × String)}
    (h : (m ++ pairs).properties.Nodup) : m.insertAll pairs = m ++ pairs := by
  induction pairs generalizing m with
  | nil => exact (List.append_nil m).symm
  | cons p pairs ih =>
    have hp : p.1 ∉ m.properties := by
      rw [properties, List.map_append, List.nodup_append] at h
      exact fun hmem => h.2.2 _ hmem _ (by simp) rfl
    rw [List.append_cons] at h ⊢
    rw [insertAll, List.foldl_cons, insert_of_notMem p.2 hp]
    exact ih h

theorem ofPairs_of_nodup {m : FieldMap} (h : m.properties.Nodup) : ofPairs m = m :=
  insertAll_of_nodup (m := []) h

/-- **A map keeps its fields in the order in which they were first inserted, and the column of each
from its last insertion.** Some of the insertions may be made at once. -/
theorem ordered_by_insertion (earlier later : List (String × String)) :
    let m : FieldMap := (ofPairs earlier).insertAll later
    let pairs := earlier ++ later
    m.properties.Nodup ∧
    (∀ p, p ∈ m.properties ↔ p ∈ inserted pairs) ∧
    m.properties.Pairwise (fun p q => (inserted pairs).idxOf p < (inserted pairs).idxOf q) ∧
    (∀ p, m.get? p = lastValue? p pairs) ∧
    m.columns.map .some = m.properties.map (fun p => lastValue? p pairs) ∧
    m.length = (inserted pairs).toFinset.card ∧
    ofPairs m = m ∧ m.insertAll m = m := by
  intro m pairs
  have hleft : m.IsLeftBy pairs := (isLeftBy_ofPairs earlier).insertAll later
  exact ⟨hleft.nodup, hleft.mem, hleft.ordered, hleft.get?, hleft.columns, hleft.length,
    ofPairs_of_nodup hleft.nodup, insertAll_of_subset hleft.nodup (List.Subset.refl m)⟩

example : ofPairs [("b", "B"), ("a", "A"), ("b", "BB")] = [("b", "BB"), ("a", "A")] := by decide

end ParamQuery.FieldMap
