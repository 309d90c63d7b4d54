/-
Binding by number, for parameters whose names are apart and all of which
have one marker, in their order: the markers are numbered from one on, and
every value is sent, in order (`bindNumbered_eq`).
-/
import Mathlib.Data.List.Basic
import ParamQuery.Proofs.Statement.Markers
import ParamQuery.Statement.Dialect

namespace ParamQuery

namespace Markers

/-- The text of pieces whose markers are numbered from `k` on, whatever names they carry. -/
def renumbered (k : Nat) : List Piece → List Char
  | [] => []
  | .char c :: ps => c :: renumbered k ps
  | .marker _ :: ps => '$' :: Number.digits k ++ renumbered (k + 1) ps

/-- Markers that carry known names, none of them twice, are numbered as they come. -/
theorem numbered_eq {known : List String} (seen : List String) (ps : List Piece)
    (hknown : ∀ n ∈ names ps, n ∈ known) (hnodup : (seen ++ names ps).Nodup) :
    numbered known seen ps = (renumbered (seen.length + 1) ps, seen ++ names ps) := by
  induction ps generalizing seen with
  | nil => simp [numbered, renumbered, names]
  | cons p ps ih =>
    cases p with
    | char c => simp only [numbered, renumbered, names, ih seen hknown hnodup]
    | marker n =>
      simp only [names] at hknown hnodup
      have hin : String.ofList n ∈ known := hknown _ (by simp)
      have hnew : String.ofList n ∉ seen := by
        rw [List.nodup_append] at hnodup
        exact fun hmem => hnodup.2.2 _ hmem _ (by simp) rfl
      have hsee : see seen (.ofList n) = seen ++ [.ofList n] := if_neg hnew
      have hidx : (seen ++ [String.ofList n]).idxOf (.ofList n) = seen.length := by
        rw [List.idxOf_append_of_notMem hnew]
        simp
      -- A name that is new gets the next number, and is seen from here on.
      have hrest := ih (seen ++ [.ofList n]) (fun m hm => hknown m (by simp [hm]))
        (by simpa using hnodup)
      simp only [numbered, if_pos hin, hsee, hidx, hrest, renumbered, names, List.length_append,
        List.length_singleton, List.append_assoc, List.singleton_append]

end Markers

namespace Params

theorem lookup?_of_mem {ps : Params} (h : ps.names.Nodup) {p : Param} (hp : p ∈ ps) :
    ps.lookup? p.name = .some p.value := by
  induction ps with
  | nil => simp at hp
  | cons q ps ih =>
    simp only [names, List.map_cons, List.nodup_cons, List.mem_map, not_exists, not_and] at h
    rcases List.mem_cons.1 hp with rfl | hp
    · simp [lookup?]
    · have hne : q.name ≠ p.name := fun he => h.1 p hp he.symm
      have := ih h.2 hp
      simp only [lookup?] at this
      rw [lookup?, List.find?_cons_of_neg (by simpa using hne), this]

/-- Names that are apart look up all values. -/
theorem filterMap_lookup? {ps : Params} (h : ps.names.Nodup) : ps.names.filterMap ps.lookup? = ps.values := by
  rw [names, List.filterMap_map, values, ← List.filterMap_eq_map]
  exact List.filterMap_congr fun p hp => lookup?_of_mem h hp

end Params

/-- **Parameters with one marker each, in their order**, are numbered from one on, and all are sent. -/
theorem bindNumbered_eq {sql : String} {ps : Params} (hnodup : ps.names.Nodup)
    (hmarkers : Markers.namesIn false sql.toList = ps.names) :
    bindNumbered sql ps =
      .ok ⟨.ofList (Markers.renumbered 1 (Markers.pieces false sql.toList)), ps.values⟩ := by
  have hnames : Markers.names (Markers.pieces false sql.toList) = ps.names := hmarkers
  have hknown : ∀ n ∈ Markers.names (Markers.pieces false sql.toList), n ∈ ps.names := by simp [hnames]
  have hnumbered := Markers.numbered_eq [] _ hknown (by simpa [hnames] using hnodup)
  rw [bindNumbered, if_pos hnodup, hnumbered, hnames]
  simp [Params.filterMap_lookup? hnodup]

end ParamQuery
