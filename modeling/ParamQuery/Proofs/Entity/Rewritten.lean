/-
A declared column that a query selects by another expression.

The new entry stands where the column's own entry stood, and the others
stay as they are. But a column finds its entry by the text that is declared.
So its field has a cell only if the new entry answers for that text; and a
column behind it, for which the new entry answers as well, is read from the
wrong cell (`cell?_mapColumn_iff`).
-/
import ParamQuery.Proofs.Entity.Items
import ParamQuery.Proofs.Select.Entries

namespace ParamQuery

open Projection (Entry AreApart)
open Projection.Entry (lastSegment)

variable {α : Type}

namespace Projection

/-! ## Places of columns -/

theorem place?_bare_of_notMem {columns part : List String} (h : AreApart columns) (hpart : part ⊆ columns)
    {column : String} (hmem : column ∈ columns) (hnot : column ∉ part) :
    place? (part.map Entry.bare) column = .none := by
  refine List.findIdx?_eq_none_iff.2 fun e he => ?_
  obtain ⟨other, hother, rfl⟩ := List.mem_map.1 he
  rw [Bool.eq_false_iff]
  intro hfor
  rw [(isFor_bare_iff h (hpart hother) hmem).1 hfor] at hother
  exact hnot hother

/-- The entries of columns, with another one between them. -/
def rewritten (before : List String) (new : Entry) (after : List String) : Projection :=
  before.map Entry.bare ++ new :: after.map Entry.bare

section Rewritten

variable {before after : List String} {c : String} (h : AreApart (before ++ c :: after)) (new : Entry)

include h

theorem notMem_of_areApart : c ∉ before ∧ c ∉ after := by
  have hnodup := List.nodup_append.1 h.nodup
  exact ⟨fun hc => hnodup.2.2 c hc c (by simp) rfl, (List.nodup_cons.1 hnodup.2.1).1⟩

theorem substitute_bare :
    substitute ((before ++ c :: after).map Entry.bare) c new = rewritten before new after := by
  have hc : c ∈ before ++ c :: after := by simp
  have hkept : ∀ part : List String, part ⊆ before ++ c :: after → c ∉ part →
      substitute (part.map Entry.bare) c new = part.map Entry.bare := by
    intro part hpart hnot
    rw [substitute, List.map_map]
    refine List.map_congr_left fun d hd => if_neg fun hfor => ?_
    rw [(isFor_bare_iff h (hpart hd) hc).1 hfor] at hd
    exact hnot hd
  have hbefore := hkept before (List.subset_append_left ..) (notMem_of_areApart h).1
  have hafter := hkept after (by simp) (notMem_of_areApart h).2
  have hself : (Entry.bare c).isFor c = true := (isFor_bare_iff h hc hc).2 rfl
  rw [substitute] at hbefore hafter ⊢
  rw [List.map_append, List.map_cons, List.map_append, List.map_cons, hbefore, hafter, if_pos hself, rewritten]

/-- A column in front of the new entry finds its own. -/
theorem place?_before {d : String} {j : Nat} (hj : before[j]? = .some d) :
    (rewritten before new after).place? d = .some j := by
  have hbefore : AreApart before := (List.pairwise_append.1 h).1
  have hown := place?_bare hbefore hj
  rw [place?] at hown ⊢
  rw [rewritten, List.findIdx?_append, hown]
  rfl

theorem place?_self :
    (rewritten before new after).place? c = if new.isFor c then .some before.length else .none := by
  have hc : c ∈ before ++ c :: after := by simp
  have hbefore := place?_bare_of_notMem h (List.subset_append_left ..) hc (notMem_of_areApart h).1
  have hbehind : after ⊆ before ++ c :: after := by simp
  have hafter := place?_bare_of_notMem h hbehind hc (notMem_of_areApart h).2
  rw [place?] at hbefore hafter ⊢
  rw [rewritten, List.findIdx?_append, hbefore, List.findIdx?_cons, hafter]
  cases new.isFor c <;> simp

/-- A column behind the new entry finds that one first, if it answers. -/
theorem place?_after {d : String} {j : Nat} (hj : after[j]? = .some d) :
    (rewritten before new after).place? d =
      if new.isFor d then .some before.length else .some (before.length + 1 + j) := by
  have hd := List.mem_of_getElem? hj
  have hparts := List.pairwise_append.1 h
  have hnot : d ∉ before := fun hmem => (List.nodup_append.1 h.nodup).2.2 d hmem d (by simp [hd]) rfl
  have hbefore := place?_bare_of_notMem h (List.subset_append_left ..) (by simp [hd]) hnot
  have hown := place?_bare (List.pairwise_cons.1 hparts.2.1).2 hj
  rw [place?] at hbefore hown ⊢
  rw [rewritten, List.findIdx?_append, hbefore, List.findIdx?_cons, hown]
  cases new.isFor d
  · simp
    omega
  · simp

/-- **Every column finds the entry at its own place** exactly if the new entry answers for its column
and for none behind it. -/
theorem places_rewritten_iff :
    (∀ d j, (before ++ c :: after)[j]? = .some d → (rewritten before new after).place? d = .some j) ↔
      new.isFor c = true ∧ ∀ d ∈ after, new.isFor d = false := by
  have hself : (before ++ c :: after)[before.length]? = .some c := by simp
  have hbehind (j : Nat) : (before ++ c :: after)[before.length + 1 + j]? = after[j]? := by
    rw [List.getElem?_append_right (by omega)]
    simp [show before.length + 1 + j - before.length = j + 1 by omega]
  constructor
  · intro hplaces
    refine ⟨?_, fun d hd => ?_⟩
    · have hown := hplaces c _ hself
      rw [place?_self h new] at hown
      by_contra hnot
      rw [if_neg hnot] at hown
      cases hown
    · obtain ⟨j, hj⟩ := List.getElem?_of_mem hd
      have hown := hplaces d _ ((hbehind j).trans hj)
      rw [place?_after h new hj] at hown
      by_contra hfor
      rw [if_pos (by simpa using hfor), Option.some.injEq] at hown
      omega
  · rintro ⟨hfor, hothers⟩ d j hj
    rcases Nat.lt_trichotomy j before.length with hlt | rfl | hgt
    · rw [List.getElem?_append_left hlt] at hj
      exact place?_before h new hj
    · rw [hself, Option.some.injEq] at hj
      rw [← hj, place?_self h new, if_pos hfor]
    · obtain ⟨i, rfl⟩ : ∃ i, j = before.length + 1 + i := ⟨j - before.length - 1, by omega⟩
      rw [hbehind] at hj
      rw [place?_after h new hj, hothers d (List.mem_of_getElem? hj)]
      rfl

theorem areApart_rewritten
    (hclash : ∀ d ∈ before ++ after, Text.sameIgnoringCase new.outputName (lastSegment d) = false) :
    Text.AreApart ((rewritten before new after).map Entry.outputName) := by
  have hnames (part : List String) : (part.map Entry.bare).map Entry.outputName = part.map lastSegment := by
    rw [List.map_map]
    rfl
  have hparts := List.pairwise_append.1 h
  have hbehind := List.pairwise_cons.1 hparts.2.1
  rw [rewritten, List.map_append, List.map_cons, hnames, hnames, Text.AreApart, List.pairwise_append,
    List.pairwise_cons, List.pairwise_map, List.pairwise_map]
  refine ⟨hparts.1, ⟨fun name hname => ?_, hbehind.2⟩, fun name hname other hother => ?_⟩
  · obtain ⟨d, hd, rfl⟩ := List.mem_map.1 hname
    exact hclash d (List.mem_append_right _ hd)
  · obtain ⟨d, hd, rfl⟩ := List.mem_map.1 hname
    rcases List.mem_cons.1 hother with rfl | hother
    · rw [Text.sameIgnoringCase_comm]
      exact hclash d (List.mem_append_left _ hd)
    · obtain ⟨d', hd', rfl⟩ := List.mem_map.1 hother
      exact hparts.2.2 d hd d' (List.mem_cons_of_mem _ hd')

end Rewritten

end Projection

namespace Select

theorem routing_mapColumn {e : Entity α} {before after : List String} {c : String}
    (hselected : e.selected = before ++ c :: after) (hplain : ∀ d ∈ e.selected, Projection.IsPlain d)
    (hapart : AreApart e.selected) (distinct : Bool) (expression : String) (alias? : Option String) :
    ((Query.ofColumns e distinct).after (.mapColumn c expression alias?)).routing =
      .selecting e (Projection.rewritten before (.make expression alias?) after) := by
  have hc : c ∈ e.columns := (List.mem_filter.1 (hselected ▸ List.mem_append_right _ (List.mem_cons_self ..))).1
  have hentries : Projection.ofFields e.columns = (before ++ c :: after).map Entry.bare := by
    rw [Entity.ofFields_columns, ← hselected]
    exact List.map_congr_left fun d hd => (hplain d hd).read
  have hprojection := projection_mapColumn hc distinct expression alias?
  rw [hentries, Projection.substitute_bare (hselected ▸ hapart)] at hprojection
  have hcolumn : (Query.ofColumns e distinct).entity.hasColumn c = true := Entity.hasColumn_of_mem hc
  rw [Query.routing, hprojection, Query.after, Query.withProjection, if_pos hcolumn]
  rfl

/-- **A declared column that is selected by another expression keeps its field filled, and the others
theirs, exactly if the new entry answers for it and for none behind it.** -/
theorem cell?_mapColumn_iff {e : Entity α} {before after : List String} {c : String}
    (hselected : e.selected = before ++ c :: after) (hplain : ∀ d ∈ e.selected, Projection.IsPlain d)
    (hapart : AreApart e.columns) {expression : String} {alias? : Option String} {new : Entry}
    (hnew : new = .make expression alias?)
    (hclash : ∀ d ∈ before ++ after, Text.sameIgnoringCase new.outputName (lastSegment d) = false)
    {distinct : Bool} {r : Routing α}
    (hr : r = ((Query.ofColumns e distinct).after (.mapColumn c expression alias?)).routing) {row : Row}
    (hrow : row.Carries (r.projection.map Entry.outputName)) :
    ((∀ f ∈ e.fields, ∀ d j, f.column? = .some d → e.selected[j]? = .some d → r.cell? row f = .some j) ↔
        new.isFor c = true ∧ ∀ d ∈ after, new.isFor d = false) ∧
      (new.isFor c = false → ∀ f, f.column? = .some c → r.cell? row f = .none) ∧
      ((e.fields.map (·.property)).Nodup →
        r.item? row =
          if ∀ f ∈ e.fields, r.cell? row f = .none then .ok .none
          else (e.fill fun f => (r.cell? row f).bind fun k =>
            ((r.projection.map Entry.outputName).zip row.values)[k]?).map .some) := by
  have hkept : AreApart e.selected := List.Pairwise.filter _ hapart
  have hsplit : AreApart (before ++ c :: after) := hselected ▸ hkept
  rw [routing_mapColumn hselected hplain hkept, ← hnew] at hr
  subst hr
  have hcarries : row.Carries ((Projection.rewritten before new after).map Entry.outputName) := hrow
  have hnames := Projection.areApart_rewritten hsplit new hclash
  have hcell (f : Field α) {d : String} (hd : f.column? = .some d) :
      (Routing.selecting e (Projection.rewritten before new after)).cell? row f =
        (Projection.rewritten before new after).place? d := by
    rw [Routing.cell?_of_carries hcarries hnames, hd, Option.bind_some]
  refine ⟨?_, fun hnot f hc => ?_, fun hproperties => Routing.item?_of_carries hcarries hnames hproperties⟩
  · rw [← Projection.places_rewritten_iff hsplit new, ← hselected]
    constructor
    · intro hplaces d j hj
      obtain ⟨f, hf, hd⟩ := List.mem_filterMap.1 (List.mem_filter.1 (List.mem_of_getElem? hj)).1
      rw [← hcell f hd]
      exact hplaces f hf d j hd hj
    · intro hplaces f _ d j hd hj
      rw [hcell f hd]
      exact hplaces d j hj
  · rw [hcell f hc, Projection.place?_self hsplit new, hnot]
    rfl

/-- Products by another number. -/
def renumbered : Query Product :=
  (Query.ofColumns product false).after (.mapColumn "Id" "q.Number" (.some "ID"))

def renumberedRow : Row := .ofValues ["id", "productid", "name"] [.int 7, .int 3, .text "Box"]

/-- Products by another name, which is not called as the declared one. -/
def renamed : Query Product := (Query.ofColumns product false).after (.mapColumn "p.Name" "q.FullName" .none)

def renamedRow : Row := .ofValues ["Id", "ProductId", "FullName"] [.int 7, .int 3, .text "Box"]

theorem product_isPlain :
    (∀ d ∈ product.selected, Projection.IsPlain d) ∧ AreApart product.columns ∧
      (product.fields.map (·.property)).Nodup := by
  have hcuts : ∀ d ∈ product.selected, Text.isBlankText d = false ∧ Text.trimmed d = d ∧
      Entry.cutAtAs? d.toList = .none := by decide
  refine ⟨fun d hd => ?_, by unfold AreApart; decide, by decide⟩
  obtain ⟨hblank, htrim, hcut⟩ := hcuts d hd
  exact ⟨hblank, htrim, Projection.cutAtAs?_eq_none_iff.1 hcut⟩

theorem cell?_mapColumn_renumbered :
    (∀ d ∈ product.selected, Projection.IsPlain d) ∧ AreApart product.columns ∧
      product.selected = [] ++ "Id" :: ["ProductId", "p.Name"] ∧
      (∀ d ∈ [] ++ ["ProductId", "p.Name"],
        Text.sameIgnoringCase (Entry.make "q.Number" (.some "ID")).outputName (lastSegment d) = false) ∧
      renumberedRow.Carries (renumbered.routing.projection.map Entry.outputName) ∧
      (∀ f ∈ product.fields, ∀ d j, f.column? = .some d → product.selected[j]? = .some d →
        renumbered.routing.cell? renumberedRow f = .some j) ∧
      renumbered.routing.item? renumberedRow = .ok (.some ⟨7, 3, "Box"⟩) := by
  obtain ⟨hplain, hapart, hproperties⟩ := product_isPlain
  have hselected : product.selected = [] ++ "Id" :: ["ProductId", "p.Name"] := by decide
  have hclash : ∀ d ∈ [] ++ ["ProductId", "p.Name"],
      Text.sameIgnoringCase (Entry.make "q.Number" (.some "ID")).outputName (lastSegment d) = false := by
    decide
  have hrow : renumberedRow.Carries (renumbered.routing.projection.map Entry.outputName) := by
    unfold Row.Carries
    decide
  obtain ⟨hplaces, -, hitem⟩ := cell?_mapColumn_iff hselected hplain hapart rfl hclash rfl hrow
  refine ⟨hplain, hapart, hselected, hclash, hrow, hplaces.2 (by decide), ?_⟩
  exact (hitem hproperties).trans (by rfl)

/-- The field of the declared column keeps its default, although its cell is there. -/
theorem name_unfilled :
    (∀ d ∈ product.selected, Projection.IsPlain d) ∧ AreApart product.columns ∧
      (product.fields.map (·.property)).Nodup ∧
      "p.Name" ∈ product.columns ∧ Text.isBlankText "q.FullName" = false ∧
      (∀ d ∈ ["Id", "ProductId"],
        Text.sameIgnoringCase (Entry.make "q.FullName" .none).outputName (lastSegment d) = false) ∧
      renamedRow.Carries (renamed.routing.projection.map Entry.outputName) ∧
      renamedRow.values = [.int 7, .int 3, .text "Box"] ∧
      renamed.routing.item? renamedRow = .ok (.some ⟨7, 3, ""⟩) := by
  obtain ⟨hplain, hapart, hproperties⟩ := product_isPlain
  have hrow : renamedRow.Carries (renamed.routing.projection.map Entry.outputName) := by
    unfold Row.Carries
    decide
  have hnames : Text.AreApart (renamed.routing.projection.map Entry.outputName) := by
    unfold Text.AreApart
    decide
  have hitem := Routing.item?_of_carries (e := product) hrow hnames hproperties
  simp only [Routing.cell?_of_carries hrow hnames] at hitem
  exact ⟨hplain, hapart, hproperties, by decide, by decide, by decide, hrow, rfl,
    hitem.trans (by rfl)⟩

end Select

end ParamQuery
