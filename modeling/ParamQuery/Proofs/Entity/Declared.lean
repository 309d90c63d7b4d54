/-
What the text of a declared column finds.

A column finds its entry by its text, but the entry goes by what was read
out of it. With an alias the two never meet: the column is selected, and its
field is not filled from it (`alias_unread`). And behind a wildcard the text
itself is looked up in the row, so a column with a qualifier is not found
there (`wildcard_agrees_iff`).
-/
import ParamQuery.Proofs.Entity.Materialized
import ParamQuery.Proofs.Select.Entries

namespace ParamQuery

open Projection (Entry IsUnaliased)
open Projection.Entry (lastSegment)

variable {α : Type}

/-! ## Aliases -/

theorem Text.trim_of_isBlankText {s : String} (h : isBlankText s = true) : trim s.toList = [] := by
  have hstart : trimStart s.toList = [] := List.dropWhile_eq_nil_iff.2 (List.all_eq_true.1 h)
  rw [trim, hstart]
  rfl

section Aliased

variable {c expression name : String} (hread : Entry.read c = ⟨expression, .some name⟩)

include hread

theorem Projection.cut_of_alias : ∃ parts, Entry.cutAtAs? (Text.trim c.toList) = .some parts := by
  cases hcut : Entry.cutAtAs? (Text.trim c.toList) with
  | some parts => exact ⟨parts, rfl⟩
  | none =>
    rw [Entry.read_of_not_cut hcut] at hread
    cases hread

theorem Projection.length_alias_lt : name.toList.length < c.toList.length := by
  obtain ⟨parts, hcut⟩ := cut_of_alias hread
  have hlength := (Entry.length_read_of_cut hcut).2
  rwa [hread] at hlength

theorem Projection.not_isFor_of_alias : (Entry.read c).isFor c = false := by
  rw [Bool.eq_false_iff]
  intro hfor
  obtain ⟨htrimmed, hunaliased⟩ := (isFor_read_self_iff c).1 hfor
  obtain ⟨parts, hcut⟩ := cut_of_alias hread
  rw [Text.trim_of_trimmed htrimmed, cutAtAs?_eq_none_iff.2 hunaliased] at hcut
  cases hcut

theorem Entity.mem_selected_of_alias {e : Entity α} (hc : c ∈ e.columns) : c ∈ e.selected := by
  refine List.mem_filter.2 ⟨hc, ?_⟩
  rw [Bool.not_eq_true', Bool.eq_false_iff]
  intro hblank
  obtain ⟨parts, hcut⟩ := Projection.cut_of_alias hread
  rw [Text.trim_of_isBlankText hblank] at hcut
  cases hcut

end Aliased

namespace Routing

variable {r : Routing α} {row : Row} {f : Field α} {route : Route}

theorem declared?_of_origin (hroute : r.route? row f = .some route) (horigin : route.origin = .declared) :
    r.declared? row f = .some route := by
  simp only [route?, Option.orElse_eq_orElse, Option.orElse_eq_or, Option.or_eq_some_iff] at hroute
  rcases hroute with hmapped | ⟨-, hdeclared | ⟨-, hnamed⟩⟩
  · obtain ⟨column, -, rfl⟩ := Option.map_eq_some_iff.1 hmapped
    cases horigin
  · exact hdeclared
  · unfold named? at hnamed
    split at hnamed
    · rw [← Option.some.inj hnamed] at horigin
      cases horigin
    · cases hnamed

/-- The column of a declared route is the name of an entry that answers, or the declared text. -/
theorem column_of_declared? {c : String} (hc : f.column? = .some c) (h : r.declared? row f = .some route) :
    (∃ entry ∈ r.projection, entry.isFor c = true ∧ route.column = entry.outputName) ∨
      (r.projection.hasWildcard = true ∧ route.column = c) := by
  rw [declared?, hc, Option.bind_some] at h
  obtain ⟨⟨column, optional⟩, hselected, hroute⟩ := Option.bind_eq_some_iff.1 h
  have hcolumn : route.column = column := by
    dsimp only at hroute
    split at hroute
    · rw [← Option.some.inj hroute]
    · cases hroute
  rw [hcolumn]
  unfold selected? at hselected
  split at hselected
  · rename_i entry hfind
    rw [← (Prod.mk.inj (Option.some.inj hselected)).1]
    exact .inl ⟨entry, List.mem_of_find?_eq_some hfind, List.find?_some hfind, rfl⟩
  · split at hselected
    · rename_i hwildcard
      exact .inr ⟨hwildcard, (Prod.mk.inj (Option.some.inj hselected)).1.symm⟩
    · cases hselected

section Unread

variable {c expression name : String} (hprojection : r.projection = .ofFields r.entity.columns)
  (hc : f.column? = .some c) (hread : Entry.read c = ⟨expression, .some name⟩)

include hprojection hread

/-- The column's own entry does not answer for it. -/
theorem other_of_isFor {entry : Entry} (hentry : entry ∈ r.projection) (hfor : entry.isFor c = true) :
    ∃ d ∈ r.entity.selected, d ≠ c ∧ Entry.read d = entry := by
  rw [hprojection, Entity.ofFields_columns] at hentry
  obtain ⟨d, hd, rfl⟩ := List.mem_map.1 hentry
  refine ⟨d, hd, ?_, rfl⟩
  rintro rfl
  rw [Projection.not_isFor_of_alias hread] at hfor
  cases hfor

include hc

/-- A declared route has the name of another entry, or the declared text, which is longer. -/
theorem not_alias_of_declared?
    (hothers : ∀ d ∈ r.entity.selected, d ≠ c → Text.sameIgnoringCase (Entry.read d).outputName name = false)
    (h : r.declared? row f = .some route) : Text.sameIgnoringCase route.column name = false := by
  rcases column_of_declared? hc h with ⟨entry, hentry, hfor, heq⟩ | ⟨-, heq⟩
  · obtain ⟨d, hd, hne, rfl⟩ := other_of_isFor hprojection hread hentry hfor
    rw [heq]
    exact hothers d hd hne
  · rw [Bool.eq_false_iff]
    intro hsame
    have hlength := Text.length_eq_of_same hsame
    have hshorter := Projection.length_alias_lt hread
    rw [heq] at hlength
    omega

theorem declared?_eq_none
    (hnone : ∀ d ∈ r.entity.selected, d ≠ c →
      (Entry.read d).isFor c = false ∧ (Entry.read d).isWildcard = false) :
    r.declared? row f = .none := by
  by_contra hsome
  obtain ⟨route, hdeclared⟩ := Option.ne_none_iff_exists'.1 hsome
  rcases column_of_declared? hc hdeclared with ⟨entry, hentry, hfor, -⟩ | ⟨hwildcard, -⟩
  · obtain ⟨d, hd, hne, rfl⟩ := other_of_isFor hprojection hread hentry hfor
    rw [(hnone d hd hne).1] at hfor
    cases hfor
  · obtain ⟨entry, hentry, hstands⟩ := List.any_eq_true.1 hwildcard
    rw [hprojection, Entity.ofFields_columns] at hentry
    obtain ⟨d, hd, rfl⟩ := List.mem_map.1 hentry
    by_cases hne : d = c
    · rw [hne, hread] at hstands
      cases hstands
    · rw [(hnone d hd hne).2] at hstands
      cases hstands

end Unread

/-- **A declared column that carries an alias is selected, and never read back.** -/
theorem alias_unread (hprojection : r.projection = .ofFields r.entity.columns)
    (hf : f ∈ r.entity.fields) {c expression name : String} (hc : f.column? = .some c)
    (hread : Entry.read c = ⟨expression, .some name⟩)
    (hothers : ∀ d ∈ r.entity.selected, d ≠ c → Text.sameIgnoringCase (Entry.read d).outputName name = false) :
    Entry.read c ∈ r.projection ∧
      (∀ row route, r.route? row f = .some route → route.origin = .declared →
        ∀ k, row.position? name = .some k → row.position? route.column ≠ .some k) ∧
      ((r.entity.fields.map (·.property)).Nodup → r.map? = .none → r.byName = false →
        (∀ d ∈ r.entity.selected, d ≠ c →
          (Entry.read d).isFor c = false ∧ (Entry.read d).isWildcard = false) →
        ∀ {γ : Type} (l : r.entity.Layout γ) (row : Row) (item : α), r.item? row = .ok (.some item) →
          l.get f.property item = l.get f.property r.entity.blank) := by
  refine ⟨?_, fun row route hroute horigin k hname hcolumn => ?_, ?_⟩
  · rw [hprojection, Entity.ofFields_columns]
    exact List.mem_map_of_mem (Entity.mem_selected_of_alias hread (List.mem_filterMap.2 ⟨f, hf, hc⟩))
  · have hsame := Text.sameIgnoringCase_iff.2 (Row.same_of_positions hcolumn hname)
    rw [not_alias_of_declared? hprojection hc hread hothers (declared?_of_origin hroute horigin)] at hsame
    cases hsame
  · intro hnodup hmap hbyName hnone γ l row item hitem
    have hroute : r.route? row f = .none := by
      rw [route?_of_unmapped hmap hbyName, declared?_eq_none hprojection hc hread hnone]
    exact (isMadeOf_of_item? l hnodup hitem).unrouted hnodup hf hroute

/-- Invoices with their sums, of which one that is not read is negative. -/
structure Invoice where
  number : Int64
  total : Int64

/-- The field of the column with the alias. -/
def invoiceTotal : Field Invoice :=
  .of "total" (.some "SUM(l.Price) as Total") .int readNumber fun i total => { i with total }

def invoice : Entity Invoice where
  typeName := "Invoice"
  table? := .some "invoices"
  fields := [.of "number" (.some "i.Id") .int readNumber fun i number => { i with number }, invoiceTotal]
  blank := ⟨0, -1⟩

def invoice.layout : invoice.Layout Int64 where
  get name i := if name = "number" then i.number else if name = "total" then i.total else 0
  read _ v := (readNumber v).map id
  writes := by
    simp only [invoice, invoiceTotal, List.forall_mem_cons]
    refine ⟨Field.writes_of id (fun _ _ => rfl) ?_, Field.writes_of id (fun _ _ => rfl) ?_, by simp⟩
    all_goals exact fun _ _ _ hname => by simp only [if_neg hname]

def invoices : Routing Invoice := .selecting invoice (.ofFields invoice.columns)

def invoiceRow : Row := .ofValues ["Id", "Total"] [.int 7, .int 120]

theorem alias_unread_invoice :
    invoices.projection = .ofFields invoice.columns ∧ invoiceTotal ∈ invoice.fields ∧
      Entry.read "SUM(l.Price) as Total" = ⟨"SUM(l.Price)", .some "Total"⟩ ∧
      (∀ d ∈ invoice.selected, d ≠ "SUM(l.Price) as Total" →
        Text.sameIgnoringCase (Entry.read d).outputName "Total" = false) ∧
      (∀ d ∈ invoice.selected, d ≠ "SUM(l.Price) as Total" →
        (Entry.read d).isFor "SUM(l.Price) as Total" = false ∧ (Entry.read d).isWildcard = false) ∧
      ∀ row item, invoices.item? row = .ok (.some item) → item.total = -1 := by
  have hmem : invoiceTotal ∈ invoice.fields := .tail _ (.head _)
  have hread : Entry.read "SUM(l.Price) as Total" = ⟨"SUM(l.Price)", .some "Total"⟩ := by decide
  have hothers : ∀ d ∈ invoice.selected, d ≠ "SUM(l.Price) as Total" →
      Text.sameIgnoringCase (Entry.read d).outputName "Total" = false := by decide
  have hnone : ∀ d ∈ invoice.selected, d ≠ "SUM(l.Price) as Total" →
      (Entry.read d).isFor "SUM(l.Price) as Total" = false ∧ (Entry.read d).isWildcard = false := by
    decide +kernel
  obtain ⟨-, -, hdefault⟩ := alias_unread (r := invoices) rfl hmem rfl hread hothers
  exact ⟨rfl, hmem, hread, hothers, hnone,
    fun row item hitem => hdefault (by decide) rfl rfl hnone invoice.layout row item hitem⟩

/-- The sum is selected, and the row has it; but the field has no route and keeps its default. -/
theorem total_unread :
    invoiceTotal ∈ invoice.fields ∧ Entry.read "SUM(l.Price) as Total" = ⟨"SUM(l.Price)", .some "Total"⟩ ∧
      (∀ d ∈ invoice.selected, d ≠ "SUM(l.Price) as Total" →
        Text.sameIgnoringCase (Entry.read d).outputName "Total" = false) ∧
      invoiceRow.Carries (invoices.projection.map Entry.outputName) ∧
      invoiceRow.values = [.int 7, .int 120] ∧
      invoices.route? invoiceRow invoiceTotal = .none ∧
      invoices.item? invoiceRow = .ok (.some ⟨7, -1⟩) := by
  have hrow : invoiceRow.Carries (invoices.projection.map Entry.outputName) := by
    unfold Row.Carries
    decide
  have hnames : Text.AreApart (invoices.projection.map Entry.outputName) := by
    unfold Text.AreApart
    decide
  have hitem := item?_of_carries (e := invoice) hrow hnames (by decide)
  simp only [cell?_of_carries hrow hnames] at hitem
  refine ⟨.tail _ (.head _), by decide, by decide, hrow, rfl, ?_, hitem.trans (by rfl)⟩
  exact (route?_eq_none_iff (e := invoice) hrow hnames _).2 ((cell?_of_carries hrow hnames _).trans (by rfl))

/-! ## Wildcards -/

/-- A field is read from one cell, and given one value. -/
def Agree (r r' : Routing α) (row : Row) (f : Field α) : Prop :=
  ∃ k, r.cell? row f = .some k ∧ r'.cell? row f = .some k ∧ ∀ item, r.given row f item = r'.given row f item

/-- All columns. -/
def star : Projection := .ofFields ["*"]

theorem star_eq : star = [.bare "*"] := by decide

/-- The entry of all columns answers for its own text alone: there is no letter in it. -/
theorem isFor_star_iff {c : String} : (Entry.bare "*").isFor c = true ↔ c = "*" := by
  have hname : (Entry.bare "*").outputName = "*" := by decide
  rw [Entry.isFor, hname, Bool.or_eq_true, beq_iff_eq]
  constructor
  · rintro (heq | hsame)
    · exact heq.symm
    · have hlow : c.toList.map Char.toLower = ['*'] := (eq_of_beq hsame).symm
      obtain ⟨d, hd, hstar⟩ := List.map_eq_singleton_iff.1 hlow
      rw [← String.ofList_toList (s := c), hd, (Text.toLower_eq_iff (by decide)).1 hstar]
  · rintro rfl
    exact .inl rfl

section Star

variable {e : Entity α} {row : Row} {f : Field α} {c : String} (hc : f.column? = .some c)

include hc

/-- Behind a wildcard a column is read by its own text. -/
theorem column_star {route : Route} (h : (selecting e star).route? row f = .some route) : route.column = c := by
  rw [route?_selecting] at h
  rcases column_of_declared? hc h with ⟨entry, hentry, hfor, hcolumn⟩ | ⟨-, hcolumn⟩
  · rw [selecting, star_eq] at hentry
    cases List.mem_singleton.1 hentry
    rw [hcolumn, isFor_star_iff.1 hfor]
    decide
  · exact hcolumn

theorem route?_star (hrow : row.hasColumn c = true) :
    ∃ route, (selecting e star).route? row f = .some route := by
  cases hfind : star.find? c with
  | some entry => exact ⟨_, route?_of_find? hc hfind⟩
  | none =>
    have hwildcard : star.hasWildcard = true := by decide
    rw [route?_of_not_find? hc hfind, hwildcard, hrow]
    exact ⟨_, rfl⟩

theorem cell?_star {k : Nat} :
    (selecting e star).cell? row f = .some k ↔ row.position? c = .some k := by
  constructor
  · intro hcell
    obtain ⟨route, hroute, hk⟩ := Option.bind_eq_some_iff.1 hcell
    rwa [column_star hc hroute] at hk
  · intro hk
    obtain ⟨route, hroute⟩ := route?_star (e := e) hc (Option.isSome_iff_exists.2 ⟨k, hk⟩)
    rw [cell?, hroute, Option.bind_some, column_star hc hroute, hk]

end Star

theorem position?_two {a b : String} (h : a ≠ b) (values : List Value) :
    (Row.ofValues [a, b] values).position? a = .some 0 ∧ (Row.ofValues [a, b] values).position? b = .some 1 := by
  simp [Row.position?, Row.place?, Row.ofValues, List.findIdx?_cons, h]

section Listed

variable {e : Entity α} {f : Field α} {c : String} (hc : f.column? = .some c) {p : Projection}

include hc

theorem cell?_listed {entry : Entry} (hfind : p.find? c = .some entry) (row : Row) :
    (selecting e p).cell? row f = row.position? entry.outputName := by
  rw [cell?, route?_of_find? hc hfind, Option.bind_some]

/-- An entry that goes by the text of the column leads to the same cell. -/
theorem agree_of_named {entry : Entry} (hfind : p.find? c = .some entry) (hname : entry.outputName = c)
    {row : Row} (hrow : row.hasColumn c = true) : Agree (selecting e star) (selecting e p) row f := by
  obtain ⟨k, hk⟩ := Option.isSome_iff_exists.1 hrow
  obtain ⟨v, -, hv⟩ := Row.get?_of_position? hk
  obtain ⟨route, hroute⟩ := route?_star (e := e) hc hrow
  have hcolumn := column_star hc hroute
  refine ⟨k, (cell?_star hc).2 hk, (cell?_listed hc hfind row).trans (hname ▸ hk), fun item => ?_⟩
  rw [given_of_get? hroute (hcolumn ▸ hv), given_of_get? (route?_of_find? hc hfind) (hname ▸ hv), hcolumn, hname]

/-- Otherwise a row of the name of the entry and of the column keeps them apart. -/
theorem named_of_agree {entry : Entry} (hfind : p.find? c = .some entry)
    (h : ∀ row : Row, row.hasColumn c = true → Agree (selecting e star) (selecting e p) row f) :
    entry.outputName = c := by
  by_contra hne
  obtain ⟨hfirst, hsecond⟩ := position?_two hne []
  obtain ⟨k, hstar, hcell, -⟩ := h _ (Option.isSome_iff_exists.2 ⟨1, hsecond⟩)
  rw [cell?_star hc, hsecond, Option.some.injEq] at hstar
  rw [cell?_listed hc hfind, hfirst, Option.some.injEq] at hcell
  omega

/-- In a row of its name alone, only a column that is its name is found. -/
theorem unqualified_of_star {k : Nat}
    (h : (selecting e star).cell? (.ofValues [lastSegment (Text.trimmed c)] []) f = .some k) :
    Text.trimmed c = c ∧ '.' ∉ c.toList := by
  obtain ⟨name, hname, hlow⟩ := Row.same_of_position? ((cell?_star hc).1 h)
  have hself : name = lastSegment (Text.trimmed c) := List.mem_singleton.1 (List.mem_of_getElem? hname)
  rw [hself] at hlow
  have hlength := Text.length_eq_of_same (Text.sameIgnoringCase_iff.2 hlow)
  have hshorter := Entry.length_lastSegment_le (Text.trimmed c)
  exact ⟨Text.trimmed_eq_of_length (by omega), Projection.dot_notMem_of_same hlow⟩

end Listed

/-- **A listed column fills its field as a wildcard does** exactly if it has no qualifier, and the entry
that it finds goes by its own text. With a qualifier the two are read from different cells. -/
theorem wildcard_agrees_iff {e : Entity α} {f : Field α} {c : String} (hc : f.column? = .some c)
    (hunaliased : IsUnaliased (Text.trim c.toList)) {p : Projection} (hlisted : Entry.read c ∈ p) :
    ((∀ row : Row, row.hasColumn (Entry.read c).outputName = true →
        Agree (selecting e star) (selecting e p) row f) ↔
      Text.trimmed c = c ∧ '.' ∉ c.toList ∧ ∀ entry, p.find? c = .some entry → entry.outputName = c) ∧
      (p.find? c = .some (.bare c) → '.' ∈ c.toList →
        ∀ row, ¬ Agree (selecting e star) (selecting e p) row f) := by
  have hread : Entry.read c = .bare (Text.trimmed c) :=
    Entry.read_of_not_cut (Projection.cutAtAs?_eq_none_iff.2 hunaliased)
  have hname : (Entry.read c).outputName = lastSegment (Text.trimmed c) := by rw [hread]; rfl
  rw [hname]
  refine ⟨⟨fun h => ?_, ?_⟩, ?_⟩
  · obtain ⟨k, hk, -⟩ := h (.ofValues [lastSegment (Text.trimmed c)] [])
      (Row.hasColumn_iff.2 ⟨_, List.mem_singleton_self _, rfl⟩)
    obtain ⟨htrimmed, hdot⟩ := unqualified_of_star hc hk
    rw [htrimmed, Projection.lastSegment_of_dot_notMem hdot] at h
    exact ⟨htrimmed, hdot, fun entry hfind => named_of_agree hc hfind h⟩
  · rintro ⟨htrimmed, hdot, hnamed⟩ row hrow
    rw [htrimmed, Projection.lastSegment_of_dot_notMem hdot] at hrow
    rw [htrimmed] at hread
    have hfor : (Entry.bare c).isFor c = true := by simp [Entry.isFor, Entry.bare]
    obtain ⟨entry, hfind⟩ := Option.isSome_iff_exists.1 (List.find?_isSome.2 ⟨_, hread ▸ hlisted, hfor⟩)
    exact agree_of_named hc hfind (hnamed entry hfind) hrow
  · rintro hfind hdot row ⟨k, hstar, hcell, -⟩
    rw [cell?_star hc] at hstar
    rw [cell?_listed hc hfind] at hcell
    exact Projection.dot_notMem_of_same (Row.same_of_positions hcell hstar) hdot

/-- The field of a column without qualifier. -/
def productId : Field Select.Product :=
  .of "id" (.some "Id") .int readNumber fun p id => { p with id }

/-- The field of a column with one. -/
def productName : Field Select.Product :=
  .of "name" (.some "p.Name") .text readText fun p name => { p with name }

def nameRow : Row := .ofValues ["Name"] [.text "Box"]

theorem wildcard_agrees_product :
    IsUnaliased (Text.trim "Id".toList) ∧ Entry.read "Id" ∈ Projection.ofFields Select.product.columns ∧
      (∀ row : Row, row.hasColumn "Id" = true →
        Agree (selecting Select.product star) (selecting Select.product (.ofFields Select.product.columns)) row
          productId) ∧
      IsUnaliased (Text.trim "p.Name".toList) ∧ Entry.read "p.Name" ∈ Projection.ofFields Select.product.columns ∧
      ∀ row, ¬ Agree (selecting Select.product star)
        (selecting Select.product (.ofFields Select.product.columns)) row productName := by
  have hplain : ∀ c ∈ ["Id", "p.Name"], Entry.cutAtAs? (Text.trim c.toList) = .none ∧
      Entry.read c ∈ Projection.ofFields Select.product.columns ∧
      (Projection.ofFields Select.product.columns).find? c = .some (.bare c) := by decide
  obtain ⟨hid, hidListed, hidFound⟩ := hplain "Id" (by simp)
  obtain ⟨hname, hnameListed, hnameFound⟩ := hplain "p.Name" (by simp)
  rw [Projection.cutAtAs?_eq_none_iff] at hid hname
  have hnumber := (wildcard_agrees_iff (e := Select.product) (f := productId) rfl hid hidListed).1.2
  have hqualified := (wildcard_agrees_iff (e := Select.product) (f := productName) rfl hname hnameListed).2
  have houtput : (Entry.read "Id").outputName = "Id" := by decide
  rw [houtput] at hnumber
  refine ⟨hid, hidListed, hnumber ⟨by decide, by decide, ?_⟩, hname, hnameListed,
    hqualified hnameFound (by decide)⟩
  intro entry hfind
  rw [hidFound, Option.some.injEq] at hfind
  rw [← hfind]
  decide

/-- The row has the name, and the listed column is read from it. The wildcard does not find it, and the
row makes no item. -/
theorem name_behind_wildcard :
    productName ∈ Select.product.fields ∧ IsUnaliased (Text.trim "p.Name".toList) ∧
      Entry.read "p.Name" ∈ Projection.ofFields ["p.Name"] ∧
      nameRow.hasColumn (Entry.read "p.Name").outputName = true ∧
      (selecting Select.product (.ofFields ["p.Name"])).cell? nameRow productName = .some 0 ∧
      (selecting Select.product star).cell? nameRow productName = .none ∧
      (selecting Select.product star).routes nameRow = [] := by
  have hcut : Entry.cutAtAs? (Text.trim "p.Name".toList) = .none := by decide
  refine ⟨.tail _ (.tail _ (.head _)), Projection.cutAtAs?_eq_none_iff.1 hcut, ?_⟩
  decide

end Routing

end ParamQuery
