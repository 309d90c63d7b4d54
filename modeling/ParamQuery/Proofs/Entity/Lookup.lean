/-
How a declared column finds its way: through the list of what is selected,
to a place in a row, and back to a field.

Every search takes the first thing that answers, by more than one rule. So
what has to be shown is that nothing else answers: `find?_bare` for the
list, `position?_of_areApart` for the row, `find_of_nodup` and `assign_of_mem` for
the fields.
-/
import ParamQuery.Entity.Routing
import ParamQuery.Proofs.Select.Text

namespace ParamQuery

/-- The only element that answers is the first one that does. -/
theorem find?_eq_some_of_unique {α : Type} {p : α → Bool} {l : List α} {a : α} (ha : a ∈ l)
    (hp : p a = true) (hunique : ∀ b ∈ l, p b = true → b = a) : l.find? p = .some a := by
  cases hfind : l.find? p with
  | none =>
    have := List.find?_eq_none.1 hfind a ha
    exact absurd hp this
  | some b => rw [hunique b (List.mem_of_find?_eq_some hfind) (List.find?_some hfind)]

/-- The only place that answers is the first one that does. -/
theorem findIdx?_eq_some_of_unique {α : Type} {p : α → Bool} {l : List α} {i : Nat} {a : α}
    (ha : l[i]? = .some a) (hp : p a = true)
    (hunique : ∀ j b, l[j]? = .some b → p b = true → j = i) : l.findIdx? p = .some i := by
  cases hfind : l.findIdx? p with
  | none =>
    have := List.findIdx?_eq_none_iff.1 hfind a (List.mem_of_getElem? ha)
    simp [hp] at this
  | some j =>
    obtain ⟨hj, hpj, -⟩ := List.findIdx?_eq_some_iff_getElem.1 hfind
    rw [hunique j _ (List.getElem?_eq_getElem hj) hpj]

/-! ## Case -/

theorem Text.sameIgnoringCase_iff {a b : String} :
    sameIgnoringCase a b = true ↔ asciiLower a = asciiLower b := by
  simp [sameIgnoringCase, asciiLower, String.ofList_inj]

theorem Text.sameIgnoringCase_comm (a b : String) : sameIgnoringCase a b = sameIgnoringCase b a := by
  rw [Bool.eq_iff_iff, sameIgnoringCase_iff, sameIgnoringCase_iff, eq_comm]

/-- Names that can be told apart without case. -/
def Text.AreApart (names : List String) : Prop := names.Pairwise fun a b => sameIgnoringCase a b = false

/-- Names that are apart are at the same place if they are the same. -/
theorem Text.AreApart.injective {names : List String} (h : AreApart names) {i j : Nat} {a b : String}
    (ha : names[i]? = .some a) (hb : names[j]? = .some b) (hsame : asciiLower a = asciiLower b) : i = j := by
  obtain ⟨hi, rfl⟩ := List.getElem?_eq_some_iff.1 ha
  obtain ⟨hj, rfl⟩ := List.getElem?_eq_some_iff.1 hb
  have hpairs := List.pairwise_iff_getElem.1 h
  rcases Nat.lt_trichotomy i j with hlt | heq | hgt
  · have := hpairs i j hi hj hlt
    rw [sameIgnoringCase_iff.2 hsame] at this
    simp at this
  · exact heq
  · have := hpairs j i hj hi hgt
    rw [sameIgnoringCase_iff.2 hsame.symm] at this
    simp at this

/-- Nothing but itself becomes a character in front of the letters. -/
theorem Text.toLower_eq_iff {c d : Char} (hd : d.toNat < 'A'.toNat) : c.toLower = d ↔ c = d := by
  have hbelow : d.val.toNat < 65 := hd
  unfold Char.toLower
  split
  · rename_i hupper
    have hA : (65 : Nat) ≤ c.val.toNat := UInt32.le_iff_toNat_le.1 hupper.1
    have hZ : c.val.toNat ≤ 90 := UInt32.le_iff_toNat_le.1 hupper.2
    constructor
    · rintro rfl
      have hnat : c.toNat = c.val.toNat := rfl
      simp at hbelow
      omega
    · rintro rfl
      omega
  · rfl

theorem Text.trim_of_trimmed {s : String} (h : trimmed s = s) : trim s.toList = s.toList := by
  have := congrArg String.toList h
  rwa [trimmed, String.toList_ofList] at this

/-! ## Columns -/

namespace Projection

/-- A text has no alias: there is no `AS` in it, in any case, with a space on both sides. -/
def IsUnaliased (cs : List Char) : Prop :=
  ∀ before a s after, cs = before ++ ' ' :: a :: s :: ' ' :: after → ¬ (a.toUpper = 'A' ∧ s.toUpper = 'S')

/-- A declared column of which nothing is dropped and nothing is read as an alias. -/
structure IsPlain (column : String) : Prop where
  nonBlank : Text.isBlankText column = false
  trimmed : Text.trimmed column = column
  unaliased : IsUnaliased column.toList

/-- The entry of an expression without alias. -/
def Entry.bare (column : String) : Entry := ⟨column, .none⟩

theorem behindAs?_of_upper {a s : Char} (ha : a.toUpper = 'A') (hs : s.toUpper = 'S')
    (rest : List Char) : Entry.behindAs? (' ' :: a :: s :: ' ' :: rest) = .some rest := by
  simp [Entry.behindAs?, ha, hs]

theorem cutAtAs?_eq_none_iff {cs : List Char} : Entry.cutAtAs? cs = .none ↔ IsUnaliased cs := by
  constructor
  · intro h before
    induction before generalizing cs with
    | nil =>
      rintro a s after rfl ⟨ha, hs⟩
      rw [List.nil_append, Entry.cutAtAs?] at h
      split at h
      · simp at h
      · simp [behindAs?_of_upper ha hs] at h
    | cons c before ih =>
      rintro a s after rfl ⟨ha, hs⟩
      rw [List.cons_append, Entry.cutAtAs?] at h
      split at h
      · simp at h
      · rename_i hnone
        exact ih hnone a s after rfl ⟨ha, hs⟩
  · intro h
    cases hcut : Entry.cutAtAs? cs with
    | none => rfl
    | some parts =>
      obtain ⟨a, s, ha, hs, hcs⟩ := Entry.cutAtAs?_eq hcut
      exact absurd ⟨ha, hs⟩ (h _ a s _ hcs)

theorem Entry.read_of_not_cut {field : String} (h : cutAtAs? (Text.trim field.toList) = .none) :
    read field = bare (Text.trimmed field) := by
  rw [read, h]
  rfl

theorem Entry.read_of_cut {field : String} {before after : List Char}
    (h : cutAtAs? (Text.trim field.toList) = .some (before, after)) :
    read field = make (.ofList before) (.some (.ofList after)) := by
  rw [read, h]

theorem IsPlain.read {column : String} (h : IsPlain column) : Entry.read column = .bare column := by
  have hcut := cutAtAs?_eq_none_iff.2 h.unaliased
  rw [← Text.trim_of_trimmed h.trimmed] at hcut
  rw [Entry.read_of_not_cut hcut, h.trimmed]

theorem dot_notMem_lastSegment (s : String) : '.' ∉ (Entry.lastSegment s).toList := by
  intro h
  rw [Entry.lastSegment, String.toList_ofList, List.mem_reverse] at h
  have := List.mem_takeWhile_imp h
  simp at this

theorem lastSegment_of_dot_notMem {s : String} (h : '.' ∉ s.toList) : Entry.lastSegment s = s := by
  have hall : ∀ c ∈ s.toList.reverse, (c != '.') = true := by
    intro c hc
    rw [bne_iff_ne]
    rintro rfl
    exact h (List.mem_reverse.1 hc)
  rw [Entry.lastSegment, List.takeWhile_eq_self_iff.2 hall, List.reverse_reverse, String.ofList_toList]

theorem dot_notMem_of_same {a b : String}
    (h : Text.asciiLower (Entry.lastSegment a) = Text.asciiLower b) : '.' ∉ b.toList := by
  intro hdot
  refine dot_notMem_lastSegment a ?_
  have hmem : '.' ∈ (b.toList.map Char.toLower) := List.mem_map.2 ⟨'.', hdot, rfl⟩
  simp only [Text.asciiLower, String.ofList_inj] at h
  rw [← h] at hmem
  obtain ⟨c, hc, hlower⟩ := List.mem_map.1 hmem
  rwa [(Text.toLower_eq_iff (by decide)).1 hlower] at hc

/-- A text that is a last segment, up to case, is its own last segment. -/
theorem lastSegment_of_same {a b : String}
    (h : Text.asciiLower (Entry.lastSegment a) = Text.asciiLower b) : Entry.lastSegment b = b :=
  lastSegment_of_dot_notMem (dot_notMem_of_same h)

/-- Columns of which the names in a result can be told apart without case. -/
def AreApart (columns : List String) : Prop :=
  columns.Pairwise fun a b => Text.sameIgnoringCase (Entry.lastSegment a) (Entry.lastSegment b) = false

theorem AreApart.names {columns : List String} (h : AreApart columns) :
    Text.AreApart (columns.map Entry.lastSegment) := List.pairwise_map.2 h

/-- No column answers for another. -/
theorem isFor_bare_iff {columns : List String} (h : AreApart columns) {other column : String}
    (hother : other ∈ columns) (hmem : column ∈ columns) :
    (Entry.bare other).isFor column = true ↔ other = column := by
  constructor
  · intro hfor
    simp only [Entry.isFor, Entry.bare, Bool.or_eq_true, beq_iff_eq] at hfor
    rcases hfor with heq | hsame
    · exact heq
    · have hname : Text.asciiLower (Entry.lastSegment other) = Text.asciiLower column := by
        simpa [Entry.outputName] using Text.sameIgnoringCase_iff.1 hsame
      -- A name without dot is a whole column, so it is the column's own name.
      have hself := lastSegment_of_same hname
      obtain ⟨i, hi⟩ := List.getElem?_of_mem hother
      obtain ⟨j, hj⟩ := List.getElem?_of_mem hmem
      have hij : i = j := h.names.injective (by rw [List.getElem?_map, hi]; rfl)
        (by rw [List.getElem?_map, hj]; rfl) (by rw [hname, hself])
      rw [hij, hj] at hi
      exact (Option.some.inj hi).symm
  · rintro rfl
    simp [Entry.isFor, Entry.bare]

/-- **A column finds its own entry.** -/
theorem find?_bare {columns : List String} (h : AreApart columns) {column : String}
    (hmem : column ∈ columns) :
    Projection.find? (columns.map Entry.bare) column = .some (.bare column) := by
  refine find?_eq_some_of_unique (List.mem_map.2 ⟨column, hmem, rfl⟩) ((isFor_bare_iff h hmem hmem).2 rfl) ?_
  intro e he hfor
  obtain ⟨other, hother, rfl⟩ := List.mem_map.1 he
  rw [(isFor_bare_iff h hother hmem).1 hfor]

end Projection

/-! ## Rows -/

namespace Row

/-- The row has the columns of a list of names, up to case. -/
def Carries (row : Row) (names : List String) : Prop :=
  row.columns.map Text.asciiLower = names.map Text.asciiLower

theorem Carries.getElem? {row : Row} {names : List String} (h : row.Carries names) (i : Nat) :
    (row.columns[i]?).map Text.asciiLower = (names[i]?).map Text.asciiLower := by
  rw [← List.getElem?_map, h, List.getElem?_map]

/-- **A name finds its own place.** -/
theorem position?_of_areApart {row : Row} {names : List String} (hrow : row.Carries names)
    (h : Text.AreApart names) {k : Nat} {name : String} (hk : names[k]? = .some name) :
    row.position? name = .some k := by
  have hplace : ∀ j other, row.columns[j]? = .some other →
      Text.asciiLower other = Text.asciiLower name → j = k := by
    intro j other hj hsame
    have hcarried := hrow.getElem? j
    rw [hj] at hcarried
    cases hcolumn : names[j]? with
    | none => simp [hcolumn] at hcarried
    | some column =>
      refine h.injective hcolumn hk ?_
      rw [← hsame]
      simpa [hcolumn] using hcarried.symm
  obtain ⟨column, hcolumn, hsame⟩ : ∃ column, row.columns[k]? = .some column ∧
      Text.asciiLower column = Text.asciiLower name := by
    have hcarried := hrow.getElem? k
    rw [hk] at hcarried
    simpa using hcarried
  unfold position? place?
  cases hexact : row.columns.findIdx? (· == name) with
  | some j =>
    obtain ⟨hj, heq, -⟩ := List.findIdx?_eq_some_iff_getElem.1 hexact
    rw [beq_iff_eq] at heq
    rw [hplace j _ (List.getElem?_eq_getElem hj) (by rw [heq])]
    rfl
  | none =>
    exact findIdx?_eq_some_of_unique hcolumn (Text.sameIgnoringCase_iff.2 hsame) fun j other hj hother =>
      hplace j other hj (Text.sameIgnoringCase_iff.1 hother)

/-- A row that carries names has a cell for each. -/
theorem Carries.length_values {row : Row} {names : List String} (h : row.Carries names) :
    row.values.length = names.length := by
  have := congrArg List.length h
  rw [List.length_map, List.length_map] at this
  rw [row.aligned, this]

end Row

/-! ## Fields -/

namespace Entity

variable {α : Type} {e : Entity α}

/-- **Of fields with properties of their own each is found by its property.** -/
theorem find_of_nodup (h : (e.fields.map (·.property)).Nodup) {i : Nat} {f : Field α}
    (hi : e.fields[i]? = .some f) : e.place? f.property = .some i ∧ e.field? f.property = .some f := by
  have hplace : ∀ j g, e.fields[j]? = .some g → g.property = f.property → j = i := by
    intro j g hj hsame
    have hlt : j < (e.fields.map (·.property)).length := by
      rw [List.length_map]
      exact (List.getElem?_eq_some_iff.1 hj).1
    refine (List.getElem?_inj hlt h).1 ?_
    rw [List.getElem?_map, List.getElem?_map, hj, hi, Option.map_some, Option.map_some, hsame]
  constructor
  · exact findIdx?_eq_some_of_unique hi (beq_self_eq_true _) fun j g hj hg => hplace j g hj (eq_of_beq hg)
  · refine find?_eq_some_of_unique (List.mem_of_getElem? hi) (beq_self_eq_true _) fun g hg hsame => ?_
    obtain ⟨j, hj⟩ := List.getElem?_of_mem hg
    rw [hplace j g hj (eq_of_beq hsame), hi] at hj
    exact (Option.some.inj hj).symm

theorem field?_of_mem (h : (e.fields.map (·.property)).Nodup) {f : Field α} (hf : f ∈ e.fields) :
    e.field? f.property = .some f := by
  obtain ⟨i, hi⟩ := List.getElem?_of_mem hf
  exact (find_of_nodup h hi).2

/-- **A property finds its own field.** -/
theorem assign_of_mem (h : (e.fields.map (·.property)).Nodup) {f : Field α} (hf : f ∈ e.fields) (item : α)
    (v : Value) : e.assign item f.property v = f.set item v := by
  rw [assign, field?_of_mem h hf]

end Entity

end ParamQuery
