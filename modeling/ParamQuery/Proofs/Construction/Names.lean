/-
Whether the names of a statement's parameters are apart.

A name has nothing between stem and number, so they need not be: it takes
a column that ends in a digit, and at least ten parameters behind it.
`names_apart_iff` says exactly when they are, and that PostgreSQL refuses
the statement for its names exactly when they are not.
-/
import ParamQuery.Proofs.Construction.Basic
import ParamQuery.Proofs.Statement.Names

namespace ParamQuery

theorem bindNumbered_eq_duplicateName_iff (sql : String) (ps : Params) :
    bindNumbered sql ps = .error .duplicateName ↔ ¬ ps.names.Nodup := by
  unfold bindNumbered
  split
  · rename_i h
    simp [h]
  · rename_i h
    simp [h]

namespace Construction

/-- **Names are apart exactly if no two slots clash**, and that is when PostgreSQL does not refuse
the statement for them. -/
theorem names_apart_iff {c : Construction} {s : Assembled} (h : c.assemble = .ok s) :
    (s.params.names.Nodup ↔
        ∀ i j a b, i < j → c.slots.stems[i]? = .some a → c.slots.stems[j]? = .some b →
          ¬ Clash a i b j) ∧
      (c.bound .postgres = .error .duplicateName ↔ ¬ s.params.names.Nodup) := by
  constructor
  · rw [params_eq h, nodup_names_iff]
  · rw [bound_eq, h]
    exact bindNumbered_eq_duplicateName_iff _ _

/-- An update of a column that ends in a digit, with a filter on the column without it. -/
def updating : Construction :=
  .write (.update "TestTable" [[("Id1", .text "9"), ("[Name]", .text "x")]]
    [.test .none "Id" (.compare .equal (.text "1")), .test .and "Name" (.compare .equal (.text "Victor"))])
    [] false

theorem names_apart_updating :
    ∃ s, updating.assemble = .ok s ∧ s.params.names.Nodup ∧
      updating.bound .postgres ≠ .error .duplicateName := by
  obtain ⟨s, hs⟩ : ∃ s, updating.assemble = .ok s := ⟨_, rfl⟩
  have hnames : s.params.names.Nodup := by
    rw [params_eq hs]
    decide +kernel
  exact ⟨s, hs, hnames, fun he => (names_apart_iff hs).2.1 he hnames⟩

/-- An insertion into eleven columns, of which the first is the last with a digit behind it. -/
def clashing : Construction :=
  .write (.insert "t" (["A1", "B", "C", "D", "E", "F", "G", "H", "I", "J", "A"].map (·, .null))) [] false

/-- Two of its parameters have the name `A10`, so PostgreSQL never sees it. -/
theorem clashing_refused :
    ∃ s, clashing.assemble = .ok s ∧ ¬ s.params.names.Nodup ∧
      clashing.bound .postgres = .error .duplicateName := by
  obtain ⟨s, hs⟩ : ∃ s, clashing.assemble = .ok s := ⟨_, rfl⟩
  have hnames : ¬ s.params.names.Nodup := by
    rw [params_eq hs]
    decide +kernel
  refine ⟨s, hs, hnames, ?_⟩
  rw [bound_eq, hs]
  exact (bindNumbered_eq_duplicateName_iff _ _).2 hnames

end Construction

end ParamQuery
