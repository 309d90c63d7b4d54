/-
Two filters with one text are one filter.

No sequence of lexemes can be read as two tests, nor as two predicates or
two lists of them, whatever stands behind it, as long as nothing goes on in
the level that it closes (`Test.lexemes_append_inj`,
`Predicate.lexemes_append_inj`, `lexemesOf_append_inj`). Only `is NULL` and
the test for null are one thing in the text, so predicates are told up to
that (`unifiedOf`). With the lexemes read off the text,
`text_eq_iff` says so for the filters of two scripts.
-/
import ParamQuery.Proofs.Construction.Binding
import ParamQuery.Proofs.Filter.Lexemes
import ParamQuery.Proofs.Filter.Ordinals

namespace ParamQuery.Filter

/-! ## One form for each test -/

/-- The test, with `IS NULL` in one form. -/
def Test.unified : Test → Test
  | .is .null => .isNull
  | t => t

mutual

/-- The predicate, with `IS NULL` in one form. -/
def Predicate.unified : Predicate → Predicate
  | .comparison c column test => .comparison c column test.unified
  | .group c children => .group c (unifiedOf children)

/-- The predicates, with `IS NULL` in one form. -/
def unifiedOf : List Predicate → List Predicate
  | [] => []
  | p :: ps => p.unified :: unifiedOf ps

end

theorem Test.lexemes_unified (t : Test) : t.unified.lexemes = t.lexemes := by
  unfold unified
  split <;> rfl

mutual

theorem Predicate.lexemes_unified : ∀ p : Predicate, p.unified.lexemes = p.lexemes
  | .comparison c column test => by
    rw [Predicate.unified, Predicate.lexemes, Predicate.lexemes, Test.lexemes_unified]
  | .group c children => by
    rw [Predicate.unified, Predicate.lexemes, Predicate.lexemes, lexemesOf_unifiedOf children]

theorem lexemesOf_unifiedOf : ∀ ps : List Predicate, lexemesOf (unifiedOf ps) = lexemesOf ps
  | [] => rfl
  | p :: ps => by
    rw [unifiedOf, lexemesOf, lexemesOf, Predicate.lexemes_unified p, lexemesOf_unifiedOf ps]

end

/-! ## Reading from the left -/

variable {s r : List Lexeme}

theorem markerLexemes_append_inj {ns ms : List String}
    (h : markerLexemes ns ++ .closing :: s = markerLexemes ms ++ .closing :: r) : ns = ms ∧ s = r := by
  induction ns generalizing ms with
  | nil => cases ms with
    | nil => simpa [markerLexemes] using h
    | cons m ms => simp [markerLexemes] at h
  | cons n ns ih => cases ms with
    | nil => simp [markerLexemes] at h
    | cons m ms =>
      simp only [markerLexemes, List.cons_append, List.cons.injEq, Lexeme.marker.injEq] at h
      obtain ⟨⟨rfl, -⟩, hrest⟩ := h
      obtain ⟨rfl, rfl⟩ := ih hrest
      exact ⟨rfl, rfl⟩

/-- No lexemes can be read as two tests. -/
theorem Test.lexemes_append_inj {t u : Test} (h : t.lexemes ++ s = u.lexemes ++ r) :
    t.unified = u.unified ∧ s = r := by
  cases t with
  | compare op name => cases u with
    | compare op' name' =>
      cases h
      exact ⟨rfl, rfl⟩
    | member ms negated => cases negated <;> cases h
    | _ => cases h
  | isNull => cases u with
    | isNull | is word =>
      cases h
      exact ⟨rfl, rfl⟩
    | member ms negated => cases negated <;> cases h
    | _ => cases h
  | notNull => cases u with
    | notNull =>
      cases h
      exact ⟨rfl, rfl⟩
    | member ms negated => cases negated <;> cases h
    | _ => cases h
  | is word => cases u with
    | isNull | is word' =>
      cases h
      exact ⟨rfl, rfl⟩
    | member ms negated => cases negated <;> cases h
    | _ => cases h
  | not word => cases u with
    | not word' =>
      cases h
      exact ⟨rfl, rfl⟩
    | member ms negated => cases negated <;> cases h
    | _ => cases h
  | between min max => cases u with
    | between min' max' =>
      cases h
      exact ⟨rfl, rfl⟩
    | member ms negated => cases negated <;> cases h
    | _ => cases h
  | member ns negated => cases u with
    | member ms negated' =>
      have hsame : negated = negated' := by
        cases negated <;> cases negated' <;> simp [lexemes] at h ⊢
      subst hsame
      simp only [lexemes, List.append_assoc, List.cons_append, List.append_cancel_left_eq, List.cons.injEq,
        true_and] at h
      obtain ⟨rfl, rfl⟩ := markerLexemes_append_inj h
      exact ⟨rfl, rfl⟩
    | _ => cases negated <;> cases h

/-- What stands behind a connector tells whether there is one. -/
theorem Connector.lexemes_append_inj {c d : Connector} {a b : Lexeme} (ha : a ∉ [.clause, .and, .or])
    (hb : b ∉ [.clause, .and, .or]) (h : c.lexemes ++ a :: s = d.lexemes ++ b :: r) :
    c = d ∧ a = b ∧ s = r := by
  cases c <;> cases d <;> simp_all [lexemes]

/-- Nothing goes on in a level. -/
def Ends (s : List Lexeme) : Prop := ∀ l ∈ s.head?, l = .closing

theorem Predicate.not_ends (p : Predicate) (s : List Lexeme) : ¬ Ends (p.lexemes ++ s) := by
  cases p with
  | comparison c column test => cases c <;> simp [Ends, lexemes, Connector.lexemes]
  | group c children => cases c <;> simp [Ends, lexemes, Connector.lexemes]

mutual

/-- No lexemes can be read as two predicates. -/
theorem Predicate.lexemes_append_inj : ∀ (p q : Predicate) {s r : List Lexeme},
    p.lexemes ++ s = q.lexemes ++ r → p.unified = q.unified ∧ s = r
  | .comparison c column test, .comparison d column' test', s, r, h => by
    simp only [Predicate.lexemes, List.append_assoc, List.cons_append] at h
    obtain ⟨rfl, hcolumn, hrest⟩ := Connector.lexemes_append_inj (by simp) (by simp) h
    obtain ⟨htest, rfl⟩ := Test.lexemes_append_inj hrest
    rw [Predicate.unified, Predicate.unified, Lexeme.column.inj hcolumn, htest]
    exact ⟨rfl, rfl⟩
  | .comparison c column test, .group d children, s, r, h => by
    simp only [Predicate.lexemes, List.append_assoc, List.cons_append] at h
    obtain ⟨-, hhead, -⟩ := Connector.lexemes_append_inj (by simp) (by simp) h
    cases hhead
  | .group c children, .comparison d column test, s, r, h => by
    simp only [Predicate.lexemes, List.append_assoc, List.cons_append] at h
    obtain ⟨-, hhead, -⟩ := Connector.lexemes_append_inj (by simp) (by simp) h
    cases hhead
  | .group c children, .group d children', s, r, h => by
    simp only [Predicate.lexemes, List.append_assoc, List.cons_append, List.nil_append] at h
    obtain ⟨rfl, -, hrest⟩ := Connector.lexemes_append_inj (by simp) (by simp) h
    obtain ⟨hchildren, hclosed⟩ := lexemesOf_append_inj children children' (by simp [Ends]) (by simp [Ends]) hrest
    rw [Predicate.unified, Predicate.unified, hchildren]
    exact ⟨rfl, (List.cons.inj hclosed).2⟩

/-- No lexemes can be read as two lists of predicates that end a level. -/
theorem lexemesOf_append_inj : ∀ (ps qs : List Predicate) {s r : List Lexeme}, Ends s → Ends r →
    lexemesOf ps ++ s = lexemesOf qs ++ r → unifiedOf ps = unifiedOf qs ∧ s = r
  | [], [], s, r, _, _, h => ⟨rfl, h⟩
  | [], q :: qs, s, r, hs, _, h => by
    simp only [lexemesOf, List.nil_append, List.append_assoc] at h
    exact absurd (h ▸ hs) (q.not_ends _)
  | p :: ps, [], s, r, _, hr, h => by
    simp only [lexemesOf, List.nil_append, List.append_assoc] at h
    exact absurd (h ▸ hr) (p.not_ends _)
  | p :: ps, q :: qs, s, r, hs, hr, h => by
    simp only [lexemesOf, List.append_assoc] at h
    obtain ⟨hp, hrest⟩ := Predicate.lexemes_append_inj p q h
    obtain ⟨hps, rfl⟩ := lexemesOf_append_inj ps qs hs hr hrest
    rw [unifiedOf, unifiedOf, hp, hps]
    exact ⟨rfl, rfl⟩

end

/-- Lexemes tell predicates, up to the form of `IS NULL`. -/
theorem lexemesOf_eq_iff {ps qs : List Predicate} :
    lexemesOf ps = lexemesOf qs ↔ unifiedOf ps = unifiedOf qs := by
  constructor
  · intro h
    exact (lexemesOf_append_inj ps qs (s := []) (r := []) (by simp [Ends]) (by simp [Ends]) (by rw [h])).1
  · intro h
    rw [← lexemesOf_unifiedOf ps, h, lexemesOf_unifiedOf]

/-! ## Filters -/

/-- The leaves of a script whose columns are identifiers can be read. -/
theorem isLegible_of_mem_leavesOf {script : List Step} (h : ∀ t ∈ supplied script, IsIdentifier t.1) :
    ∀ leaf ∈ leavesOf (empty.run script).predicates, IsLegible leaf := by
  rw [empty_run_eq]
  rintro leaf hleaf
  have hcolumn : leaf.1 ∈ columnsOf (predicatesOf .clause 0 (outline script)) := List.mem_map.2 ⟨leaf, hleaf, rfl⟩
  rw [columnsOf_predicatesOf, testsOf_outline] at hcolumn
  obtain ⟨t, ht, heq⟩ := List.mem_map.1 hcolumn
  refine ⟨heq ▸ h t ht, fun n hn => ?_⟩
  have hname : n ∈ namesOf (predicatesOf .clause 0 (outline script)) := List.mem_flatMap.2 ⟨leaf, hleaf, hn⟩
  rw [namesOf_predicatesOf] at hname
  exact (hasNames_slotsOf _).number 0 n hname

/-- **A filter is told by its text.** If the columns that two scripts test are identifiers, then the
filters that they make on their own have one text exactly if they have the same predicates, with the
same connectors, columns, tests and names of markers on every level; only the two ways to test for null
are the same in the text. -/
theorem text_eq_iff {script other : List Step} (hscript : ∀ t ∈ supplied script, IsIdentifier t.1)
    (hother : ∀ t ∈ supplied other, IsIdentifier t.1) :
    (empty.run script).text = (empty.run other).text ↔
      unifiedOf (empty.run script).predicates = unifiedOf (empty.run other).predicates := by
  rw [text, text, render_eq_iff (isLegible_of_mem_leavesOf hscript) (isLegible_of_mem_leavesOf hother),
    lexemesOf_eq_iff]

/-- Working ages, or no age at all and another kind. -/
def ages (unknown : Condition) : List Step :=
  [.test .none "p.Age" (.between (.int 18) (.int 65)),
    .group .or [[.test .none "p.Age" unknown, .test .and "Kind" (.member [.int 1, .int 2] true)]]]

/-- The same tests without the group. -/
def flatAges : List Step :=
  [.test .none "p.Age" (.between (.int 18) (.int 65)), .test .or "p.Age" .isNull,
    .test .and "Kind" (.member [.int 1, .int 2] true)]

/-- Both ways to ask for no age have one text; without the group it is another one. -/
theorem text_eq_iff_ages :
    (∀ t ∈ supplied (ages .isNull), IsIdentifier t.1) ∧ (∀ t ∈ supplied (ages (.is .null)), IsIdentifier t.1) ∧
      (∀ t ∈ supplied flatAges, IsIdentifier t.1) ∧
      (empty.run (ages .isNull)).text = (empty.run (ages (.is .null))).text ∧
      (empty.run (ages .isNull)).text ≠ (empty.run flatAges).text := by
  have hcolumns (script : List Step) (h : ∀ column ∈ (supplied script).map (·.1), IsIdentifier column) :
      ∀ t ∈ supplied script, IsIdentifier t.1 :=
    fun t ht => h t.1 (List.mem_map.2 ⟨t, ht, rfl⟩)
  have hages := hcolumns (ages .isNull) (by decide +kernel)
  have hspelled := hcolumns (ages (.is .null)) (by decide +kernel)
  have hflat := hcolumns flatAges (by decide +kernel)
  refine ⟨hages, hspelled, hflat, (text_eq_iff hages hspelled).2 rfl, fun h => ?_⟩
  have hlength := congrArg List.length ((text_eq_iff hages hflat).1 h)
  cases hlength

end ParamQuery.Filter
