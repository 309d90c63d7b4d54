/-
Filters that are put behind the text of others. A filter goes on with the
parameters of another, and is applied to its text with AND or with OR.

The text is that of the predicates of both, those of the applied one led by
the connector (`applyTo_text`). With OR it says that one of the two holds
(`verdict_applyOr`). With AND no parentheses are set, so only the last
alternative of the first filter and the first one of the applied filter are
joined; it says that both hold if neither has an OR on its outermost level,
and only then, unless they have a test in common (`verdict_applyAnd_iff`).
-/
import ParamQuery.Proofs.Filter.Alternatives

namespace ParamQuery.Filter

/-! ## Text of lists put together -/

theorem tokensOfList_append (ps qs : List Predicate) :
    Predicate.tokensOfList (ps ++ qs) = Predicate.tokensOfList ps ++ Predicate.tokensOfList qs := by
  induction ps with
  | nil => rfl
  | cons p ps ih => simp [Predicate.tokensOfList, ih]

theorem render_ne_empty {ps : List Predicate} (h : ps ≠ []) : render ps ≠ "" := by
  obtain ⟨p, ps, rfl⟩ := List.exists_cons_of_ne_nil h
  obtain ⟨t, ht, hv⟩ := p.exists_visible
  exact normalized_intercalate_ne_empty ⟨t, Predicate.mem_tokensOfList_of_mem_body ht ps, hv⟩

/-- The text of two lists is that of the one and that of the other, with a space between them. -/
theorem render_append_eq_joined (ps qs : List Predicate) :
    render (ps ++ qs) = Text.joined (render ps) (render qs) := by
  rw [render, tokensOfList_append]
  exact Text.normalized_intercalate_append _ _

theorem render_append {ps qs : List Predicate} (hps : ps ≠ []) (hqs : qs ≠ []) :
    render (ps ++ qs) = render ps ++ " " ++ render qs := by
  rw [render_append_eq_joined, Text.joined_of_ne (render_ne_empty hps) (render_ne_empty hqs)]

theorem restOf_leadWith (c : Connector) (ps : List Predicate) : restOf (leadWith c ps) = restOf ps := by
  cases ps with
  | nil => rfl
  | cons p ps => cases p <;> rfl

/-- A list that is led by a word has the word in front of what it had behind its first connector. -/
theorem render_leadWith {c : Connector} {w : String} (hc : c.token? = .some w) {ps : List Predicate}
    (hps : ps ≠ []) : render (leadWith c ps) = w ++ " " ++ restOf ps := by
  obtain ⟨p, ps, rfl⟩ := List.exists_cons_of_ne_nil hps
  rw [← restOf_leadWith c]
  exact render_of_token (by rw [connector_withConnector, hc]) ps

theorem leadWith_ne_nil {ps : List Predicate} (h : ps ≠ []) (c : Connector) : leadWith c ps ≠ [] := by
  cases ps with
  | nil => exact absurd rfl h
  | cons p ps => simp [leadWith]

/-! ## Filters behind others -/

/-- The second list behind the first, led by the connector `c`. -/
def behind (c : Connector) (ps qs : List Predicate) : List Predicate :=
  if ps.isEmpty then qs else ps ++ leadWith c qs

/-- The text of an applied filter is that of both lists of predicates. -/
theorem applyTo_text (c : Connector) (e f : Filter) :
    f.applyTo c e.text = render (behind c e.predicates f.predicates) := by
  simp only [applyTo, text, normalized_render, isEmpty, behind]
  by_cases hf : f.predicates = []
  · by_cases he : e.predicates = [] <;> simp [hf, he, leadWith]
  · by_cases he : e.predicates = []
    · simp [hf, he]
    · simp [hf, he, render_ne_empty he, render_append he (leadWith_ne_nil hf c)]

/-- If both have predicates, the word of the connector stands for the one that began the clause. -/
theorem applyTo_text_of_token {c : Connector} {w : String} (hc : c.token? = .some w) {e f : Filter}
    (he : e.predicates ≠ []) (hf : f.predicates ≠ []) :
    f.applyTo c e.text = e.text ++ (" " ++ w ++ " ") ++ restOf f.predicates := by
  rw [applyTo_text, behind, if_neg (by simpa using he), render_append he (leadWith_ne_nil hf c),
    render_leadWith hc hf, text]
  simp only [String.append_assoc]

/-! ## Filters of one statement -/

/-- The parameters that a filter has added to those of the statement in which it was begun. -/
def own (ps : Params) (f : Filter) : Params := f.params.drop ps.length

/-- The literals that its markers stand for. -/
def literals (ps : Params) (f : Filter) : List Value := (f.own ps).values

/-- What a filter says that was begun in a statement with the parameters `ps`. -/
def verdict (v : Leaf → Truth) (ps : Params) (f : Filter) : Truth := truthOf v (f.literals ps) f.predicates

/-- What its alternatives say. -/
def offers (v : Leaf → Truth) (ps : Params) (f : Filter) : List Truth :=
  alternatives v (f.literals ps) f.predicates

/-- The tests that it makes. -/
def tests (ps : Params) (f : Filter) : List Leaf := testedOf (f.literals ps) f.predicates

/-- What a filter is that a script made in a statement with the parameters `ps`. -/
structure Follows (ps : Params) (f : Filter) : Prop where
  params : f.params = ps ++ f.own ps
  names : namesOf f.predicates = (f.own ps).names
  clause : IsClause f.predicates
  filled : ∀ p ∈ nodesOf f.predicates, p.IsFilled

theorem follows_run (ps : Params) (script : List Step) : Follows ps ((continuing ps).run script) where
  params := by
    rw [continuing_run_eq, own, List.drop_left]
  names := by
    rw [continuing_run_eq, own, List.drop_left]
    exact namesOf_predicatesOf _ _ _
  clause := isClause_continuing_run ps script
  filled := by
    rw [continuing_run_eq]
    exact fun p hp => (isMade_predicatesOf _ _ _ (allContent_outline script) p hp).isFilled

namespace Follows

variable {ps : Params} {e f : Filter}

theorem length_literals (h : Follows ps f) : (f.literals ps).length = (namesOf f.predicates).length := by
  rw [h.names, literals, Params.names, Params.values, List.length_map, List.length_map]

/-- A filter behind another has added the parameters of both. -/
theorem own_append (he : Follows ps e) (hf : Follows e.params f) : f.own ps = e.own ps ++ f.own e.params := by
  have hparams : f.params = ps ++ (e.own ps ++ f.own e.params) := by
    rw [← List.append_assoc, ← he.params, ← hf.params]
  rw [own, hparams, List.drop_left]

theorem literals_append (he : Follows ps e) (hf : Follows e.params f) :
    f.literals ps = e.literals ps ++ f.literals e.params := by
  rw [literals, he.own_append hf, Params.values_append]
  rfl

theorem names_behind (he : Follows ps e) (hf : Follows e.params f) (c : Connector) :
    namesOf (behind c e.predicates f.predicates) = (f.own ps).names := by
  rw [he.own_append hf, Params.names_append, ← he.names, ← hf.names, behind]
  split
  · rename_i h
    simp [List.isEmpty_iff.1 h]
  · simp [namesOf, leavesOf_append]

theorem text_eq (h : Follows ps f) (hne : f.predicates ≠ []) : f.text = "WHERE " ++ restOf f.predicates := by
  obtain ⟨p, rest, hp⟩ := List.exists_cons_of_ne_nil hne
  have hclause := h.clause
  rw [hp] at hclause
  rw [text, hp]
  exact render_of_token (by rw [hclause p rfl]; rfl) rest

end Follows

theorem truthOf_behind (v : Leaf → Truth) (c : Connector) (us : List Value) (ps qs : List Predicate) :
    truthOf v us (behind c ps qs) = truthOf v us (ps ++ leadWith c qs) := by
  rw [behind]
  split
  · rename_i h
    rw [List.isEmpty_iff.1 h, List.nil_append, truthOf_leadWith]
  · rfl

/-- What is open or held. -/
def openOrHeld : List Step :=
  [.test .none "Open" (.compare .equal (.bool true)), .test .or "Held" (.compare .equal (.bool true))]

/-- What one owner has, or nobody. -/
def ownedOrFree : List Step :=
  [.test .none "Owner" (.compare .equal (.int 3)), .test .or "Owner" .isNull]

/-- **A filter that is applied with OR says that one of the two holds.** Its text is that of the
predicates of both, in which an OR stands for the word that began the second clause, and the markers
are the parameters of both in order. Whatever the tests say of a row, these predicates say that one
of the two filters holds. -/
theorem verdict_applyOr (ps : Params) (first next : List Step)
    (hfirst : ((continuing ps).run first).predicates ≠ [])
    (hnext : ((continuing ((continuing ps).run first).params).run next).predicates ≠ []) :
    let e := (continuing ps).run first
    let f := (continuing e.params).run next
    let either : Filter := ⟨e.predicates ++ leadWith .or f.predicates, f.params⟩
    f.applyOr e.text = either.text ∧
      (∃ rest, f.text = "WHERE " ++ rest ∧ f.applyOr e.text = e.text ++ " OR " ++ rest) ∧
      namesOf either.predicates = (either.own ps).names ∧
      ∀ v : Leaf → Truth, either.verdict v ps = (e.verdict v ps).or (f.verdict v e.params) := by
  intro e f either
  have he : Follows ps e := follows_run ps first
  have hf : Follows e.params f := follows_run e.params next
  replace hfirst : e.predicates ≠ [] := hfirst
  replace hnext : f.predicates ≠ [] := hnext
  clear_value f e
  have hbehind : behind .or e.predicates f.predicates = either.predicates := by
    simp [behind, either, hfirst]
  refine ⟨?_, ⟨restOf f.predicates, hf.text_eq hnext, ?_⟩, ?_, fun v => ?_⟩
  · rw [applyOr, applyTo_text, hbehind, text]
  · have hword : " " ++ "OR" ++ " " = " OR " := by decide
    rw [← hword]
    exact applyTo_text_of_token rfl hfirst hnext
  · rw [← hbehind, he.names_behind hf]
    rfl
  · calc truthOf v (f.literals ps) (e.predicates ++ leadWith .or f.predicates)
        = truthOf v (e.literals ps ++ f.literals e.params) (e.predicates ++ leadWith .or f.predicates) := by
          rw [he.literals_append hf]
      _ = (e.verdict v ps).or (f.verdict v e.params) :=
          truthOf_append_or v hfirst hnext he.length_literals _

/-- The second filter numbers its parameters on, and both have an OR of their own. -/
theorem applyOr_ownedOrFree :
    let e := empty.run openOrHeld
    let f := (continuing e.params).run ownedOrFree
    e.predicates ≠ [] ∧ f.predicates ≠ [] ∧
      f.applyOr e.text = "WHERE Open = @Open0 OR Held = @Held1 OR Owner = @Owner2 OR Owner IS NULL" ∧
      ∀ v : Leaf → Truth,
        (⟨e.predicates ++ leadWith .or f.predicates, f.params⟩ : Filter).verdict v [] =
          (e.verdict v []).or (f.verdict v e.params) := by
  have hfirst : (empty.run openOrHeld).predicates ≠ [] :=
    List.ne_nil_of_length_pos (by decide +kernel)
  have hnext : ((continuing (empty.run openOrHeld).params).run ownedOrFree).predicates ≠ [] :=
    List.ne_nil_of_length_pos (by decide +kernel)
  obtain ⟨-, -, -, heither⟩ := verdict_applyOr [] openOrHeld ownedOrFree hfirst hnext
  refine ⟨hfirst, hnext, ?_, heither⟩
  decide +kernel

/-- **What a filter says that is applied with AND.** Its text is that of the predicates of both, with
an AND and no parentheses in between, and the markers are the parameters of both in order. Two lists
that are conjoined say that both hold. Of a row for which the tests say `v`, the applied filter says
so exactly if each alternative of the first filter but its last has the second hold, and each one of
the second but its first has the first hold. Hence it always does if neither has an OR on its
outermost level; and if they have no test in common, only then. -/
theorem verdict_applyAnd_iff (ps : Params) (first next : List Step) :
    let e := (continuing ps).run first
    let f := (continuing e.params).run next
    let applied : Filter := ⟨behind .and e.predicates f.predicates, f.params⟩
    let conjoined : Filter := ⟨conjoin e.predicates f.predicates, f.params⟩
    f.applyAnd e.text = applied.text ∧
      namesOf applied.predicates = (applied.own ps).names ∧
      (∀ v : Leaf → Truth, conjoined.verdict v ps = (e.verdict v ps).and (f.verdict v e.params)) ∧
      (∀ v : Leaf → Truth, (applied.verdict v ps = .true ↔ conjoined.verdict v ps = .true) ↔
        (.true ∈ (e.offers v ps).dropLast → f.verdict v e.params = .true) ∧
          (.true ∈ (f.offers v e.params).tail → e.verdict v ps = .true)) ∧
      (countOrs e.predicates = 0 ∧ countOrs f.predicates = 0 →
        ∀ v : Leaf → Truth, applied.verdict v ps = conjoined.verdict v ps) ∧
      (e.predicates ≠ [] → f.predicates ≠ [] → (∀ leaf ∈ e.tests ps, leaf ∉ f.tests e.params) →
        (∀ v : Leaf → Truth, applied.verdict v ps = .true ↔ conjoined.verdict v ps = .true) →
          countOrs e.predicates = 0 ∧ countOrs f.predicates = 0) := by
  intro e f applied conjoined
  have he : Follows ps e := follows_run ps first
  have hf : Follows e.params f := follows_run e.params next
  clear_value f e
  have hboth (v : Leaf → Truth) : conjoined.verdict v ps = (e.verdict v ps).and (f.verdict v e.params) := by
    calc truthOf v (f.literals ps) (conjoin e.predicates f.predicates)
        = truthOf v (e.literals ps ++ f.literals e.params) (conjoin e.predicates f.predicates) := by
          rw [he.literals_append hf]
      _ = (e.verdict v ps).and (f.verdict v e.params) := truthOf_conjoin v he.length_literals _ _
  have happlied (v : Leaf → Truth) : applied.verdict v ps =
      truthOf v (e.literals ps ++ f.literals e.params) (e.predicates ++ leadWith .and f.predicates) := by
    calc truthOf v (f.literals ps) (behind .and e.predicates f.predicates)
        = truthOf v (e.literals ps ++ f.literals e.params) (behind .and e.predicates f.predicates) := by
          rw [he.literals_append hf]
      _ = _ := truthOf_behind v .and _ _ _
  refine ⟨?_, ?_, hboth, fun v => ?_, fun hors v => ?_, fun hfirst hnext happart hsame => ?_⟩
  · rw [applyAnd, applyTo_text, text]
  · exact he.names_behind hf .and
  · rw [hboth, happlied, Truth.and_eq_true_iff]
    exact truthOf_append_and_true_iff v he.length_literals _ _
  · rw [hboth, happlied]
    exact truthOf_append_and_of_countOrs v he.length_literals _ hors.1 hors.2
  · refine (truthOf_append_and_iff he.length_literals hfirst hnext he.filled hf.filled happart).1 fun v => ?_
    rw [← happlied, hsame, hboth, Truth.and_eq_true_iff]
    rfl

/-- In groups, both filters are kept; the same tests without groups are not, for some row. -/
theorem applyAnd_grouped :
    (let e := empty.run [.group .none [openOrHeld]]
      let f := (continuing e.params).run [.group .none [ownedOrFree]]
      let applied : Filter := ⟨behind .and e.predicates f.predicates, f.params⟩
      let conjoined : Filter := ⟨conjoin e.predicates f.predicates, f.params⟩
      (countOrs e.predicates = 0 ∧ countOrs f.predicates = 0) ∧
        f.applyAnd e.text =
          "WHERE ( Open = @Open0 OR Held = @Held1 ) AND ( Owner = @Owner2 OR Owner IS NULL )" ∧
        ∀ v : Leaf → Truth, applied.verdict v [] = conjoined.verdict v []) ∧
    (let e := empty.run openOrHeld
      let f := (continuing e.params).run ownedOrFree
      let applied : Filter := ⟨behind .and e.predicates f.predicates, f.params⟩
      let conjoined : Filter := ⟨conjoin e.predicates f.predicates, f.params⟩
      (e.predicates ≠ [] ∧ f.predicates ≠ [] ∧ ∀ leaf ∈ e.tests [], leaf ∉ f.tests e.params) ∧
        ¬ ∀ v : Leaf → Truth, applied.verdict v [] = .true ↔ conjoined.verdict v [] = .true) := by
  constructor
  · obtain ⟨-, -, -, -, hgrouped, -⟩ :=
      verdict_applyAnd_iff [] [.group .none [openOrHeld]] [.group .none [ownedOrFree]]
    have hors : countOrs (empty.run [.group .none [openOrHeld]]).predicates = 0 ∧
        countOrs ((continuing (empty.run [.group .none [openOrHeld]]).params).run
          [.group .none [ownedOrFree]]).predicates = 0 := by
      decide +kernel
    exact ⟨hors, by decide +kernel, hgrouped hors⟩
  · intro e f applied conjoined
    obtain ⟨-, -, -, -, -, honly⟩ := verdict_applyAnd_iff [] openOrHeld ownedOrFree
    have hcolumns : (e.tests []).map (·.column) = ["Open", "Held"] ∧
        (f.tests e.params).map (·.column) = ["Owner", "Owner"] := by
      decide +kernel
    have he : e.predicates ≠ [] := List.ne_nil_of_length_pos (by decide +kernel)
    have hf : f.predicates ≠ [] := List.ne_nil_of_length_pos (by decide +kernel)
    have happart : ∀ leaf ∈ e.tests [], leaf ∉ f.tests e.params := by
      intro leaf hfirst hnext
      have hcolumn : leaf.column ∈ ["Open", "Held"] ∧ leaf.column ∈ ["Owner", "Owner"] := by
        rw [← hcolumns.1, ← hcolumns.2]
        exact ⟨List.mem_map_of_mem hfirst, List.mem_map_of_mem hnext⟩
      simp only [List.mem_cons, List.not_mem_nil, or_false, or_self] at hcolumn
      rw [hcolumn.2] at hcolumn
      exact absurd hcolumn.1 (by decide)
    refine ⟨⟨he, hf, happart⟩, fun hsame => ?_⟩
    have hnone : countOrs e.predicates = 0 := (honly he hf happart hsame).1
    exact absurd hnone (by decide +kernel)

/-- What is open or held, and owned or free: the AND joins what is held with what is owned. So the
text asks for a row that is open, although neither the owner fits nor is there none. -/
theorem applyAnd_beside_or :
    let e := empty.run openOrHeld
    let f := (continuing e.params).run ownedOrFree
    let v : Leaf → Truth := fun leaf => if leaf.column = "Open" then .true else .false
    f.applyAnd e.text = "WHERE Open = @Open0 OR Held = @Held1 AND Owner = @Owner2 OR Owner IS NULL" ∧
      (⟨behind .and e.predicates f.predicates, f.params⟩ : Filter).verdict v [] = .true ∧
      f.verdict v e.params = .false ∧
      (⟨conjoin e.predicates f.predicates, f.params⟩ : Filter).verdict v [] = .false := by
  decide +kernel

end ParamQuery.Filter
