/-
The shape of what a script makes on a filter without predicates.

`continuing_run`: the predicates are those of the script's outline. The
clause begins with the first of them and nowhere else, nothing in
parentheses is empty, and the text is empty or begins with `WHERE`.
-/
import ParamQuery.Proofs.Filter.Reading
import ParamQuery.Proofs.Text.Spacing

namespace ParamQuery.Filter

/-! ## Outlines are pruned -/

mutual

/-- An element has content: a test is not of a list of no values, a group is not empty, and all
within it have content. -/
def Element.HasContent : Element → Prop
  | .test _ _ condition => condition.isVoid = false
  | .group _ es => es ≠ [] ∧ AllContent es

/-- All elements have content. -/
def AllContent : List Element → Prop
  | [] => True
  | e :: es => e.HasContent ∧ AllContent es

end

theorem AllContent.append {es ds : List Element} (he : AllContent es) (hd : AllContent ds) :
    AllContent (es ++ ds) := by
  induction es with
  | nil => exact hd
  | cons e es ih => exact ⟨he.1, ih he.2⟩

mutual

theorem allContent_step : ∀ s : Step, AllContent s.outline
  | .test link column condition => by
    simp only [Step.outline]
    split
    · trivial
    · rename_i h
      exact ⟨by simpa [Element.HasContent] using h, trivial⟩
  | .dropped _ _ => by simp [Step.outline, AllContent]
  | .mark _ => by simp [Step.outline, AllContent]
  | .group link parts => by
    have h := allContent_parts parts
    simp only [Step.outline]
    split
    · trivial
    · rename_i hne
      exact ⟨⟨by simpa using hne, h⟩, trivial⟩

/-- Every element of an outline has content. -/
theorem allContent_outline : ∀ ss : List Step, AllContent (outline ss)
  | [] => trivial
  | s :: ss => (allContent_step s).append (allContent_outline ss)

theorem allContent_parts : ∀ parts : List (List Step), AllContent (outlineOfParts parts)
  | [] => trivial
  | part :: parts => (allContent_outline part).append (allContent_parts parts)

end

/-! ## Connectors and parentheses -/

mutual

/-- A predicate and all within it, in reading order. -/
def Predicate.nodes : Predicate → List Predicate
  | .comparison c column test => [.comparison c column test]
  | .group c children => .group c children :: nodesOf children

/-- The nodes of a list of predicates. -/
def nodesOf : List Predicate → List Predicate
  | [] => []
  | p :: ps => p.nodes ++ nodesOf ps

end

/-- Whether something stands in the parentheses of a predicate, if it has any of its own. -/
def Predicate.IsFilled : Predicate → Prop
  | .comparison _ _ (.member names _) => names ≠ []
  | .comparison .. => True
  | .group _ children => children ≠ []

theorem Link.connector_ne_clause (link : Link) : link.connector ≠ .clause := by
  cases link <;> simp [Link.connector]

theorem Element.connector_ne_clause (e : Element) : e.connector ≠ .clause := by
  cases e <;> exact Link.connector_ne_clause _

/-- A predicate that some element with content becomes, behind `c` or a connector that begins no
clause. -/
def IsMade (c : Connector) (p : Predicate) : Prop :=
  ∃ d n, ∃ e : Element, p = e.predicate d n ∧ e.HasContent ∧ (d = c ∨ d ≠ .clause)

theorem IsMade.weaken {p : Predicate} (h : IsMade .none p) (c : Connector) : IsMade c p := by
  obtain ⟨d, n, e, rfl, hcontent, hd⟩ := h
  refine ⟨d, n, e, rfl, hcontent, .inr ?_⟩
  rcases hd with rfl | hd
  · simp
  · exact hd

mutual

theorem isMade_nodes (c : Connector) (n : Nat) :
    ∀ e : Element, e.HasContent → ∀ p ∈ (e.predicate c n).nodes, IsMade c p
  | .test link column condition, h => by
    simp only [Element.predicate, Predicate.nodes, List.mem_singleton, forall_eq]
    exact ⟨c, n, .test link column condition, rfl, h, .inl rfl⟩
  | .group link es, h => by
    intro p hp
    simp only [Element.predicate, Predicate.nodes, List.mem_cons] at hp
    rcases hp with rfl | hp
    · exact ⟨c, n, .group link es, rfl, h, .inl rfl⟩
    · exact (isMade_predicatesOf .none n es h.2 p hp).weaken c

theorem isMade_predicatesOf (first : Connector) (n : Nat) :
    ∀ es : List Element, AllContent es → ∀ p ∈ nodesOf (predicatesOf first n es), IsMade first p
  | [], _ => by simp [predicatesOf, nodesOf]
  | e :: es, h => by
    intro p hp
    simp only [predicatesOf, nodesOf, List.mem_append] at hp
    rcases hp with hp | hp
    · exact isMade_nodes first n e h.1 p hp
    · exact (isMade_predicatesBehind _ es h.2 p hp).weaken first

theorem isMade_predicatesBehind (n : Nat) :
    ∀ es : List Element, AllContent es → ∀ p ∈ nodesOf (predicatesBehind n es), IsMade .none p
  | [], _ => by simp [predicatesBehind, nodesOf]
  | e :: es, h => by
    intro p hp
    simp only [predicatesBehind, nodesOf, List.mem_append] at hp
    rcases hp with hp | hp
    · obtain ⟨d, m, e', rfl, hcontent, hd⟩ := isMade_nodes e.connector n e h.1 p hp
      refine ⟨d, m, e', rfl, hcontent, .inr ?_⟩
      rcases hd with rfl | hd
      · exact e.connector_ne_clause
      · exact hd
    · exact isMade_predicatesBehind _ es h.2 p hp

end

theorem IsMade.connector_ne_clause {p : Predicate} (h : IsMade .none p) : p.connector ≠ .clause := by
  obtain ⟨d, n, e, rfl, -, hd⟩ := h
  rw [e.connector_predicate]
  rcases hd with rfl | hd
  · simp
  · exact hd

/-- Below and behind the first predicate, nothing begins a clause. -/
theorem connector_tail_ne_clause (first : Connector) (n : Nat) {es : List Element} (h : AllContent es) :
    ∀ p ∈ (nodesOf (predicatesOf first n es)).tail, p.connector ≠ .clause := by
  cases es with
  | nil => simp [predicatesOf, nodesOf]
  | cons e es =>
    intro p hp
    simp only [predicatesOf, nodesOf] at hp
    refine IsMade.connector_ne_clause ?_
    cases e with
    | test link column condition =>
      simp only [Element.predicate, Predicate.nodes, List.singleton_append, List.tail_cons] at hp
      exact isMade_predicatesBehind _ es h.2 p hp
    | group link ds =>
      simp only [Element.predicate, Predicate.nodes, List.cons_append, List.tail_cons,
        List.mem_append] at hp
      rcases hp with hp | hp
      · exact isMade_predicatesOf .none n ds h.1.2 p hp
      · exact isMade_predicatesBehind _ es h.2 p hp

theorem Condition.isFilled_test {condition : Condition} (h : condition.isVoid = false) (c : Connector)
    (column : String) (n : Nat) : (Predicate.comparison c column (condition.test column n)).IsFilled := by
  cases condition with
  | member vs negated =>
    cases vs with
    | nil => simp [isVoid] at h
    | cons v vs => simp [Condition.test, Predicate.IsFilled, Params.nextNames]
  | _ => trivial

/-- Nothing that is made has empty parentheses. -/
theorem IsMade.isFilled {c : Connector} {p : Predicate} (h : IsMade c p) : p.IsFilled := by
  obtain ⟨d, n, e, rfl, hcontent, -⟩ := h
  cases e with
  | test link column condition => exact Condition.isFilled_test hcontent d column n
  | group link es => simpa [Element.predicate, Predicate.IsFilled, predicatesOf_eq_nil_iff] using hcontent.1

/-! ## The text -/

/-- A token in which something is seen. -/
def IsVisible (token : String) : Prop := ∃ c ∈ token.toList, Text.isBlank c = false

/-- The tokens of a predicate behind its connector. -/
def Predicate.body : Predicate → List String
  | .comparison _ column test => column :: test.tokens
  | .group _ children => "(" :: tokensOfList children ++ [")"]

theorem Predicate.tokens_eq_body (p : Predicate) : p.tokens = p.connector.token?.toList ++ p.body := by
  cases p <;> simp [tokens, connector, body]

theorem Predicate.mem_tokensOfList_of_mem_body {p : Predicate} {token : String} (h : token ∈ p.body)
    (ps : List Predicate) : token ∈ tokensOfList (p :: ps) := by
  rw [tokensOfList, tokens_eq_body]
  exact List.mem_append_left _ (List.mem_append_right _ h)

/-- Characters of which each test and each group leaves one in the text. -/
def signs : List Char := ['@', 'I', 'N', 'B', '(']

theorem isBlank_of_mem_signs {c : Char} (h : c ∈ signs) : Text.isBlank c = false := by
  have hall : signs.all (!Text.isBlank ·) = true := by decide
  simpa using List.all_eq_true.1 hall c h

theorem Test.exists_sign (t : Test) : ∃ token ∈ t.tokens, ∃ c ∈ token.toList, c ∈ signs := by
  cases t with
  | compare op name => exact ⟨marker name, by simp [tokens], '@', by simp [marker], by decide⟩
  | isNull => exact ⟨"IS NULL", by simp [tokens], 'I', by simp, by decide⟩
  | notNull => exact ⟨"IS NOT NULL", by simp [tokens], 'I', by simp, by decide⟩
  | is word => exact ⟨"IS " ++ word.text, by simp [tokens], 'I', by simp, by decide⟩
  | not word => exact ⟨"NOT " ++ word.text, by simp [tokens], 'N', by simp, by decide⟩
  | between min max =>
    exact ⟨"BETWEEN " ++ marker min ++ " AND " ++ marker max, by simp [tokens], 'B', by simp, by decide⟩
  | member names negated =>
    exact ⟨"( " ++ ", ".intercalate (names.map marker) ++ " )", by simp [tokens], '(', by simp, by decide⟩

theorem Predicate.exists_sign (p : Predicate) : ∃ token ∈ p.body, ∃ c ∈ token.toList, c ∈ signs := by
  cases p with
  | comparison c column test =>
    obtain ⟨token, hmem, hsign⟩ := test.exists_sign
    exact ⟨token, by simp [body, hmem], hsign⟩
  | group c children => exact ⟨"(", by simp [body], '(', by simp, by decide⟩

theorem Predicate.exists_visible (p : Predicate) : ∃ token ∈ p.body, IsVisible token := by
  obtain ⟨token, hmem, c, hc, hsign⟩ := p.exists_sign
  exact ⟨token, hmem, c, hc, isBlank_of_mem_signs hsign⟩

theorem toList_render (ps : List Predicate) :
    (render ps).toList =
      Text.normalize ([' '].intercalate ((Predicate.tokensOfList ps).map String.toList)) := by
  simp [render, Text.normalized, String.toList_intercalate]

@[simp] theorem render_nil : render [] = "" := rfl

@[simp] theorem normalized_render (ps : List Predicate) : Text.normalized (render ps) = render ps := by
  rw [← String.toList_inj, Text.normalized, String.toList_ofList, toList_render, Text.normalize_normalize]

/-- The words of the text are those of the tokens. -/
theorem words_render_tokens (ps : List Predicate) :
    Text.words (render ps).toList = (Predicate.tokensOfList ps).flatMap fun t => Text.words t.toList := by
  rw [render, Text.words_normalized, Text.words_intercalate_tokens]

/-- A text with a visible token is not blank. -/
theorem normalized_intercalate_ne_empty {tokens : List String} (h : ∃ t ∈ tokens, IsVisible t) :
    Text.normalized (" ".intercalate tokens) ≠ "" := by
  obtain ⟨t, ht, c, hc, hb⟩ := h
  refine Text.normalized_ne_empty hb ?_
  rw [String.toList_intercalate]
  exact Text.mem_intercalate hc (List.mem_map_of_mem ht) _

/-- The text of predicates behind the connector of the first. -/
def restOf : List Predicate → String
  | [] => ""
  | p :: ps => Text.normalized (" ".intercalate (p.body ++ Predicate.tokensOfList ps))

/-- Predicates of which the first has the word of a connector in front have a text that begins with
the word. -/
theorem render_of_token {p : Predicate} {w : String} (hp : p.connector.token? = .some w)
    (ps : List Predicate) : render (p :: ps) = w ++ " " ++ restOf (p :: ps) := by
  have hw : Text.normalized w = w ∧ w ≠ "" := by
    cases hc : p.connector with
    | none => simp [hc, Connector.token?] at hp
    | clause | and | or =>
      obtain rfl : _ = w := by simpa [hc, Connector.token?] using hp
      decide
  have hrest : restOf (p :: ps) ≠ "" := by
    obtain ⟨t, ht, hv⟩ := p.exists_visible
    exact normalized_intercalate_ne_empty ⟨t, List.mem_append_left _ ht, hv⟩
  have hjoined : render (p :: ps) = Text.joined (Text.normalized w) (restOf (p :: ps)) := by
    rw [render, Predicate.tokensOfList, Predicate.tokens_eq_body, hp, Option.toList_some, List.append_assoc,
      Text.normalized_intercalate_append, String.intercalate_singleton, restOf]
  rw [hjoined, hw.1, Text.joined_of_ne hw.2 hrest]

/-- Predicates of which the first begins the clause have a text that begins with `WHERE`. -/
theorem render_clause {p : Predicate} (hp : p.connector = .clause) (ps : List Predicate) :
    ∃ rest, render (p :: ps) = "WHERE " ++ rest :=
  ⟨restOf (p :: ps), render_of_token (by rw [hp]; rfl) ps⟩

/-! ## Joining -/

/-- Predicates that are a clause, if there are any. -/
def IsClause (ps : List Predicate) : Prop := ∀ p ∈ ps.head?, p.connector = .clause

theorem isClause_leadWith (ps : List Predicate) : IsClause (leadWith .clause ps) := by
  cases ps <;> simp [IsClause, leadWith, connector_withConnector]

theorem isClause_enclose (ps : List Predicate) : IsClause (enclose .clause ps) := by
  unfold enclose
  split
  · simp [IsClause, Predicate.connector]
  · exact isClause_leadWith ps

theorem enclose_eq_nil_iff {c : Connector} {ps : List Predicate} : enclose c ps = [] ↔ ps = [] := by
  cases ps with
  | nil => simp [enclose, isMixed, leadWith]
  | cons p ps =>
    unfold enclose
    split <;> simp [leadWith]

/-- A clause stays one, whatever is joined to it. -/
theorem isClause_conjoin {ps : List Predicate} (h : IsClause ps) (qs : List Predicate) :
    IsClause (conjoin ps qs) := by
  rw [conjoin_eq]
  split
  · exact h
  · split
    · exact isClause_leadWith qs
    · rename_i hps
      have hhead := isClause_enclose ps
      cases he : enclose .clause ps with
      | nil => exact absurd (enclose_eq_nil_iff.1 he) hps
      | cons p rest => simpa [he, IsClause] using hhead

theorem conjoin_eq_nil_iff {ps qs : List Predicate} : conjoin ps qs = [] ↔ ps = [] ∧ qs = [] := by
  rw [conjoin_eq]
  by_cases hqs : qs = []
  · simp [hqs]
  · by_cases hps : ps = []
    · cases qs with
      | nil => exact absurd rfl hqs
      | cons q qs => simp [hps, leadWith]
    · simp [hqs, hps, enclose_eq_nil_iff]

theorem render_eq_empty_iff {ps : List Predicate} (h : IsClause ps) : render ps = "" ↔ ps = [] := by
  cases ps with
  | nil => simp
  | cons p ps =>
    obtain ⟨rest, hrest⟩ := render_clause (h p rfl) ps
    simp [hrest]

/-! ## Filters -/

theorem isClause_continuing_run (ps : Params) (script : List Step) :
    IsClause ((continuing ps).run script).predicates := by
  rw [continuing_run_eq]
  cases outline script with
  | nil => simp [IsClause, predicatesOf]
  | cons e es => simp [IsClause, predicatesOf, e.connector_predicate]

end ParamQuery.Filter
