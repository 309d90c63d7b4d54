/-
What becomes of the literals in the texts that a query is made of.

The literals of a query as it is put together are those of its texts
(`Statement.hasLiterals_tokens`); what is written is that, normalised
(`Statement.text_eq_normalized_plain`). A field keeps its literals unless
it is cut at an `AS` in one of them (`Origin.literals_iff`).
-/
import ParamQuery.Proofs.Construction.Binding
import ParamQuery.Proofs.Entity.Lookup
import ParamQuery.Proofs.Select.Origins
import ParamQuery.Proofs.Text.Literal

namespace ParamQuery

open Markers (IsName spaced)
open Text (IsPaired)

/-! ## Literals of what is put together -/

/-- A text whose quotes are paired, and its literals. -/
structure Text.HasLiterals (ls : List (List Char)) (s : List Char) : Prop where
  paired : IsPaired s
  literals : literals s = ls

namespace Text

theorem IsPaired.hasLiterals {s : List Char} (h : IsPaired s) : HasLiterals (literals s) s := ⟨h, rfl⟩

theorem hasLiterals_nil : HasLiterals [] [] := ⟨by decide, rfl⟩

theorem hasLiterals_of_notMem {s : List Char} (h : '\'' ∉ s) : HasLiterals [] s :=
  ⟨isPaired_of_notMem h, literals_of_notMem h⟩

theorem hasLiterals_word {w : String} (h : '\'' ∉ w.toList) : HasLiterals [] w.toList := hasLiterals_of_notMem h

theorem HasLiterals.append {s t : List Char} {ls ms : List (List Char)} (hs : HasLiterals ls s)
    (ht : HasLiterals ms t) : HasLiterals (ls ++ ms) (s ++ t) :=
  ⟨hs.paired.append ht.paired, by rw [literals_append hs.paired, hs.literals, ht.literals]⟩

theorem HasLiterals.intercalate {sep : List Char} (hsep : '\'' ∉ sep) {α : Type} {xs : List α}
    {ls : α → List (List Char)} {text : α → List Char} (h : ∀ x ∈ xs, HasLiterals (ls x) (text x)) :
    HasLiterals (xs.flatMap ls) (sep.intercalate (xs.map text)) := by
  induction xs with
  | nil => exact hasLiterals_nil
  | cons x xs ih =>
    have hx := h x (by simp)
    have hxs := ih fun y hy => h y (by simp [hy])
    by_cases hnil : xs = []
    · subst hnil
      simpa using hx
    · rw [List.map_cons, List.intercalate_cons_of_ne_nil (by simpa using hnil), List.flatMap_cons,
        List.append_assoc]
      exact hx.append ((hasLiterals_of_notMem hsep).append hxs)

/-- Texts with commas between them. -/
theorem hasLiterals_commas {α : Type} (xs : List α) (text : α → String) {ls : α → List (List Char)}
    (h : ∀ x ∈ xs, HasLiterals (ls x) (text x).toList) :
    HasLiterals (xs.flatMap ls) (", ".intercalate (xs.map text)).toList := by
  rw [String.toList_intercalate, List.map_map]
  exact HasLiterals.intercalate (by decide) h

theorem HasLiterals.spaced_append {ts us : List String} {ls ms : List (List Char)}
    (ht : HasLiterals ls (spaced ts)) (hu : HasLiterals ms (spaced us)) :
    HasLiterals (ls ++ ms) (spaced (ts ++ us)) := by
  rw [spaced, List.flatMap_append]
  exact ht.append hu

theorem HasLiterals.spaced_cons {t : String} {ts : List String} {ls ms : List (List Char)}
    (ht : HasLiterals ls t.toList) (hts : HasLiterals ms (spaced ts)) :
    HasLiterals (ls ++ ms) (spaced (t :: ts)) := by
  have hspace : HasLiterals [] [' '] := hasLiterals_of_notMem (by decide)
  rw [spaced, List.flatMap_cons]
  exact (hspace.append ht).append hts

theorem HasLiterals.spaced_singleton {t : String} {ls : List (List Char)} (h : HasLiterals ls t.toList) :
    HasLiterals ls (spaced [t]) := by
  have hnil : HasLiterals [] (spaced []) := hasLiterals_nil
  simpa using h.spaced_cons hnil

theorem hasLiterals_spaced_of_notMem {ts : List String} (h : ∀ t ∈ ts, HasLiterals [] t.toList) :
    HasLiterals [] (spaced ts) := by
  induction ts with
  | nil => exact hasLiterals_nil
  | cons t ts ih => exact (h t (by simp)).spaced_cons (ih fun u hu => h u (by simp [hu]))

theorem HasLiterals.intercalate_spaces {ts : List String} {ls : List (List Char)}
    (h : HasLiterals ls (spaced ts)) : HasLiterals ls (" ".intercalate ts).toList := by
  rw [String.toList_intercalate]
  cases ts with
  | nil => exact h
  | cons t ts =>
    rw [Markers.spaced_eq] at h
    have hquotes := h.paired
    rw [IsPaired, List.count_cons_of_ne (by decide)] at hquotes
    refine ⟨hquotes, ?_⟩
    rw [← h.literals, literals_cons_of_ne (by decide)]
    rfl

/-- The literals of texts, in order. -/
def literalsOf (texts : List String) : List (List Char) := texts.flatMap fun t => literals t.toList

end Text

open Text (HasLiterals literalsOf)

/-! ## Fields -/

namespace Text

theorem hasLiterals_trimmed {t : String} (h : IsPaired t.toList) :
    HasLiterals (literals t.toList) (trimmed t).toList := by
  rw [trimmed, String.toList_ofList]
  exact ⟨isPaired_trim.2 h, literals_trim h⟩

/-- Quotes can be counted without the rest of a text. -/
theorem count_quote_congr {s t : List Char} (h : s.filter Markers.isMark = t.filter Markers.isMark) :
    s.count '\'' = t.count '\'' := by
  have hmark : Markers.isMark '\'' = true := rfl
  rw [← List.count_filter hmark, h, List.count_filter hmark]

end Text

namespace Projection.Entry

theorem hasLiterals_make (expression : String) (alias? : Option String)
    (h : ∀ t ∈ expression :: alias?.toList, IsPaired t.toList) :
    HasLiterals (literalsOf (expression :: alias?.toList)) (make expression alias?).text.toList := by
  have hexpression := Text.hasLiterals_trimmed (h expression (by simp))
  cases alias? with
  | none => simpa [make, text, literalsOf] using hexpression
  | some a =>
    have halias := Text.hasLiterals_trimmed (h a (by simp))
    have hword : HasLiterals [] " AS ".toList := Text.hasLiterals_of_notMem (by decide)
    simp only [make, text, Option.bind_some, Text.nonBlank?]
    by_cases hblank : (Text.trimmed a).isEmpty = true
    · have hnone : Text.literals a.toList = [] := by
        rw [← halias.literals, String.isEmpty_iff.1 hblank]
        rfl
      simpa [hblank, literalsOf, hnone] using hexpression
    · simpa [hblank, literalsOf] using (hexpression.append hword).append halias

/-- If a field is cut at an `AS`, it is outside of the field's literals. -/
def IsCutOutside (field : String) : Prop := ∀ parts ∈ cutAtAs? (Text.trim field.toList), IsPaired parts.1

instance : DecidablePred IsCutOutside := fun field =>
  inferInstanceAs (Decidable (∀ parts ∈ cutAtAs? (Text.trim field.toList), IsPaired parts.1))

/-- The parts of a field that is cut, and the word between them. -/
theorem exists_cut {field : String} {before after : List Char}
    (h : cutAtAs? (Text.trim field.toList) = .some (before, after)) :
    ∃ word, '\'' ∉ word ∧ Text.trim field.toList = before ++ (word ++ after) := by
  obtain ⟨x, y, hx, hy, hcs⟩ := cutAtAs?_eq h
  refine ⟨[' ', x, y, ' '], ?_, by simpa using hcs⟩
  have hne {c : Char} (hc : c.toUpper = 'A' ∨ c.toUpper = 'S') : '\'' ≠ c := by
    rintro rfl
    exact absurd (isMark_of_toUpper hc) (by decide)
  simp [hne (.inl hx), hne (.inr hy)]

theorem literals_read {field : String} (h : IsPaired field.toList) (houtside : IsCutOutside field) :
    Text.literals (read field).text.toList = Text.literals field.toList := by
  cases hcut : cutAtAs? (Text.trim field.toList) with
  | none =>
    rw [read_of_not_cut hcut]
    exact (Text.hasLiterals_trimmed h).literals
  | some parts =>
    obtain ⟨before, after⟩ := parts
    have hbefore : IsPaired before := houtside (before, after) hcut
    obtain ⟨word, hword, hcs⟩ := exists_cut hcut
    have hall : IsPaired (before ++ (word ++ after)) := hcs ▸ Text.isPaired_trim.2 h
    have hafter : IsPaired after := by
      rw [IsPaired, List.count_append, List.count_append, List.count_eq_zero_of_not_mem hword] at hall
      rw [IsPaired] at hbefore ⊢
      omega
    have hmade := hasLiterals_make (.ofList before) (.some (.ofList after)) (by simpa using ⟨hbefore, hafter⟩)
    rw [read_of_cut hcut, hmade.literals, ← Text.literals_trim h, hcs, Text.literals_append hbefore,
      Text.literals_append (Text.isPaired_of_notMem hword), Text.literals_of_notMem hword]
    simp [literalsOf]

/-- A field that is cut in a literal keeps what is outside, but for blanks at its ends. -/
theorem outside_read_of_cut {field : String} (h : IsPaired field.toList) {before after : List Char}
    (hcut : cutAtAs? (Text.trim field.toList) = .some (before, after)) (hbefore : ¬ IsPaired before) :
    Text.normalize (Text.outside (read field).text.toList) = Text.normalize (Text.outside field.toList) := by
  obtain ⟨word, hword, hcs⟩ := exists_cut hcut
  have hafter : ¬ IsPaired after := by
    have hall : IsPaired (before ++ (word ++ after)) := hcs ▸ Text.isPaired_trim.2 h
    rw [IsPaired, List.count_append, List.count_append, List.count_eq_zero_of_not_mem hword] at hall
    rw [IsPaired] at hbefore ⊢
    omega
  have halias : (Text.trimmed (.ofList after)).isEmpty = false := by
    rw [Bool.eq_false_iff]
    intro hempty
    have htrim : Text.trim after = [] := by
      have := congrArg String.toList (String.isEmpty_iff.1 hempty)
      simpa [Text.trimmed] using this
    exact hafter (Text.isPaired_trim.1 (by rw [htrim]; decide))
  have htext : (read field).text.toList = Text.trim before ++ (" AS ".toList ++ Text.trim after) := by
    rw [read_of_cut hcut, make, Option.bind_some, Text.nonBlank?, if_neg (by simp [halias]), text]
    simp [Text.trimmed]
  have hmiddle {w : List Char} (hw : '\'' ∉ w) (s t : List Char) (hs : ¬ IsPaired s) :
      Text.outside (s ++ (w ++ t)) = Text.outside s ++ Text.outsideFrom true t := by
    rw [Text.outside, (Text.outsideFrom_append false s _).2 hs, Bool.not_false,
      (Text.outsideFrom_append true w t).1 (Text.isPaired_of_notMem hw), (Text.outside_of_notMem hw).2,
      List.nil_append, Text.outside]
  obtain ⟨front, _, hfront, -, -, hopens⟩ := Text.exists_outside_trim before
  obtain ⟨_, back, -, hback, -, hcloses⟩ := Text.exists_outside_trim after
  obtain ⟨front', back', hfront', hback', hfield, -⟩ := Text.exists_outside_trim field.toList
  rw [htext, hmiddle (by decide) _ _ (by rwa [Text.isPaired_trim]), hfield h, hcs, hmiddle hword _ _ hbefore,
    (hopens hbefore).1, (hcloses hafter).2]
  rw [Text.normalize_blanks_append hfront', Text.normalize_append_blanks hback', List.append_assoc,
    Text.normalize_blanks_append hfront, ← List.append_assoc, Text.normalize_append_blanks hback]

/-- **What becomes of the literals of a field.** Read and normalised it has the same, exactly if they are
normalised and it is not cut in one of them, unless that makes no difference. -/
theorem literals_read_iff {field : String} (h : IsPaired field.toList) :
    (Text.literals (read field).text.toList).map Text.normalize = Text.literals field.toList ↔
      (∀ l ∈ Text.literals field.toList, Text.normalize l = l) ∧
        (IsCutOutside field ∨ Text.normalized (read field).text = Text.normalized field) := by
  constructor
  · intro hkept
    have hnormal : ∀ l ∈ Text.literals field.toList, Text.normalize l = l := by
      intro l hl
      rw [← hkept] at hl
      obtain ⟨l', -, rfl⟩ := List.mem_map.1 hl
      exact Text.normalize_normalize l'
    refine ⟨hnormal, ?_⟩
    by_cases hcut : IsCutOutside field
    · exact .inl hcut
    · simp only [IsCutOutside, not_forall] at hcut
      obtain ⟨⟨before, after⟩, hcut, hbefore⟩ := hcut
      refine .inr (congrArg String.ofList (Text.eq_of_literals_of_outside ?_ ?_))
      · rw [Text.literals_normalize, hkept, (Text.literals_normalize_eq_iff _).2 hnormal]
      · rw [Text.outside_normalize, Text.outside_normalize, outside_read_of_cut h hcut hbefore]
  · rintro ⟨hnormal, hcut | hsame⟩
    · rw [literals_read h hcut, ← Text.literals_normalize]
      exact (Text.literals_normalize_eq_iff _).2 hnormal
    · have hsame' := String.ofList_inj.1 hsame
      rw [← Text.literals_normalize, hsame']
      exact (Text.literals_normalize_eq_iff _).2 hnormal

end Projection.Entry

namespace Select.Origin

/-- What was not read out of the middle of a literal, unless that makes no difference. -/
def IsKept : Origin → Prop
  | .field text =>
    Projection.Entry.IsCutOutside text ∨ Text.normalized (Projection.Entry.read text).text = Text.normalized text
  | .replacement .. => True

instance : DecidablePred IsKept
  | .field text => inferInstanceAs (Decidable (_ ∨ Text.normalized (Projection.Entry.read text).text = _))
  | .replacement .. => inferInstanceAs (Decidable True)

theorem isPaired_entry {o : Origin} (h : ∀ t ∈ o.texts, IsPaired t.toList) : IsPaired o.entry.text.toList := by
  cases o with
  | field text =>
    rw [IsPaired, entry, Text.count_quote_congr (Projection.Entry.filter_read text)]
    exact h text (by simp [texts])
  | replacement expression alias? => exact (Projection.Entry.hasLiterals_make _ _ h).paired

theorem length_literals {o : Origin} (h : ∀ t ∈ o.texts, IsPaired t.toList) :
    (Text.literals o.entry.text.toList).length = (literalsOf o.texts).length := by
  cases o with
  | field text =>
    simp only [entry, texts, literalsOf, List.flatMap_singleton, Text.length_literals,
      Text.count_quote_congr (Projection.Entry.filter_read text)]
  | replacement expression alias? => exact congrArg List.length (Projection.Entry.hasLiterals_make _ _ h).literals

theorem literals_iff {o : Origin} (h : ∀ t ∈ o.texts, IsPaired t.toList) :
    (Text.literals o.entry.text.toList).map Text.normalize = literalsOf o.texts ↔
      (∀ l ∈ literalsOf o.texts, Text.normalize l = l) ∧ o.IsKept := by
  cases o with
  | field text =>
    simpa [entry, texts, literalsOf, IsKept] using Projection.Entry.literals_read_iff (h text (by simp [texts]))
  | replacement expression alias? =>
    rw [entry, (Projection.Entry.hasLiterals_make _ _ h).literals, IsKept, and_true]
    exact Text.map_normalize_eq_iff _

end Select.Origin

/-! ## Predicates -/

namespace Filter

theorem hasLiterals_marker {n : String} (h : IsName n) : HasLiterals [] (marker n).toList := by
  refine Text.hasLiterals_of_notMem ?_
  rw [marker, String.toList_append, List.mem_append, not_or]
  exact ⟨by decide, fun hmem => absurd (h _ hmem) (by decide)⟩

theorem Test.hasLiterals_tokens {t : Test} (h : ∀ n ∈ t.names, IsName n) :
    HasLiterals [] (spaced t.tokens) := by
  refine Text.hasLiterals_spaced_of_notMem fun token htoken => ?_
  cases t with
  | compare op name =>
    simp only [tokens, List.mem_cons, List.not_mem_nil, or_false] at htoken
    rcases htoken with rfl | rfl
    · exact Text.hasLiterals_word (by cases op <;> decide)
    · exact hasLiterals_marker (h name (by simp [names]))
  | isNull | notNull =>
    simp only [tokens, List.mem_singleton] at htoken
    subst htoken
    exact Text.hasLiterals_word (by decide)
  | is word | not word =>
    simp only [tokens, List.mem_singleton] at htoken
    subst htoken
    exact Text.hasLiterals_word (by cases word <;> decide)
  | between min max =>
    simp only [tokens, List.mem_singleton] at htoken
    subst htoken
    simp only [String.toList_append]
    have hmin := hasLiterals_marker (h min (by simp [names]))
    have hmax := hasLiterals_marker (h max (by simp [names]))
    exact (((Text.hasLiterals_word (by decide)).append hmin).append (Text.hasLiterals_word (by decide))).append hmax
  | member ns negated =>
    simp only [tokens, List.mem_cons, List.not_mem_nil, or_false] at htoken
    rcases htoken with rfl | rfl
    · exact Text.hasLiterals_word (by cases negated <;> decide)
    · simp only [String.toList_append]
      have hmarkers : HasLiterals [] (", ".intercalate (ns.map marker)).toList := by
        have := Text.hasLiterals_commas ns marker fun n hn => hasLiterals_marker (h n hn)
        rwa [List.flatMap_eq_nil_iff.2 fun _ _ => rfl] at this
      exact ((Text.hasLiterals_word (by decide)).append hmarkers).append (Text.hasLiterals_word (by decide))

theorem Connector.hasLiterals_token (c : Connector) : HasLiterals [] (spaced c.token?.toList) := by
  refine Text.hasLiterals_of_notMem ?_
  cases c <;> decide

/-- A leaf whose column has paired quotes, and whose names are such that markers can carry them. -/
def IsPairedLeaf (leaf : String × Test) : Prop := IsPaired leaf.1.toList ∧ ∀ n ∈ leaf.2.names, IsName n

mutual

theorem Predicate.hasLiterals_tokens : ∀ p : Predicate, (∀ leaf ∈ p.leaves, IsPairedLeaf leaf) →
    HasLiterals (literalsOf (p.leaves.map (·.1))) (spaced p.tokens)
  | .comparison c column test, h => by
    obtain ⟨hcolumn, hnames⟩ := h (column, test) (by simp [Predicate.leaves])
    have := c.hasLiterals_token.spaced_append (hcolumn.hasLiterals.spaced_cons (Test.hasLiterals_tokens hnames))
    simpa [Predicate.tokens, Predicate.leaves, literalsOf] using this
  | .group c children, h => by
    have hchildren := hasLiterals_tokensOfList children (by simpa [Predicate.leaves] using h)
    have hopen : HasLiterals [] "(".toList := Text.hasLiterals_of_notMem (by decide)
    have hclose : HasLiterals [] (spaced [")"]) := Text.hasLiterals_of_notMem (by decide)
    have := (c.hasLiterals_token.spaced_append (hopen.spaced_cons hchildren)).spaced_append hclose
    simpa [Predicate.tokens, Predicate.leaves, columnsOf] using this

theorem hasLiterals_tokensOfList : ∀ ps : List Predicate, (∀ leaf ∈ leavesOf ps, IsPairedLeaf leaf) →
    HasLiterals (literalsOf (columnsOf ps)) (spaced (Predicate.tokensOfList ps))
  | [], _ => Text.hasLiterals_nil
  | p :: ps, h => by
    have hp := Predicate.hasLiterals_tokens p fun leaf hl => h leaf (by simp [leavesOf, hl])
    have hps := hasLiterals_tokensOfList ps fun leaf hl => h leaf (by simp [leavesOf, hl])
    have := hp.spaced_append hps
    simpa [Predicate.tokensOfList, columnsOf, leavesOf, literalsOf] using this

end

end Filter

/-! ## Queries -/

namespace Select

/-- The texts in a join. -/
def Join.fragments (j : Join) : List String := j.table :: j.alias?.toList ++ [j.condition]

/-- The texts in a source. -/
def Source.fragments (s : Source) : List String :=
  s.table :: s.alias?.toList ++ s.joins.flatMap Join.fragments

namespace Statement

/-- The texts behind the projection of a statement, in the order in which they stand there. -/
def others (st : Statement) : List String :=
  st.source?.toList.flatMap Source.fragments ++ Filter.columnsOf st.predicates ++
    st.order?.toList.map (·.column)

/-- The texts in a statement, in the order in which they stand there. -/
def fragments (st : Statement) : List String := st.projection.map Projection.Entry.text ++ st.others

/-- The tokens of a statement: its parts, and of the predicates each token. -/
def tokens (st : Statement) (d : Dialect) : List String :=
  ["SELECT"] ++ (if st.distinct then ["DISTINCT"] else []) ++ (st.topText? d).toList ++
    [st.projection.text] ++ (st.source?.map Source.text).toList ++
    Filter.Predicate.tokensOfList st.predicates ++ (st.order?.map Order.text).toList ++
    (st.limitText? d).toList

/-- The text of a statement as it is put together, before blanks are normalised. -/
def plain (st : Statement) (d : Dialect) : String := " ".intercalate (st.tokens d)

theorem text_eq_normalized_plain (st : Statement) (d : Dialect) : st.text d = Text.normalized (st.plain d) := by
  refine Text.normalized_eq_of_words ?_
  rw [plain, Text.words_intercalate_tokens, Text.words_intercalate_tokens]
  simp only [parts, tokens, List.flatMap_append, List.flatMap_singleton, predicateText,
    Filter.words_render_tokens]

end Statement

theorem hasLiterals_aliased {table : String} {alias? : Option String}
    (h : ∀ t ∈ table :: alias?.toList, IsPaired t.toList) :
    HasLiterals (literalsOf (table :: alias?.toList)) (aliased table alias?).toList := by
  have htable := (h table (by simp)).hasLiterals
  cases alias? with
  | none => simpa [aliased, literalsOf] using htable
  | some a =>
    have hword : HasLiterals [] " AS ".toList := Text.hasLiterals_of_notMem (by decide)
    have halias := (h a (by simp)).hasLiterals
    simpa [aliased, literalsOf] using (htable.append hword).append halias

theorem Join.hasLiterals_text {j : Join} (h : ∀ t ∈ j.fragments, IsPaired t.toList) :
    HasLiterals (literalsOf j.fragments) j.text.toList := by
  have hkind : HasLiterals [] j.kind.words.toList :=
    Text.hasLiterals_of_notMem (by cases j.kind <;> decide)
  have hspace : HasLiterals [] " ".toList := Text.hasLiterals_of_notMem (by decide)
  have hon : HasLiterals [] " ON ".toList := Text.hasLiterals_of_notMem (by decide)
  have htable := hasLiterals_aliased fun t ht => h t (List.mem_append_left _ ht)
  have hcondition := (h j.condition (by simp [fragments])).hasLiterals
  have := (((hkind.append hspace).append htable).append hon).append hcondition
  simpa [text, fragments, literalsOf] using this

theorem Source.hasLiterals_text {s : Source} (h : ∀ t ∈ s.fragments, IsPaired t.toList) :
    HasLiterals (literalsOf s.fragments) s.text.toList := by
  have hfrom : HasLiterals [] "FROM ".toList := Text.hasLiterals_of_notMem (by decide)
  have htable := hasLiterals_aliased fun t ht => h t (List.mem_append_left _ ht)
  have hjoins : HasLiterals (s.joins.flatMap fun j => literalsOf j.fragments)
      (spaced (s.joins.map Join.text)) := by
    have hpaired : ∀ j ∈ s.joins, ∀ t ∈ j.fragments, IsPaired t.toList := fun j hj t ht =>
      h t (List.mem_append_right _ (List.mem_flatMap.2 ⟨j, hj, ht⟩))
    generalize s.joins = joins at hpaired
    induction joins with
    | nil => exact Text.hasLiterals_nil
    | cons j joins ih =>
      exact (Join.hasLiterals_text (hpaired j (by simp))).spaced_cons (ih fun k hk => hpaired k (by simp [hk]))
  have hhead : HasLiterals (literalsOf (s.table :: s.alias?.toList))
      ("FROM " ++ aliased s.table s.alias?).toList := by
    simpa using hfrom.append htable
  have := (hhead.spaced_cons hjoins).intercalate_spaces
  simpa [text, fragments, literalsOf, List.flatMap_assoc] using this

theorem Statement.hasLiterals_limits (st : Statement) (d : Dialect) :
    HasLiterals [] (spaced (st.topText? d).toList) ∧ HasLiterals [] (spaced (st.limitText? d).toList) := by
  have hnumber (n : Nat) : HasLiterals [] (Number.natText n).toList :=
    Text.hasLiterals_of_notMem fun hmem => absurd (isName_natText n _ hmem) (by decide)
  constructor
  · refine Text.hasLiterals_spaced_of_notMem fun t ht => ?_
    cases d with
    | postgres => simp [topText?] at ht
    | named =>
      obtain ⟨n, -, rfl⟩ := Option.map_eq_some_iff.1 (Option.mem_toList.1 ht)
      simp only [String.toList_append]
      exact ((Text.hasLiterals_word (by decide)).append (hnumber n)).append (Text.hasLiterals_word (by decide))
  · refine Text.hasLiterals_spaced_of_notMem fun t ht => ?_
    cases d with
    | named => simp [limitText?] at ht
    | postgres =>
      obtain ⟨n, -, rfl⟩ := Option.map_eq_some_iff.1 (Option.mem_toList.1 ht)
      rw [String.toList_append]
      exact (Text.hasLiterals_word (by decide)).append (hnumber n)

/-- **The literals of a query as it is put together are those of the texts in it.** -/
theorem Statement.hasLiterals_tokens {st : Statement} (h : ∀ t ∈ st.fragments, IsPaired t.toList)
    (hnames : ∀ n ∈ Filter.namesOf st.predicates, IsName n) (d : Dialect) :
    HasLiterals (literalsOf st.fragments) (spaced (st.tokens d)) := by
  simp only [fragments, others, ← List.append_assoc, List.mem_append] at h
  have hbegin : HasLiterals [] (spaced (["SELECT"] ++ if st.distinct then ["DISTINCT"] else [])) := by
    cases st.distinct <;> exact Text.hasLiterals_of_notMem (by decide)
  have hprojection : HasLiterals (literalsOf (st.projection.map Projection.Entry.text))
      (spaced [st.projection.text]) := by
    have hentries := Text.hasLiterals_commas st.projection Projection.Entry.text
      fun e he => (h e.text (.inl (.inl (.inl (List.mem_map_of_mem he))))).hasLiterals
    simpa [literalsOf, List.flatMap_map, Projection.text] using hentries.spaced_singleton
  have hsource : HasLiterals (literalsOf (st.source?.toList.flatMap Source.fragments))
      (spaced (st.source?.map Source.text).toList) := by
    cases hs : st.source? with
    | none => exact Text.hasLiterals_nil
    | some source =>
      have htexts := Source.hasLiterals_text fun t ht => h t (.inl (.inl (.inr (by simpa [hs] using ht))))
      simpa [literalsOf] using htexts.spaced_singleton
  have hpredicates := Filter.hasLiterals_tokensOfList st.predicates fun leaf hl =>
    ⟨h leaf.1 (.inl (.inr (List.mem_map_of_mem hl))),
      fun n hn => hnames n (List.mem_flatMap.2 ⟨leaf, hl, hn⟩)⟩
  have horder : HasLiterals (literalsOf (st.order?.toList.map (·.column)))
      (spaced (st.order?.map Order.text).toList) := by
    cases ho : st.order? with
    | none => exact Text.hasLiterals_nil
    | some order =>
      have hcolumn := (h order.column (.inr (by simp [ho]))).hasLiterals
      have hhead : HasLiterals [] "ORDER BY ".toList := Text.hasLiterals_of_notMem (by decide)
      have hspace : HasLiterals [] " ".toList := Text.hasLiterals_of_notMem (by decide)
      have hway : HasLiterals [] (if order.descending then "DESC" else "ASC").toList := by
        cases order.descending <;> exact Text.hasLiterals_of_notMem (by decide)
      have htext : HasLiterals (Text.literals order.column.toList) order.text.toList := by
        simpa [Order.text] using ((hhead.append hcolumn).append hspace).append hway
      simpa [literalsOf] using htext.spaced_singleton
  obtain ⟨htop, hlimit⟩ := st.hasLiterals_limits d
  have hall := ((((hbegin.spaced_append htop).spaced_append hprojection).spaced_append hsource).spaced_append
    hpredicates).spaced_append (horder.spaced_append hlimit)
  simpa [fragments, others, tokens, literalsOf] using hall

end Select

end ParamQuery
