/-
The text of predicates as a sequence of lexemes.

`words_renderWith`: the words of the text are those of the lexemes, also if
the markers are written in another way. If the columns are identifiers and
the markers have names, then the words are the lexemes, one for one
(`words_render`), and a word tells its lexeme (`Lexeme.read_text`); so the
text tells the lexemes (`render_eq_iff`).
-/
import Mathlib.Data.List.Basic
import ParamQuery.Proofs.Filter.Shape
import ParamQuery.Proofs.Statement.Markers

namespace ParamQuery.Filter

open Markers (IsName)

/-! ## Lexemes -/

/-- A word in the text of predicates. -/
inductive Lexeme where
  | clause
  | and
  | or
  | opening
  | closing
  | is
  | not
  | among
  | between
  | keyword (word : Keyword)
  | comparator (op : Comparator)
  /-- A marker, with a comma if another one follows. -/
  | marker (name : String) (comma : Bool)
  | column (name : String)
  deriving DecidableEq

/-- The lexeme of a connector, if it has one. -/
def Connector.lexemes : Connector → List Lexeme
  | .clause => [.clause]
  | .and => [.and]
  | .or => [.or]
  | .none => []

/-- Markers with commas between them. -/
def markerLexemes : List String → List Lexeme
  | [] => []
  | name :: names => .marker name (!names.isEmpty) :: markerLexemes names

/-- The lexemes of a test. -/
def Test.lexemes : Test → List Lexeme
  | .compare op name => [.comparator op, .marker name false]
  | .isNull => [.is, .keyword .null]
  | .notNull => [.is, .not, .keyword .null]
  | .is word => [.is, .keyword word]
  | .not word => [.not, .keyword word]
  | .between min max => [.between, .marker min false, .and, .marker max false]
  | .member names negated =>
    (if negated then [.not, .among] else [.among]) ++ .opening :: (markerLexemes names ++ [.closing])

mutual

/-- The lexemes of a predicate. -/
def Predicate.lexemes : Predicate → List Lexeme
  | .comparison c column test => c.lexemes ++ .column column :: test.lexemes
  | .group c children => c.lexemes ++ .opening :: (lexemesOf children ++ [.closing])

/-- The lexemes of a list of predicates. -/
def lexemesOf : List Predicate → List Lexeme
  | [] => []
  | p :: ps => p.lexemes ++ lexemesOf ps

end

/-! ## Words -/

/-- The words of the grammar that begin with a letter. -/
def reserved : List String :=
  ["WHERE", "AND", "OR", "NOT", "IS", "IN", "BETWEEN", "LIKE", "NULL", "TRUE", "FALSE", "UNKNOWN"]

/-- The characters of an identifier: ASCII letters and digits, the underscore and the dot. -/
def isIdentifierChar (c : Char) : Bool := Text.isNameChar c || c == '.'

/-- A column that is an identifier, qualified or not, and in no case one of the words of the grammar. -/
structure IsIdentifier (column : String) : Prop where
  nonempty : column ≠ ""
  chars : ∀ c ∈ column.toList, isIdentifierChar c = true
  free : Text.asciiUpper column ∉ reserved

instance (column : String) : Decidable (IsIdentifier column) :=
  decidable_of_iff
    (column ≠ "" ∧ column.toList.all isIdentifierChar = true ∧ Text.asciiUpper column ∉ reserved)
    ⟨fun ⟨hne, hchars, hfree⟩ => ⟨hne, List.all_eq_true.1 hchars, hfree⟩,
      fun h => ⟨h.nonempty, List.all_eq_true.2 h.chars, h.free⟩⟩

namespace Lexeme

/-- The word of a lexeme. -/
def text : Lexeme → String
  | .clause => "WHERE"
  | .and => "AND"
  | .or => "OR"
  | .opening => "("
  | .closing => ")"
  | .is => "IS"
  | .not => "NOT"
  | .among => "IN"
  | .between => "BETWEEN"
  | .keyword word => word.text
  | .comparator op => op.text
  | .marker name comma => ParamQuery.marker name ++ if comma then "," else ""
  | .column name => name

/-- A lexeme whose word tells it: a marker has a name, and a column is an identifier. -/
def IsTold : Lexeme → Prop
  | .marker name _ => IsName name
  | .column name => IsIdentifier name
  | _ => True

/-- The lexemes with a word of their own. -/
def fixed : List Lexeme :=
  [.clause, .and, .or, .opening, .closing, .is, .not, .among, .between, .keyword .null, .keyword .true,
    .keyword .false, .keyword .unknown, .comparator .equal, .comparator .notEqual, .comparator .less,
    .comparator .greater, .comparator .lessOrEqual, .comparator .greaterOrEqual, .comparator .like]

/-- The marker or the column of a word. -/
def readName : List Char → Lexeme
  | '@' :: cs => .marker (.ofList (cs.takeWhile Text.isNameChar)) !(cs.all Text.isNameChar)
  | cs => .column (.ofList cs)

/-- The lexeme of a word. -/
def read (word : List Char) : Lexeme := (fixed.find? (·.text.toList == word)).getD (readName word)

theorem read_text_of_mem_fixed : ∀ l ∈ fixed, read l.text.toList = l := by decide +kernel

theorem mem_fixed (l : Lexeme) :
    l ∈ fixed ∨ (∃ name comma, l = .marker name comma) ∨ ∃ name, l = .column name := by
  cases l with
  | keyword word => cases word <;> exact .inl (by decide)
  | comparator op => cases op <;> exact .inl (by decide)
  | marker name comma => exact .inr (.inl ⟨name, comma, rfl⟩)
  | column name => exact .inr (.inr ⟨name, rfl⟩)
  | clause | and | or | opening | closing | is | not | among | between => exact .inl (by decide)

theorem not_isIdentifier_of_mem_fixed : ∀ l ∈ fixed, ¬ IsIdentifier l.text := by decide +kernel

theorem head?_of_mem_fixed : ∀ l ∈ fixed, l.text.toList.head? ≠ .some '@' := by decide +kernel

theorem toList_marker (name : String) (comma : Bool) :
    (marker name comma).text.toList = '@' :: (name.toList ++ if comma then [','] else []) := by
  cases comma <;> simp [text, ParamQuery.marker]

/-- **A word tells its lexeme.** -/
theorem read_text {l : Lexeme} (h : l.IsTold) : read l.text.toList = l := by
  rcases l.mem_fixed with hfixed | ⟨name, comma, rfl⟩ | ⟨name, rfl⟩
  · exact read_text_of_mem_fixed l hfixed
  · have hnone : fixed.find? (·.text.toList == (marker name comma).text.toList) = .none := by
      refine List.find?_eq_none.2 fun l hl heq => head?_of_mem_fixed l hl ?_
      rw [eq_of_beq heq, toList_marker, List.head?_cons]
    have hname : ∀ c ∈ name.toList, Text.isNameChar c = true := h
    have hrun : (name.toList ++ if comma then [','] else []).takeWhile Text.isNameChar = name.toList := by
      rw [List.takeWhile_append_of_pos hname]
      cases comma <;> simp [Text.isNameChar]
    have hall : (name.toList ++ if comma then [','] else []).all Text.isNameChar = !comma := by
      rw [List.all_append, List.all_eq_true.2 hname]
      cases comma <;> decide
    rw [read, hnone, Option.getD_none, toList_marker, readName, hrun, hall, Bool.not_not, String.ofList_toList]
  · have hnone : fixed.find? (·.text.toList == (column name).text.toList) = .none := by
      refine List.find?_eq_none.2 fun l hl heq => not_isIdentifier_of_mem_fixed l hl ?_
      rw [String.toList_inj.1 (eq_of_beq heq)]
      exact h
    have hat : ∀ cs, name.toList ≠ '@' :: cs := by
      intro cs hcs
      have := IsIdentifier.chars h '@' (by simp [hcs])
      revert this
      decide
    rw [read, hnone, Option.getD_none, text, readName, String.ofList_toList]
    exact hat

/-- A word is one as well with a comma behind it. -/
theorem isWord_append_comma {w : List Char} (h : Text.IsWord w) (comma : Bool) :
    Text.IsWord (w ++ if comma then [','] else []) := by
  have hcomma : Text.isBlank ',' = false := by decide
  refine ⟨by simp [h.1], List.forall_mem_append.2 ⟨h.2, ?_⟩⟩
  cases comma with
  | false => simp
  | true => simpa using hcomma

theorem isWord_text {l : Lexeme} (h : l.IsTold) : Text.IsWord l.text.toList := by
  have hfixed : ∀ l ∈ fixed, l.text.toList ≠ [] ∧ l.text.toList.all (!Text.isBlank ·) = true := by decide +kernel
  rcases l.mem_fixed with hmem | ⟨name, comma, rfl⟩ | ⟨name, rfl⟩
  · obtain ⟨hne, hvisible⟩ := hfixed l hmem
    exact ⟨hne, by simpa using hvisible⟩
  · have hname : Text.IsWord ('@' :: name.toList) :=
      ⟨by simp, List.forall_mem_cons.2 ⟨by decide, fun c hc => Markers.isBlank_of_isNameChar (h c hc)⟩⟩
    rw [toList_marker]
    exact isWord_append_comma hname comma
  · have hid : IsIdentifier name := h
    refine ⟨by simpa [text] using hid.nonempty, fun c hc => ?_⟩
    have hchar := hid.chars c hc
    rw [isIdentifierChar, Bool.or_eq_true] at hchar
    rcases hchar with hc | hc
    · exact Markers.isBlank_of_isNameChar hc
    · rw [eq_of_beq hc]
      decide

theorem words_text {l : Lexeme} (h : l.IsTold) : Text.words l.text.toList = [l.text.toList] :=
  Text.words_of_isWord (isWord_text h)

end Lexeme

/-! ## Markers written in another way -/

/-- The tokens of a test whose markers are written by `write`. -/
def Test.tokensWith (write : String → String) : Test → List String
  | .compare op name => [op.text, write name]
  | .isNull => ["IS NULL"]
  | .notNull => ["IS NOT NULL"]
  | .is word => ["IS " ++ word.text]
  | .not word => ["NOT " ++ word.text]
  | .between min max => ["BETWEEN " ++ write min ++ " AND " ++ write max]
  | .member names negated =>
    [if negated then "NOT IN" else "IN", "( " ++ ", ".intercalate (names.map write) ++ " )"]

mutual

/-- The tokens of a predicate whose markers are written by `write`. -/
def Predicate.tokensWith (write : String → String) : Predicate → List String
  | .comparison c column test => c.token?.toList ++ column :: test.tokensWith write
  | .group c children => c.token?.toList ++ "(" :: tokensOfListWith write children ++ [")"]

/-- The tokens of a list of predicates whose markers are written by `write`. -/
def tokensOfListWith (write : String → String) : List Predicate → List String
  | [] => []
  | p :: ps => p.tokensWith write ++ tokensOfListWith write ps

end

/-- The text of predicates whose markers are written by `write`. -/
def renderWith (write : String → String) (ps : List Predicate) : String :=
  Text.normalized (" ".intercalate (tokensOfListWith write ps))

/-- The word of a lexeme, in a text whose markers are written by `write`. -/
def Lexeme.textWith (write : String → String) : Lexeme → String
  | .marker name comma => write name ++ if comma then "," else ""
  | l => l.text

theorem Test.tokensWith_marker (t : Test) : t.tokensWith marker = t.tokens := by
  cases t <;> rfl

mutual

theorem Predicate.tokensWith_marker : ∀ p : Predicate, p.tokensWith marker = p.tokens
  | .comparison c column test => by rw [Predicate.tokensWith, Test.tokensWith_marker, Predicate.tokens]
  | .group c children => by rw [Predicate.tokensWith, tokensOfListWith_marker children, Predicate.tokens]

theorem tokensOfListWith_marker : ∀ ps : List Predicate, tokensOfListWith marker ps = Predicate.tokensOfList ps
  | [] => rfl
  | p :: ps => by
    rw [tokensOfListWith, Predicate.tokensWith_marker p, tokensOfListWith_marker ps, Predicate.tokensOfList]

end

/-- Written as they are, the markers make the text itself. -/
theorem renderWith_marker (ps : List Predicate) : renderWith marker ps = render ps := by
  rw [renderWith, tokensOfListWith_marker, render]

theorem Lexeme.textWith_marker (l : Lexeme) : l.textWith ParamQuery.marker = l.text := by
  cases l <;> rfl

/-! ## The words of the text -/

/-- A leaf that can be read: its column is an identifier, and its markers have names. -/
def IsLegible (leaf : String × Test) : Prop := IsIdentifier leaf.1 ∧ ∀ n ∈ leaf.2.names, IsName n

/-- The words of tokens. -/
def wordsOf (tokens : List String) : List (List Char) := tokens.flatMap fun t => Text.words t.toList

theorem wordsOf_cons (t : String) (ts : List String) : wordsOf (t :: ts) = Text.words t.toList ++ wordsOf ts :=
  List.flatMap_cons

theorem wordsOf_append (ts us : List String) : wordsOf (ts ++ us) = wordsOf ts ++ wordsOf us :=
  List.flatMap_append

theorem wordsOf_singleton (t : String) : wordsOf [t] = Text.words t.toList := by
  rw [wordsOf, List.flatMap_singleton]

/-- What comes out as words, one for one, are words. -/
theorem flatMap_words_of_wordsOf_eq {ts : List String} {ls : List Lexeme} {f : Lexeme → List Char}
    (h : wordsOf ts = ls.map f) : (ls.flatMap fun l => Text.words (f l)) = ls.map f := by
  rw [List.map_eq_flatMap]
  refine List.flatMap_congr fun l hl => ?_
  have hmem : f l ∈ wordsOf ts := by
    rw [h]
    exact List.mem_map_of_mem hl
  obtain ⟨t, -, ht⟩ := List.mem_flatMap.1 hmem
  exact Text.words_of_isWord (Text.isWord_of_mem_words ht)

theorem isWord_marker {name : String} (h : IsName name) : Text.IsWord (marker name).toList := by
  have hword := Lexeme.isWord_text (l := .marker name false) h
  simpa [Lexeme.text] using hword

theorem Connector.words_token (write : String → String) (c : Connector) :
    wordsOf c.token?.toList = c.lexemes.map fun l => (l.textWith write).toList := by
  have hlexemes : (c.lexemes.map fun l => (l.textWith write).toList) = c.lexemes.map (·.text.toList) := by
    cases c <;> rfl
  rw [hlexemes]
  cases c <;> decide

section

variable {write : String → String}

theorem words_markers {names : List String} (h : ∀ n ∈ names, Text.IsWord (write n).toList) :
    Text.words (", ".intercalate (names.map write)).toList =
      (markerLexemes names).map fun l => (l.textWith write).toList := by
  rw [String.toList_intercalate, List.map_map]
  induction names with
  | nil => rfl
  | cons name names ih =>
    have hname := h name (by simp)
    cases names with
    | nil => simpa [markerLexemes, Lexeme.textWith] using Text.words_of_isWord hname
    | cons next names =>
      have hrest := ih fun n hn => h n (List.mem_cons_of_mem _ hn)
      have hword : Text.IsWord ((write name).toList ++ [',']) := Lexeme.isWord_append_comma hname true
      have hsplit (after : List Char) : (write name).toList ++ (", ".toList ++ after) =
          ((write name).toList ++ [',']) ++ ' ' :: after := by
        simp
      rw [List.map_cons, Function.comp_apply, List.intercalate_cons_of_ne_nil (by simp), List.append_assoc,
        hsplit, Text.words_append_blank (by decide), Text.words_of_isWord hword, hrest]
      simp [markerLexemes, Lexeme.textWith]

theorem Test.words_tokens {t : Test} (h : ∀ n ∈ t.names, Text.IsWord (write n).toList) :
    wordsOf (t.tokensWith write) = t.lexemes.map fun l => (l.textWith write).toList := by
  cases t with
  | compare op name =>
    have hop : Text.words op.text.toList = [op.text.toList] := by cases op <;> decide
    rw [tokensWith, wordsOf_cons, wordsOf_singleton, hop, Text.words_of_isWord (h name (by simp [names]))]
    simp [lexemes, Lexeme.textWith, Lexeme.text]
  | isNull =>
    show wordsOf ["IS NULL"] = ["IS".toList, "NULL".toList]
    decide
  | notNull =>
    show wordsOf ["IS NOT NULL"] = ["IS".toList, "NOT".toList, "NULL".toList]
    decide
  | is word =>
    show wordsOf ["IS " ++ word.text] = ["IS".toList, word.text.toList]
    cases word <;> decide
  | not word =>
    show wordsOf ["NOT " ++ word.text] = ["NOT".toList, word.text.toList]
    cases word <;> decide
  | between min max =>
    have hsplit : ("BETWEEN " ++ write min ++ " AND " ++ write max).toList =
        "BETWEEN".toList ++
          ' ' :: ((write min).toList ++ ' ' :: ("AND".toList ++ ' ' :: (write max).toList)) := by
      simp
    have hbetween : Text.words "BETWEEN".toList = ["BETWEEN".toList] := by decide
    have hand : Text.words "AND".toList = ["AND".toList] := by decide
    rw [tokensWith, wordsOf_singleton, hsplit, Text.words_append_blank (by decide),
      Text.words_append_blank (by decide), Text.words_append_blank (by decide), hbetween, hand,
      Text.words_of_isWord (h min (by simp [names])), Text.words_of_isWord (h max (by simp [names]))]
    simp [lexemes, Lexeme.textWith, Lexeme.text]
  | member ns negated =>
    have hmarkers : Text.words (", ".intercalate (ns.map write)).toList =
        (markerLexemes ns).map fun l => (l.textWith write).toList := words_markers h
    have hsplit : ("( " ++ ", ".intercalate (ns.map write) ++ " )").toList =
        ['('] ++ ' ' :: ((", ".intercalate (ns.map write)).toList ++ ' ' :: [')']) := by
      simp
    have hopening : Text.words ['('] = [['(']] := by decide
    have hclosing : Text.words [')'] = [[')']] := by decide
    have hin : Text.words (if negated then "NOT IN" else "IN").toList =
        (if negated then [Lexeme.not, .among] else [.among]).map (·.text.toList) := by
      cases negated <;> decide
    rw [tokensWith, wordsOf_cons, wordsOf_singleton, hin, hsplit, Text.words_append_blank (by decide),
      Text.words_append_blank (by decide), hopening, hclosing, hmarkers]
    cases negated <;> simp [lexemes, Lexeme.textWith, Lexeme.text]

mutual

theorem Predicate.words_tokens : ∀ p : Predicate, (∀ n ∈ p.names, Text.IsWord (write n).toList) →
    wordsOf (p.tokensWith write) = p.lexemes.flatMap fun l => Text.words (l.textWith write).toList
  | .comparison c column test, h => by
    have htest := Test.words_tokens (t := test) (by simpa using h)
    have hconnector := Connector.words_token write c
    rw [Predicate.tokensWith, wordsOf_append, wordsOf_cons, Predicate.lexemes, List.flatMap_append,
      List.flatMap_cons, flatMap_words_of_wordsOf_eq hconnector, hconnector, flatMap_words_of_wordsOf_eq htest,
      htest]
    rfl
  | .group c children, h => by
    have hchildren := wordsOf_tokensOfList children (by simpa using h)
    have hconnector := Connector.words_token write c
    rw [Predicate.tokensWith, wordsOf_append, wordsOf_append, wordsOf_cons, Predicate.lexemes,
      List.flatMap_append, List.flatMap_cons, List.flatMap_append, flatMap_words_of_wordsOf_eq hconnector,
      hconnector, hchildren]
    simp [wordsOf_singleton, Lexeme.textWith, Lexeme.text]

/-- The words of the tokens are those of the lexemes. -/
theorem wordsOf_tokensOfList : ∀ ps : List Predicate, (∀ n ∈ namesOf ps, Text.IsWord (write n).toList) →
    wordsOf (tokensOfListWith write ps) = (lexemesOf ps).flatMap fun l => Text.words (l.textWith write).toList
  | [], _ => rfl
  | p :: ps, h => by
    rw [namesOf_cons, List.forall_mem_append] at h
    rw [tokensOfListWith, wordsOf_append, Predicate.words_tokens p h.1, wordsOf_tokensOfList ps h.2,
      lexemesOf, List.flatMap_append]

end

theorem words_renderWith {ps : List Predicate} (h : ∀ n ∈ namesOf ps, Text.IsWord (write n).toList) :
    Text.words (renderWith write ps).toList =
      (lexemesOf ps).flatMap fun l => Text.words (l.textWith write).toList := by
  rw [renderWith, Text.words_normalized, Text.words_intercalate_tokens]
  exact wordsOf_tokensOfList ps h

end

theorem Connector.isTold (c : Connector) : ∀ l ∈ c.lexemes, l.IsTold := by
  cases c <;> simp [lexemes, Lexeme.IsTold]

theorem isTold_markerLexemes {names : List String} (h : ∀ n ∈ names, IsName n) :
    ∀ l ∈ markerLexemes names, l.IsTold := by
  induction names with
  | nil => simp [markerLexemes]
  | cons name names ih =>
    rw [List.forall_mem_cons] at h
    rw [markerLexemes, List.forall_mem_cons]
    exact ⟨h.1, ih h.2⟩

theorem Test.isTold {t : Test} (h : ∀ n ∈ t.names, IsName n) : ∀ l ∈ t.lexemes, l.IsTold := by
  cases t with
  | compare op name => simpa [lexemes, Lexeme.IsTold, names] using h
  | between min max => simpa [lexemes, Lexeme.IsTold, names] using h
  | member ns negated =>
    have hmarkers : ∀ l ∈ markerLexemes ns, l.IsTold := isTold_markerLexemes h
    have hin : ∀ l ∈ (if negated then [Lexeme.not, .among] else [.among]), l.IsTold := by
      cases negated <;> simp [Lexeme.IsTold]
    rw [lexemes, List.forall_mem_append, List.forall_mem_cons, List.forall_mem_append, List.forall_mem_singleton]
    exact ⟨hin, trivial, hmarkers, trivial⟩
  | isNull | notNull | is word | not word => simp [lexemes, Lexeme.IsTold]

mutual

theorem Predicate.isTold : ∀ p : Predicate, (∀ leaf ∈ p.leaves, IsLegible leaf) → ∀ l ∈ p.lexemes, l.IsTold
  | .comparison c column test, h => by
    obtain ⟨hcolumn, hnames⟩ := h (column, test) (by simp [Predicate.leaves])
    rw [Predicate.lexemes, List.forall_mem_append, List.forall_mem_cons]
    exact ⟨c.isTold, hcolumn, Test.isTold hnames⟩
  | .group c children, h => by
    have hchildren := isTold_lexemesOf children (by simpa [Predicate.leaves] using h)
    rw [Predicate.lexemes, List.forall_mem_append, List.forall_mem_cons, List.forall_mem_append,
      List.forall_mem_singleton]
    exact ⟨c.isTold, trivial, hchildren, trivial⟩

theorem isTold_lexemesOf :
    ∀ ps : List Predicate, (∀ leaf ∈ leavesOf ps, IsLegible leaf) → ∀ l ∈ lexemesOf ps, l.IsTold
  | [], _ => by simp [lexemesOf]
  | p :: ps, h => by
    rw [lexemesOf, List.forall_mem_append]
    exact ⟨Predicate.isTold p fun leaf hl => h leaf (by simp [leavesOf, hl]),
      isTold_lexemesOf ps fun leaf hl => h leaf (by simp [leavesOf, hl])⟩

end

/-- **The words of the text are the lexemes**, one for one. -/
theorem words_render {ps : List Predicate} (h : ∀ leaf ∈ leavesOf ps, IsLegible leaf) :
    Text.words (render ps).toList = (lexemesOf ps).map (·.text.toList) := by
  have hnames : ∀ n ∈ namesOf ps, Text.IsWord (marker n).toList := by
    intro n hn
    obtain ⟨leaf, hleaf, hn⟩ := List.mem_flatMap.1 hn
    exact isWord_marker ((h leaf hleaf).2 n hn)
  rw [← renderWith_marker, words_renderWith hnames, List.map_eq_flatMap]
  refine List.flatMap_congr fun l hl => ?_
  rw [l.textWith_marker, Lexeme.words_text (isTold_lexemesOf ps h l hl)]

/-! ## The lexemes of the words -/

/-- Lexemes are read off the words of the text. -/
theorem read_words_render {ps : List Predicate} (h : ∀ leaf ∈ leavesOf ps, IsLegible leaf) :
    (Text.words (render ps).toList).map Lexeme.read = lexemesOf ps := by
  rw [words_render h, List.map_map]
  exact (List.map_congr_left fun l hl => Lexeme.read_text (isTold_lexemesOf ps h l hl)).trans (List.map_id _)

/-- **The text tells the lexemes**, and the lexemes the text. -/
theorem render_eq_iff {ps qs : List Predicate} (hps : ∀ leaf ∈ leavesOf ps, IsLegible leaf)
    (hqs : ∀ leaf ∈ leavesOf qs, IsLegible leaf) : render ps = render qs ↔ lexemesOf ps = lexemesOf qs := by
  constructor
  · intro h
    rw [← read_words_render hps, h, read_words_render hqs]
  · intro h
    have hwords : Text.words (render ps).toList = Text.words (render qs).toList := by
      rw [words_render hps, h, words_render hqs]
    rw [← normalized_render ps, ← normalized_render qs]
    exact Text.normalized_eq_of_words hwords

end ParamQuery.Filter
