/-
Columns as the binder sees them.

The text of a filter is its lexemes, with a blank in front of each word, and
its markers are meant to be numbered. Whether they are is up to the columns:
the binder does not know of double quotes, so an apostrophe in a column opens
or closes a literal, and an `@` outside of literals begins a marker, within
double quotes or not. `bind_postgres_eq_iff`: a filter is bound as it was
meant exactly if no column has a marker of a known name in it, and no
literal that the columns left open goes over a marker.
-/
import ParamQuery.Proofs.Construction.Binding
import ParamQuery.Proofs.Filter.Lexemes
import ParamQuery.Proofs.Statement.Intended

namespace ParamQuery.Filter

open Markers (Piece IsName Ends AreFound AreSpelled namesIn inLiteralBehind)

/-! ## Columns -/

/-- A column within double quotes, where those that belong to its name are doubled. -/
def IsQuoted (column : String) : Prop :=
  ∃ name : List Char,
    column.toList = '"' :: (name.flatMap fun c => if c = '"' then ['"', '"'] else [c]) ++ ['"']

/-- Columns are no more than text to the binder, which comes to the first of them in a literal or
not: none of them has a marker of a known name in it, and behind those that are tested against
markers no literal is open. -/
def AreOpaque (known : List String) : (q : Bool) → List (String × Test) → Prop
  | _, [] => True
  | q, (column, test) :: leaves =>
    (∀ n ∈ namesIn q column.toList, n ∉ known) ∧
      (test.names ≠ [] → inLiteralBehind q column.toList = false) ∧
        AreOpaque known (inLiteralBehind q column.toList) leaves

instance decidableAreOpaque (known : List String) :
    (q : Bool) → (leaves : List (String × Test)) → Decidable (AreOpaque known q leaves)
  | _, [] => .isTrue trivial
  | q, (column, _) :: leaves =>
    have := decidableAreOpaque known (inLiteralBehind q column.toList) leaves
    inferInstanceAs (Decidable (_ ∧ _ ∧ _))

/-- Words with blanks between them are words with a blank in front of each, less the first one. -/
theorem intercalate_eq_tail (ws : List (List Char)) :
    [' '].intercalate ws = (ws.flatMap (' ' :: ·)).tail := by
  induction ws with
  | nil => rfl
  | cons w ws ih =>
    cases ws with
    | nil => simp
    | cons v ws =>
      rw [List.intercalate_cons_of_ne_nil (by simp), ih]
      simp

namespace Lexeme

/-! ## Lexemes laid out -/

/-- The pieces that a lexeme is meant to be read as, with a blank in front of each of its words. -/
def pieces : Lexeme → List Piece
  | .marker name comma => .char ' ' :: .marker name.toList :: if comma then [.char ','] else []
  | l => ((Text.words l.text.toList).flatMap (' ' :: ·)).map .char

/-- The name of a marker. -/
def names : Lexeme → List String
  | .marker name _ => [name]
  | _ => []

theorem pieces_eq (l : Lexeme) : l.pieces = [] ∨ ∃ ps, l.pieces = .char ' ' :: ps := by
  have hwords (cs : List Char) : ((Text.words cs).flatMap (' ' :: ·)).map Piece.char = [] ∨
      ∃ ps, ((Text.words cs).flatMap (' ' :: ·)).map Piece.char = .char ' ' :: ps := by
    cases Text.words cs with
    | nil => exact .inl rfl
    | cons w ws => exact .inr ⟨_, rfl⟩
  cases l with
  | marker name comma => exact .inr ⟨_, rfl⟩
  | _ => exact hwords _

/-- Where something is laid out, a blank is in front. -/
theorem flatMap_pieces_eq (ls : List Lexeme) :
    ls.flatMap pieces = [] ∨ ∃ ps, ls.flatMap pieces = .char ' ' :: ps := by
  induction ls with
  | nil => exact .inl rfl
  | cons l ls ih =>
    rw [List.flatMap_cons]
    rcases l.pieces_eq with h | ⟨ps, h⟩
    · rwa [h, List.nil_append]
    · exact .inr ⟨ps ++ ls.flatMap pieces, by rw [h, List.cons_append]⟩

theorem ends_flatMap_pieces (ls : List Lexeme) : Ends ((ls.flatMap pieces).flatMap Piece.text) := by
  rcases flatMap_pieces_eq ls with h | ⟨ps, h⟩
  · rw [h]
    decide
  · rw [h, List.flatMap_cons]
    exact Markers.ends_append (by decide) (by decide) _

/-- Written in one way or another, the pieces of a lexeme are its words in that way. -/
theorem flatMap_pieces {f : Piece → List Char} {write : String → String} (hchar : ∀ c, f (.char c) = [c])
    {l : Lexeme} (hmarker : ∀ n ∈ l.names, f (.marker n.toList) = (write n).toList)
    (hword : ∀ n ∈ l.names, Text.IsWord (write n).toList) :
    l.pieces.flatMap f = (Text.words (l.textWith write).toList).flatMap (' ' :: ·) := by
  have hchars (cs : List Char) : (cs.map Piece.char).flatMap f = cs := by
    simp [List.flatMap_map, hchar]
  cases l with
  | marker name comma =>
    have htext : (textWith write (.marker name comma)).toList =
        (write name).toList ++ if comma then [','] else [] := by
      cases comma <;> simp [textWith]
    have hwhole := isWord_append_comma (hword name (by simp [names])) comma
    rw [htext, Text.words_of_isWord hwhole, pieces, List.flatMap_cons, List.flatMap_cons, hchar,
      hmarker name (by simp [names])]
    cases comma <;> simp [hchar]
  | _ => exact hchars _

/-! ## Lexemes that are found -/

/-- Reading a lexeme, in a literal or not, finds in it what it was meant to be. -/
def IsClear (known : List String) (q : Bool) : Lexeme → Prop
  | .marker _ _ => q = false
  | l => ∀ n ∈ namesIn q l.text.toList, n ∉ known

/-- Whether what follows a lexeme is in a literal, if the lexeme is or not. -/
def state (q : Bool) : Lexeme → Bool
  | .marker _ _ => q
  | l => inLiteralBehind q l.text.toList

/-- Reading lexemes finds in them what they were meant to be. -/
def AreClear (known : List String) : (q : Bool) → List Lexeme → Prop
  | _, [] => True
  | q, l :: ls => l.IsClear known q ∧ AreClear known (l.state q) ls

theorem namesIn_flatMap_words (q : Bool) (cs : List Char) :
    namesIn q ((Text.words cs).flatMap (' ' :: ·)) = namesIn q cs := by
  have hends : Ends [] := by decide
  have hnormal := (Markers.namesIn_normalize_append hends q cs).1
  rw [List.append_nil, List.append_nil] at hnormal
  rw [← hnormal, Text.normalize, intercalate_eq_tail]
  cases Text.words cs with
  | nil => rfl
  | cons w ws => exact Markers.namesIn_blank (by decide) q _

theorem inLiteralBehind_flatMap_words (q : Bool) (cs : List Char) :
    inLiteralBehind q ((Text.words cs).flatMap (' ' :: ·)) = inLiteralBehind q cs := by
  have hcount (ws : List (List Char)) : (ws.flatMap (' ' :: ·)).count '\'' = ws.flatten.count '\'' := by
    simp [List.count_flatMap, List.count_flatten, Function.comp_def]
  rw [inLiteralBehind, inLiteralBehind, hcount, Text.flatten_words, List.count_filter (by decide)]

section

variable {known : List String}

theorem areFound_words_append (q : Bool) (cs : List Char) {ps : List Piece}
    (hends : Ends (ps.flatMap Piece.text)) :
    AreFound known q (((Text.words cs).flatMap (' ' :: ·)).map .char ++ ps) ↔
      (∀ n ∈ namesIn q cs, n ∉ known) ∧ AreFound known (inLiteralBehind q cs) ps := by
  rw [Markers.areFound_chars_append q _ hends, namesIn_flatMap_words, inLiteralBehind_flatMap_words]

theorem areFound_pieces_append (q : Bool) (l : Lexeme) {ps : List Piece}
    (hends : Ends (ps.flatMap Piece.text)) :
    AreFound known q (l.pieces ++ ps) ↔ l.IsClear known q ∧ AreFound known (l.state q) ps := by
  have hinert (c : Char) (hc : c ≠ '@') (hq : inLiteralBehind q [c] = q) (rest : List Piece) :
      AreFound known q (.char c :: rest) ↔ AreFound known q rest := by
    simp [AreFound, hc, hq]
  cases l with
  | marker name comma =>
    -- Neither the blank in front nor the comma behind begins anything.
    have hblank := hinert ' ' (by decide) (Markers.inLiteralBehind_of_notMem (by decide) q)
    have hcomma := hinert ',' (by decide) (Markers.inLiteralBehind_of_notMem (by decide) q)
    rw [pieces, List.cons_append, List.cons_append, hblank, AreFound]
    cases comma with
    | false => rfl
    | true => exact and_congr_right fun _ => hcomma ps
  | _ => exact areFound_words_append q _ hends

theorem areFound_flatMap_pieces (q : Bool) (ls : List Lexeme) :
    AreFound known q (ls.flatMap pieces) ↔ AreClear known q ls := by
  induction ls generalizing q with
  | nil => rfl
  | cons l ls ih => rw [List.flatMap_cons, areFound_pieces_append q l (ends_flatMap_pieces ls), ih, AreClear]

theorem areSpelled_flatMap_pieces {ls : List Lexeme} (h : ∀ n ∈ ls.flatMap names, IsName n) :
    AreSpelled (ls.flatMap pieces) := by
  induction ls with
  | nil => trivial
  | cons l ls ih =>
    rw [List.flatMap_cons, List.forall_mem_append] at h
    have hrest := ih h.2
    have hends := ends_flatMap_pieces ls
    rw [List.flatMap_cons]
    cases l with
    | marker name comma =>
      have hname : IsName name := h.1 name (by simp [names])
      cases comma with
      | false => exact ⟨hname, hends, hrest⟩
      | true => exact ⟨hname, Markers.ends_append (a := [',']) (by decide) (by decide) _, hrest⟩
    | _ => exact (Markers.areSpelled_chars_append _ _).2 hrest

theorem names_flatMap_pieces (ls : List Lexeme) : Markers.names (ls.flatMap pieces) = ls.flatMap names := by
  induction ls with
  | nil => rfl
  | cons l ls ih =>
    rw [List.flatMap_cons, List.flatMap_cons, ← ih]
    cases l with
    | marker name comma => cases comma <;> simp [pieces, names, Markers.names]
    | _ => exact Markers.names_chars_append _ _

/-! ## Words of the grammar -/

/-- A lexeme that the filter was given: a marker or a column. -/
def isGiven : Lexeme → Bool
  | .marker _ _ | .column _ => true
  | _ => false

theorem mem_fixed_of_not_isGiven {l : Lexeme} (h : l.isGiven = false) : l ∈ fixed := by
  rcases l.mem_fixed with hfixed | ⟨name, comma, rfl⟩ | ⟨name, rfl⟩
  · exact hfixed
  · cases h
  · cases h

theorem names_of_not_isGiven {l : Lexeme} (h : l.isGiven = false) : l.names = [] := by
  cases l with
  | marker name comma => cases h
  | _ => rfl

theorem namesIn_of_mem_fixed : ∀ l ∈ fixed, ∀ q,
    namesIn q l.text.toList = [] ∧ inLiteralBehind q l.text.toList = q := by
  decide +kernel

/-- The words of the grammar are always clear, and leave a literal as it is. -/
theorem isClear_of_not_isGiven {l : Lexeme} (h : l.isGiven = false) (q : Bool) :
    l.IsClear known q ∧ l.state q = q := by
  obtain ⟨hnone, hsame⟩ := namesIn_of_mem_fixed l (mem_fixed_of_not_isGiven h) q
  cases l with
  | marker name comma => cases h
  | _ => exact ⟨fun n hn => absurd hn (by rw [hnone]; simp), hsame⟩

/-- So only what was given decides whether lexemes are clear. -/
theorem areClear_filter (q : Bool) (ls : List Lexeme) :
    AreClear known q (ls.filter isGiven) ↔ AreClear known q ls := by
  induction ls generalizing q with
  | nil => rfl
  | cons l ls ih =>
    by_cases hl : l.isGiven = true
    · rw [List.filter_cons_of_pos hl, AreClear, AreClear, ih]
    · obtain ⟨hclear, hsame⟩ : l.IsClear known q ∧ l.state q = q :=
        isClear_of_not_isGiven (by simpa using hl) q
      rw [List.filter_cons_of_neg hl, AreClear, hsame, ih]
      simp [hclear]

theorem flatMap_names_filter (ls : List Lexeme) : (ls.filter isGiven).flatMap names = ls.flatMap names := by
  induction ls with
  | nil => rfl
  | cons l ls ih =>
    by_cases hl : l.isGiven = true
    · rw [List.filter_cons_of_pos hl, List.flatMap_cons, List.flatMap_cons, ih]
    · rw [List.filter_cons_of_neg hl, List.flatMap_cons, names_of_not_isGiven (by simpa using hl), ih,
        List.nil_append]

end

end Lexeme

open Lexeme (AreClear)

/-! ## Leaves -/

theorem Connector.filter_lexemes (c : Connector) : c.lexemes.filter Lexeme.isGiven = [] := by
  cases c <;> rfl

mutual

theorem Predicate.filter_lexemes : ∀ p : Predicate, p.lexemes.filter Lexeme.isGiven =
    p.leaves.flatMap fun leaf => .column leaf.1 :: leaf.2.lexemes.filter Lexeme.isGiven
  | .comparison c column test => by
    rw [Predicate.lexemes, List.filter_append, c.filter_lexemes, List.filter_cons_of_pos rfl, Predicate.leaves,
      List.flatMap_singleton, List.nil_append]
  | .group c children => by
    rw [Predicate.lexemes, List.filter_append, c.filter_lexemes, List.filter_cons_of_neg (by decide),
      List.filter_append, filter_lexemesOf children, List.filter_cons_of_neg (by decide), List.filter_nil,
      List.append_nil, List.nil_append, Predicate.leaves]

/-- What a filter was given is its leaves, in order. -/
theorem filter_lexemesOf : ∀ ps : List Predicate, (lexemesOf ps).filter Lexeme.isGiven =
    (leavesOf ps).flatMap fun leaf => .column leaf.1 :: leaf.2.lexemes.filter Lexeme.isGiven
  | [] => rfl
  | p :: ps => by
    rw [lexemesOf, List.filter_append, p.filter_lexemes, filter_lexemesOf ps, leavesOf, List.flatMap_append]

end

theorem flatMap_names_markerLexemes (ns : List String) : (markerLexemes ns).flatMap Lexeme.names = ns := by
  induction ns with
  | nil => rfl
  | cons n ns ih => rw [markerLexemes, List.flatMap_cons, ih, Lexeme.names, List.singleton_append]

theorem Test.flatMap_names_lexemes (t : Test) : t.lexemes.flatMap Lexeme.names = t.names := by
  cases t with
  | member ns negated =>
    rw [lexemes, List.flatMap_append, List.flatMap_cons, List.flatMap_append, flatMap_names_markerLexemes]
    cases negated <;> simp [Lexeme.names, names]
  | _ => rfl

theorem flatMap_names_lexemesOf (ps : List Predicate) : (lexemesOf ps).flatMap Lexeme.names = namesOf ps := by
  rw [← Lexeme.flatMap_names_filter, filter_lexemesOf, List.flatMap_assoc, namesOf]
  refine List.flatMap_congr fun leaf _ => ?_
  rw [List.flatMap_cons, Lexeme.flatMap_names_filter, leaf.2.flatMap_names_lexemes]
  rfl

theorem eq_marker_of_mem_markerLexemes {ns : List String} {l : Lexeme} (h : l ∈ markerLexemes ns) :
    ∃ name comma, l = .marker name comma := by
  induction ns with
  | nil => simp [markerLexemes] at h
  | cons n ns ih =>
    rw [markerLexemes, List.mem_cons] at h
    exact h.elim (fun h => ⟨_, _, h⟩) ih

/-- A test was given markers and nothing else. -/
theorem Test.eq_marker_of_mem_filter {t : Test} {l : Lexeme} (h : l ∈ t.lexemes.filter Lexeme.isGiven) :
    ∃ name comma, l = .marker name comma := by
  cases t with
  | compare op name => exact ⟨name, false, List.mem_singleton.1 h⟩
  | between min max =>
    rcases List.mem_pair.1 h with rfl | rfl
    · exact ⟨min, false, rfl⟩
    · exact ⟨max, false, rfl⟩
  | member ns negated =>
    obtain ⟨hl, hgiven⟩ := List.mem_filter.1 h
    have hin : ∀ l ∈ (if negated then [Lexeme.not, .among] else [.among]), l.isGiven = false := by
      cases negated <;> simp [Lexeme.isGiven]
    rw [lexemes, List.mem_append, List.mem_cons, List.mem_append, List.mem_singleton] at hl
    rcases hl with hl | rfl | hl | rfl
    · rw [hin l hl] at hgiven
      cases hgiven
    · cases hgiven
    · exact eq_marker_of_mem_markerLexemes hl
    · cases hgiven
  | isNull | notNull | is word | not word => cases h

section

variable {known : List String}

/-- Markers are clear where no literal is open. -/
theorem areClear_markers_append {q : Bool} {ls : List Lexeme}
    (h : ∀ l ∈ ls, ∃ name comma, l = .marker name comma) (rest : List Lexeme) :
    AreClear known q (ls ++ rest) ↔ (ls.flatMap Lexeme.names ≠ [] → q = false) ∧ AreClear known q rest := by
  induction ls with
  | nil => simp
  | cons l ls ih =>
    rw [List.forall_mem_cons] at h
    obtain ⟨⟨name, comma, rfl⟩, hls⟩ := h
    rw [List.cons_append, AreClear, Lexeme.IsClear, Lexeme.state, ih hls]
    simp +contextual [Lexeme.names, ← and_assoc]

theorem areClear_lexemesOf (q : Bool) (ps : List Predicate) :
    AreClear known q (lexemesOf ps) ↔ AreOpaque known q (leavesOf ps) := by
  -- Without the words of the grammar nothing is left of the tree but its leaves.
  rw [← Lexeme.areClear_filter, filter_lexemesOf]
  induction leavesOf ps generalizing q with
  | nil => rfl
  | cons leaf leaves ih =>
    obtain ⟨column, test⟩ := leaf
    have hmarkers : ∀ l ∈ test.lexemes.filter Lexeme.isGiven, ∃ name comma, l = .marker name comma :=
      fun l => Test.eq_marker_of_mem_filter
    have hstate : Lexeme.state q (.column column) = inLiteralBehind q column.toList := rfl
    rw [List.flatMap_cons, List.cons_append, AreClear, hstate, areClear_markers_append hmarkers,
      Lexeme.flatMap_names_filter, Test.flatMap_names_lexemes, ih]
    rfl

end

/-! ## What is meant -/

/-- The pieces that the text of predicates is meant to be read as. -/
def meant (ps : List Predicate) : List Piece := ((lexemesOf ps).flatMap Lexeme.pieces).tail

/-- The first blank counts for nothing. -/
theorem meant_eq (ps : List Predicate) :
    (lexemesOf ps).flatMap Lexeme.pieces = [] ∧ meant ps = [] ∨
      (lexemesOf ps).flatMap Lexeme.pieces = .char ' ' :: meant ps := by
  rcases Lexeme.flatMap_pieces_eq (lexemesOf ps) with h | ⟨qs, h⟩
  · exact .inl ⟨h, by rw [meant, h, List.tail_nil]⟩
  · exact .inr (by rw [meant, h, List.tail_cons])

theorem names_meant (ps : List Predicate) : Markers.names (meant ps) = namesOf ps := by
  rw [← flatMap_names_lexemesOf, ← Lexeme.names_flatMap_pieces]
  rcases meant_eq ps with ⟨h, hnil⟩ | h
  · rw [h, hnil]
  · rw [h, Markers.names]

theorem areSpelled_meant {ps : List Predicate} (h : ∀ n ∈ namesOf ps, IsName n) : AreSpelled (meant ps) := by
  have hspelled : AreSpelled ((lexemesOf ps).flatMap Lexeme.pieces) := by
    refine Lexeme.areSpelled_flatMap_pieces ?_
    rwa [flatMap_names_lexemesOf]
  rcases meant_eq ps with ⟨-, hnil⟩ | heq
  · rw [hnil]
    trivial
  · rwa [heq] at hspelled

theorem areFound_meant {known : List String} (ps : List Predicate) :
    AreFound known false (meant ps) ↔ AreOpaque known false (leavesOf ps) := by
  rw [← areClear_lexemesOf, ← Lexeme.areFound_flatMap_pieces]
  rcases meant_eq ps with ⟨h, hnil⟩ | h
  · rw [h, hnil]
  · have hsame : inLiteralBehind false [' '] = false := by decide
    rw [h, AreFound, hsame]
    simp

/-- Written in one way or another, what is meant is the text with its markers in that way. -/
theorem flatMap_meant {ps : List Predicate} {f : Piece → List Char} {write : String → String}
    (hchar : ∀ c, f (.char c) = [c]) (hmarker : ∀ n ∈ namesOf ps, f (.marker n.toList) = (write n).toList)
    (hword : ∀ n ∈ namesOf ps, Text.IsWord (write n).toList) :
    (meant ps).flatMap f = (renderWith write ps).toList := by
  have htail : (meant ps).flatMap f = (((lexemesOf ps).flatMap Lexeme.pieces).flatMap f).tail := by
    rcases meant_eq ps with ⟨h, hnil⟩ | h
    · rw [h, hnil]
      rfl
    · rw [h, List.flatMap_cons, hchar, List.singleton_append, List.tail_cons]
  have hpieces : ((lexemesOf ps).flatMap Lexeme.pieces).flatMap f =
      (Text.words (renderWith write ps).toList).flatMap (' ' :: ·) := by
    rw [words_renderWith hword, List.flatMap_assoc, List.flatMap_assoc]
    refine List.flatMap_congr fun l hl => ?_
    have hnames : ∀ n ∈ l.names, n ∈ namesOf ps := by
      intro n hn
      rw [← flatMap_names_lexemesOf]
      exact List.mem_flatMap.2 ⟨l, hl, hn⟩
    exact Lexeme.flatMap_pieces hchar (fun n hn => hmarker n (hnames n hn)) fun n hn => hword n (hnames n hn)
  rw [htail, hpieces, ← intercalate_eq_tail, ← Text.normalize, renderWith, Text.normalized,
    String.toList_ofList, Text.normalize_normalize]

end ParamQuery.Filter

namespace ParamQuery

open Markers (IsName)

/-- The marker of a parameter in a statement that is bound: its place among the names. -/
def Params.ordinal (ps : Params) (name : String) : String := "$" ++ Number.natText (ps.names.idxOf name + 1)

theorem Params.isWord_ordinal (ps : Params) (name : String) : Text.IsWord (ps.ordinal name).toList := by
  have hdollar : Text.isBlank '$' = false := by decide
  have hlead : "$".toList = ['$'] := rfl
  rw [ordinal, String.toList_append, hlead]
  refine ⟨by simp, List.forall_mem_append.2 ⟨List.forall_mem_singleton.2 hdollar, fun c hc => ?_⟩⟩
  exact Markers.isBlank_of_isNameChar (isName_natText _ c hc)

namespace Filter

/-- **Predicates are bound as they were meant exactly if their columns are opaque.** -/
theorem bind_render_eq_iff {preds : List Predicate} {ps : Params} (hnames : namesOf preds = ps.names)
    (hnodup : ps.names.Nodup) (hname : ∀ n ∈ ps.names, IsName n) :
    Dialect.postgres.bind (render preds) ps = .ok ⟨renderWith ps.ordinal preds, ps.values⟩ ↔
      AreOpaque ps.names false (leavesOf preds) := by
  have htext : (meant preds).flatMap Markers.Piece.text = (render preds).toList := by
    rw [← renderWith_marker]
    refine flatMap_meant (fun c => rfl) (fun n _ => by simp [Markers.Piece.text, marker]) fun n hn => ?_
    exact isWord_marker (hname n (hnames ▸ hn))
  have hordinals : Markers.renumbered 1 (meant preds) = (renderWith ps.ordinal preds).toList := by
    rw [Markers.renumbered_eq_substituted (by rwa [names_meant, hnames]), names_meant, hnames]
    refine flatMap_meant (fun c => rfl) (fun n hn => ?_) fun n _ => ps.isWord_ordinal n
    rw [hnames] at hn
    simp [Markers.Piece.substituted, hn, Params.ordinal, Number.natText]
  have hbound := bindNumbered_eq_iff hnodup (areSpelled_meant (hnames ▸ hname)) (by rw [names_meant, hnames])
  rw [htext, hordinals, String.ofList_toList, String.ofList_toList, areFound_meant] at hbound
  exact hbound

/-- **A filter is bound as it was meant exactly if its columns are opaque.** If the names of its
parameters are apart, then its statement has `$1`, `$2` and so on for its markers and all else as it
was, and all its values are sent with it, exactly if no column, within double quotes or not, opens a
literal over a marker or has a marker of one of these names in it. -/
theorem bind_postgres_eq_iff (script : List Step) :
    let f := empty.run script
    f.params.names.Nodup →
      (Dialect.postgres.bind f.text f.params =
          .ok ⟨renderWith f.params.ordinal f.predicates, f.params.values⟩ ↔
        AreOpaque f.params.names false (leavesOf f.predicates)) := by
  intro f hnodup
  have hf : f = ⟨predicatesOf .clause 0 (outline script), Slots.number 0 (slotsOf (outline script))⟩ :=
    empty_run_eq script
  have hnames : namesOf f.predicates = f.params.names := by rw [hf, namesOf_predicatesOf]
  have hname : ∀ n ∈ f.params.names, IsName n := by
    rw [hf]
    exact (hasNames_slotsOf _).number 0
  exact bind_render_eq_iff hnames hnodup hname

/-- A pair of apostrophes between double quotes, before a column without quotes. -/
theorem bind_postgres_paired :
    let f := empty.run
      [.test .none "\"it''s\"" (.compare .equal (.int 1)), .test .and "b" (.between (.int 2) (.int 3))]
    IsQuoted "\"it''s\"" ∧ f.params.names.Nodup ∧
      Dialect.postgres.bind f.text f.params =
        .ok ⟨"WHERE \"it''s\" = $1 AND b BETWEEN $2 AND $3", [.int 1, .int 2, .int 3]⟩ := by
  intro f
  have hnodup : f.params.names.Nodup := by decide
  have hopaque : AreOpaque f.params.names false (leavesOf f.predicates) := by decide +kernel
  have hmeant :
      renderWith f.params.ordinal f.predicates = "WHERE \"it''s\" = $1 AND b BETWEEN $2 AND $3" := by
    decide +kernel
  refine ⟨⟨"it''s".toList, by decide⟩, hnodup, ?_⟩
  rw [← hmeant]
  exact (bind_postgres_eq_iff _ hnodup).2 hopaque

/-- A single apostrophe between double quotes leaves a literal open, over the marker behind it. -/
theorem bind_postgres_unpaired :
    let f := empty.run [.test .none "\"O'Brien\"" (.compare .equal (.int 1))]
    IsQuoted "\"O'Brien\"" ∧ f.params.names.Nodup ∧
      Dialect.postgres.bind f.text f.params = .ok ⟨"WHERE \"O'Brien\" = @OBrien0", []⟩ ∧
      renderWith f.params.ordinal f.predicates = "WHERE \"O'Brien\" = $1" ∧ f.params.values = [.int 1] := by
  intro f
  have htext : f.text = "WHERE \"O'Brien\" = @OBrien0" := by decide +kernel
  have hnodup : f.params.names.Nodup := by decide
  have hnumbered :
      Markers.numbered f.params.names [] (Markers.pieces false "WHERE \"O'Brien\" = @OBrien0".toList) =
        ("WHERE \"O'Brien\" = @OBrien0".toList, []) := by
    decide +kernel
  refine ⟨⟨"O'Brien".toList, by decide⟩, hnodup, ?_, by decide +kernel, rfl⟩
  rw [Dialect.bind, bindNumbered, if_pos hnodup, htext, hnumbered]
  rfl

end Filter

end ParamQuery
