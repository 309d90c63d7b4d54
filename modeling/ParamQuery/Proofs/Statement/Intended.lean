/-
Statements of which it is known where markers are meant to be.

A statement that was put together from characters and markers is not
searched for what was put there: markers are found by reading it again, and
that may miss one in a literal that something before it left open, or find
one in what was meant as characters. `bindNumbered_eq_iff`: binding gives
the statement with its markers numbered, and all values, exactly if the
markers that are found are those that were meant.
-/
import ParamQuery.Proofs.Statement.Substitution

namespace ParamQuery

namespace Markers

open Text (isNameChar)

/-- What was meant to be a marker, and nothing else that has a known name, is found as a marker when
the pieces are read as a text, which begins in a literal or not. -/
def AreFound (known : List String) : (q : Bool) → List Piece → Prop
  | _, [] => True
  | q, .char c :: ps =>
    (c = '@' → q = true ∨ .ofList ((ps.flatMap Piece.text).takeWhile isNameChar) ∉ known) ∧
      AreFound known (inLiteralBehind q [c]) ps
  | q, .marker _ :: ps => q = false ∧ AreFound known q ps

/-- Every marker has a name that does not go on behind it. -/
def AreSpelled : List Piece → Prop
  | [] => True
  | .char _ :: ps => AreSpelled ps
  | .marker n :: ps => (∀ c ∈ n, isNameChar c = true) ∧ Ends (ps.flatMap Piece.text) ∧ AreSpelled ps

/-! ## Characters -/

theorem flatMap_text_chars (cs : List Char) : (cs.map Piece.char).flatMap Piece.text = cs := by
  simp [List.flatMap_map, Piece.text]

theorem areSpelled_chars_append (cs : List Char) (ps : List Piece) :
    AreSpelled (cs.map .char ++ ps) ↔ AreSpelled ps := by
  induction cs with
  | nil => rfl
  | cons c cs ih => exact ih

theorem names_chars_append (cs : List Char) (ps : List Piece) : names (cs.map .char ++ ps) = names ps := by
  induction cs with
  | nil => rfl
  | cons c cs ih => exact ih

theorem numbered_chars_append (known seen : List String) (cs : List Char) (ps : List Piece) :
    numbered known seen (cs.map .char ++ ps) =
      (cs ++ (numbered known seen ps).1, (numbered known seen ps).2) := by
  induction cs with
  | nil => rfl
  | cons c cs ih => simp only [List.map_cons, List.cons_append, numbered, ih]

/-! ## Known markers -/

/-- A piece, as characters if it is a marker of a name that is not known. -/
def Piece.settled (known : List String) : Piece → List Piece
  | .char c => [.char c]
  | .marker n => if String.ofList n ∈ known then [.marker n] else ('@' :: n).map .char

section

variable {known : List String}

theorem flatMap_settled_chars (cs : List Char) :
    (cs.map Piece.char).flatMap (Piece.settled known) = cs.map .char := by
  induction cs with
  | nil => rfl
  | cons c cs ih => exact congrArg (Piece.char c :: ·) ih

theorem flatMap_text_settled (ps : List Piece) :
    (ps.flatMap (Piece.settled known)).flatMap Piece.text = ps.flatMap Piece.text := by
  rw [List.flatMap_assoc]
  refine List.flatMap_congr fun p _ => ?_
  cases p with
  | char c => rfl
  | marker n =>
    rw [Piece.settled]
    split
    · simp
    · rw [flatMap_text_chars, Piece.text]

/-- Markers of names that are not known are copied like characters. -/
theorem numbered_settled (seen : List String) (ps : List Piece) :
    numbered known seen (ps.flatMap (Piece.settled known)) = numbered known seen ps := by
  induction ps generalizing seen with
  | nil => rfl
  | cons p ps ih =>
    rw [List.flatMap_cons]
    cases p with
    | char c => simp only [Piece.settled, List.singleton_append, numbered, ih]
    | marker n =>
      rw [Piece.settled]
      split
      · simp only [List.singleton_append, numbered, ih]
      · rename_i hn
        rw [numbered_chars_append, ih, numbered, if_neg hn]

theorem mem_names_settled {ps : List Piece} {n : String} (h : n ∈ names (ps.flatMap (Piece.settled known))) :
    n ∈ known := by
  induction ps with
  | nil => simp [names] at h
  | cons p ps ih =>
    rw [List.flatMap_cons] at h
    cases p with
    | char c => exact ih h
    | marker m =>
      rw [Piece.settled] at h
      split at h
      · rename_i hm
        rcases List.mem_cons.1 h with rfl | h
        · exact hm
        · exact ih h
      · rw [names_chars_append] at h
        exact ih h

theorem areSpelled_settled {ps : List Piece} (h : AreSpelled ps) :
    AreSpelled (ps.flatMap (Piece.settled known)) := by
  induction ps with
  | nil => exact h
  | cons p ps ih =>
    rw [List.flatMap_cons]
    cases p with
    | char c => exact ih h
    | marker n =>
      obtain ⟨hname, hends, hrest⟩ := h
      rw [Piece.settled]
      split
      · refine ⟨hname, ?_, ih hrest⟩
        show Ends ((ps.flatMap (Piece.settled known)).flatMap Piece.text)
        rwa [flatMap_text_settled]
      · rw [areSpelled_chars_append]
        exact ih hrest

/-- What cutting finds is spelled. -/
theorem areSpelled_pieces (q : Bool) (cs : List Char) : AreSpelled (pieces q cs) := by
  fun_induction pieces q cs with
  | case1 => trivial
  | case2 q cs ih => exact ih
  | case3 q c cs hquote hat ih =>
    refine ⟨fun c hc => List.mem_takeWhile_imp hc, ?_, ih⟩
    rw [flatMap_text_pieces]
    intro c hc
    have hfirst := List.head?_dropWhile_not isNameChar cs
    rwa [hc] at hfirst
  | case4 q c cs hquote hat ih => exact ih

/-! ## Markers that are found -/

/-- Between markers, name characters are no more than characters. -/
theorem pieces_eq_name_append (q : Bool) (cs : List Char) :
    pieces q cs = (cs.takeWhile isNameChar).map .char ++ pieces q (cs.dropWhile isNameChar) := by
  induction cs with
  | nil => rfl
  | cons c cs ih =>
    by_cases hc : isNameChar c = true
    · have hquote : c ≠ '\'' := by
        rintro rfl
        exact absurd hc (by decide)
      have hat : ¬ (c = '@' ∧ q = false) := by
        rintro ⟨rfl, -⟩
        exact absurd hc (by decide)
      rw [List.takeWhile_cons_of_pos hc, List.dropWhile_cons_of_pos hc, pieces, if_neg hquote, if_neg hat, ih]
      rfl
    · rw [List.takeWhile_cons_of_neg hc, List.dropWhile_cons_of_neg hc]
      rfl

theorem namesIn_dropWhile (q : Bool) (cs : List Char) : namesIn q (cs.dropWhile isNameChar) = namesIn q cs := by
  rw [namesIn, namesIn, pieces_eq_name_append q cs, names_chars_append]

/-- Of characters it has to be asked which markers are found in them. -/
theorem areFound_chars_append (q : Bool) (cs : List Char) {ps : List Piece}
    (hends : Ends (ps.flatMap Piece.text)) :
    AreFound known q (cs.map .char ++ ps) ↔
      (∀ n ∈ namesIn q cs, n ∉ known) ∧ AreFound known (inLiteralBehind q cs) ps := by
  induction cs generalizing q with
  | nil => simp
  | cons c cs ih =>
    have hrun : ((cs.map Piece.char ++ ps).flatMap Piece.text).takeWhile isNameChar =
        cs.takeWhile isNameChar := by
      rw [List.flatMap_append, flatMap_text_chars, hends.takeWhile_append]
    have hstate : inLiteralBehind q (c :: cs) = inLiteralBehind (inLiteralBehind q [c]) cs :=
      inLiteralBehind_append q [c] cs
    rw [List.map_cons, List.cons_append, AreFound, ih, hrun, hstate, ← and_assoc]
    refine and_congr_left fun _ => ?_
    by_cases hquote : c = '\''
    · subst hquote
      rw [inLiteralBehind_quote, namesIn_quote]
      simp
    · have hsame : inLiteralBehind q [c] = q := inLiteralBehind_of_notMem (by simpa using Ne.symm hquote) q
      rw [hsame]
      by_cases hmarker : c = '@' ∧ q = false
      · obtain ⟨rfl, rfl⟩ := hmarker
        rw [namesIn_at, namesIn_dropWhile, List.forall_mem_cons]
        simp
      · have hinside : c = '@' → q = true := fun hc => by simpa [hc] using hmarker
        rw [namesIn_cons hquote hinside]
        exact ⟨fun h => h.2, fun h => ⟨fun hc => .inl (hinside hc), h⟩⟩

/-- **The known markers that are found are those that were meant**, exactly if reading agrees with
what was meant piece by piece. -/
theorem settled_pieces_eq_iff (q : Bool) {ps : List Piece} (hspelled : AreSpelled ps)
    (hknown : ∀ n ∈ names ps, n ∈ known) :
    (pieces q (ps.flatMap Piece.text)).flatMap (Piece.settled known) = ps ↔ AreFound known q ps := by
  induction ps generalizing q with
  | nil => simp [pieces, AreFound]
  | cons p ps ih =>
    rw [List.flatMap_cons]
    cases p with
    | char c =>
      have hrest := ih (inLiteralBehind q [c]) hspelled hknown
      rw [AreFound, ← hrest]
      by_cases hmarker : c = '@' ∧ q = false
      · -- A marker begins here. It is settled as characters exactly if its name is not known.
        obtain ⟨rfl, rfl⟩ := hmarker
        have hsplit := pieces_eq_name_append false (ps.flatMap Piece.text)
        have hinside : inLiteralBehind false ['@'] = false := by decide
        rw [Piece.text, List.singleton_append, pieces, if_neg (by decide), if_pos (by decide), List.flatMap_cons,
          Piece.settled, hinside, hsplit, List.flatMap_append, flatMap_settled_chars]
        split
        · rename_i hn
          simp [hn]
        · rename_i hn
          simp [hn]
      · have hfirst : (pieces q (Piece.text (.char c) ++ ps.flatMap Piece.text)) =
            .char c :: pieces (inLiteralBehind q [c]) (ps.flatMap Piece.text) := by
          refine pieces_append_of_fits (p := .char c) fun hc => ?_
          simpa [hc] using hmarker
        have hinside : c = '@' → q = true := fun hc => by simpa [hc] using hmarker
        rw [hfirst, List.flatMap_cons, Piece.settled]
        simp only [List.singleton_append, List.cons.injEq, true_and]
        exact ⟨fun h => ⟨fun hc => .inl (hinside hc), h⟩, fun h => h.2⟩
    | marker n =>
      obtain ⟨hname, hends, hrest⟩ := hspelled
      have hn : String.ofList n ∈ known := hknown _ (by simp [names])
      rw [AreFound]
      cases q with
      | false =>
        rw [pieces_append_of_fits (p := .marker n) ⟨rfl, hname, hends⟩, List.flatMap_cons, Piece.settled,
          if_pos hn, Piece.text, inLiteralBehind_marker hname]
        simpa using ih false hrest fun m hm => hknown m (by simp [names, hm])
      | true =>
        rw [Piece.text, List.cons_append, pieces, if_neg (by decide), if_neg (by decide), List.flatMap_cons,
          Piece.settled]
        simp

/-! ## What numbering shows -/

/-- Two texts that begin with a name each, which does not go on, have one name. -/
theorem name_inj {m n a b : List Char} (hm : ∀ c ∈ m, isNameChar c = true) (hn : ∀ c ∈ n, isNameChar c = true)
    (ha : Ends a) (hb : Ends b) (h : m ++ a = n ++ b) : m = n ∧ a = b := by
  have htake := congrArg (List.takeWhile isNameChar) h
  rw [ha.takeWhile_append, hb.takeWhile_append, List.takeWhile_eq_self_iff.2 hm,
    List.takeWhile_eq_self_iff.2 hn] at htake
  subst htake
  exact ⟨rfl, List.append_cancel_left h⟩

/-- Two ways to read one text are the same if they are numbered alike: where they part, one writes `$`
and the other the `@` that is there. -/
theorem eq_of_numbered_eq (seen : List String) {found meant : List Piece} (hfound : AreSpelled found)
    (hmeant : AreSpelled meant) (hknown : ∀ n ∈ names found, n ∈ known)
    (hnodup : (seen ++ names meant).Nodup) (htext : found.flatMap Piece.text = meant.flatMap Piece.text)
    (h : (numbered known seen found).1 = renumbered (seen.length + 1) meant) : found = meant := by
  induction found generalizing seen meant with
  | nil =>
    cases meant with
    | nil => rfl
    | cons p ps => cases p <;> simp [Piece.text] at htext
  | cons p ps ih =>
    cases meant with
    | nil => cases p <;> simp [Piece.text] at htext
    | cons r rs =>
      rw [List.flatMap_cons, List.flatMap_cons] at htext
      cases p with
      | char c =>
        cases r with
        | char d =>
          obtain ⟨rfl, hrest⟩ := List.cons.inj htext
          obtain ⟨-, h⟩ := List.cons.inj h
          have hrs : AreSpelled rs := hmeant
          rw [ih seen hfound hrs hknown hnodup hrest h]
        | marker n =>
          obtain ⟨rfl, -⟩ := List.cons.inj htext
          exact absurd (List.cons.inj h).1 (by decide)
      | marker m =>
        have hm : String.ofList m ∈ known := hknown _ (by simp [names])
        simp only [numbered, if_pos hm] at h
        cases r with
        | char d =>
          obtain ⟨rfl, -⟩ := List.cons.inj htext
          exact absurd (List.cons.inj h).1 (by decide)
        | marker n =>
          obtain ⟨hmname, hmends, hps⟩ := hfound
          obtain ⟨hnname, hnends, hrs⟩ := hmeant
          obtain ⟨-, hbehind⟩ := List.cons.inj htext
          obtain ⟨rfl, hrest⟩ := name_inj hmname hnname hmends hnends hbehind
          -- The name is new, so both give it the next number.
          have hnew : String.ofList m ∉ seen := fun hmem =>
            (List.nodup_append.1 hnodup).2.2 _ hmem _ (by simp [names]) rfl
          have hsee : see seen (.ofList m) = seen ++ [.ofList m] := if_neg hnew
          have hidx : (seen ++ [String.ofList m]).idxOf (.ofList m) = seen.length := by
            rw [List.idxOf_append_of_notMem hnew]
            simp
          rw [hsee, hidx, renumbered] at h
          have hpieces := ih (seen ++ [.ofList m]) hps hrs (fun n hn => hknown n (by simp [names, hn]))
            (by simpa [names] using hnodup) hrest (by simpa using h)
          rw [hpieces]

end

/-- Markers that are numbered as they come have the ranks of their names. -/
theorem renumbered_eq_substituted {ps : List Piece} (hnodup : (names ps).Nodup) :
    renumbered 1 ps = ps.flatMap (Piece.substituted (names ps)) := by
  have hnumbered := numbered_eq [] ps (fun _ h => h) (by simpa using hnodup)
  have hsubstituted : numbered (names ps) [] ps = (ps.flatMap (Piece.substituted _), _) :=
    numbered_eq_substituted [] ps (by simp) rfl
  rw [hnumbered, List.nil_append] at hsubstituted
  obtain ⟨htext, hnames⟩ := Prod.mk.inj hsubstituted
  rw [← hnames] at htext
  exact htext

end Markers

/-! ## Binding -/

open Markers in
/-- **Binding a statement numbers the markers that were meant, and sends all values, exactly if they
are what is found.** -/
theorem bindNumbered_eq_iff {ps : Params} (hnodup : ps.names.Nodup) {meant : List Piece}
    (hspelled : AreSpelled meant) (hnames : names meant = ps.names) :
    bindNumbered (.ofList (meant.flatMap Piece.text)) ps = .ok ⟨.ofList (renumbered 1 meant), ps.values⟩ ↔
      AreFound ps.names false meant := by
  have hknown : ∀ n ∈ names meant, n ∈ ps.names := by simp [hnames]
  rw [← settled_pieces_eq_iff false hspelled hknown, bindNumbered, if_pos hnodup, String.toList_ofList,
    ← numbered_settled]
  have htext : ((pieces false (meant.flatMap Piece.text)).flatMap (Piece.settled ps.names)).flatMap
      Piece.text = meant.flatMap Piece.text := by
    rw [flatMap_text_settled, flatMap_text_pieces]
  constructor
  · intro h
    have hsql := congrArg BoundStatement.sql (Except.ok.inj h)
    refine eq_of_numbered_eq [] (areSpelled_settled (areSpelled_pieces _ _)) hspelled
      (fun n hn => mem_names_settled hn) (by simpa [hnames] using hnodup) htext ?_
    exact String.ofList_injective hsql
  · intro h
    have hnumbered := numbered_eq [] meant hknown (by simpa [hnames] using hnodup)
    rw [h, hnumbered, hnames]
    simp [Params.filterMap_lookup? hnodup]

end ParamQuery
