/-
Binding by number, for any text and any parameters, as a substitution.

A text is cut into characters and markers in one way only (`isCut_iff`):
nothing is lost, a marker stands outside of literals and takes the longest
run of name characters, and an `@` that is no marker stands in a literal. A
marker of a known name becomes the rank of its name by first appearance
(`numbered_eq_substituted`); everything else is copied.

`bind_postgres_eq_substituted`: that is what binding does, unless two
parameters share a name.
-/
import ParamQuery.Proofs.Statement.Binding

namespace ParamQuery

namespace Markers

open Text (isNameChar)

/-! ## The cut of a text -/

/-- Whether what follows a text is in a literal, if the text begins in one or not. -/
def inLiteralBehind (q : Bool) (cs : List Char) : Bool := q != decide (cs.count '\'' % 2 = 1)

/-- A cut of a text, which begins in a literal or not, into characters and markers. -/
structure IsCut (q : Bool) (cs : List Char) (ps : List Piece) : Prop where
  /-- The pieces are the text. -/
  text : ps.flatMap Piece.text = cs
  /-- A marker stands outside of literals. Its name is a run of name characters, which does not go
  on behind it. -/
  marker : ∀ a n b, ps = a ++ .marker n :: b →
    inLiteralBehind q (a.flatMap Piece.text) = false ∧ (∀ c ∈ n, isNameChar c = true) ∧
      Ends (b.flatMap Piece.text)
  /-- An `@` that begins no marker stands in a literal. -/
  char : ∀ a b, ps = a ++ .char '@' :: b → inLiteralBehind q (a.flatMap Piece.text) = true

/-- Whether a piece can begin a text that goes on with `rest`, in a literal or not. -/
def Piece.Fits (q : Bool) (rest : List Char) : Piece → Prop
  | .char c => c = '@' → q = true
  | .marker n => q = false ∧ (∀ c ∈ n, isNameChar c = true) ∧ Ends rest

@[simp] theorem inLiteralBehind_nil (q : Bool) : inLiteralBehind q [] = q := by simp [inLiteralBehind]

theorem inLiteralBehind_append (q : Bool) (a b : List Char) :
    inLiteralBehind q (a ++ b) = inLiteralBehind (inLiteralBehind q a) b := by
  simp only [inLiteralBehind, List.count_append]
  rcases Nat.mod_two_eq_zero_or_one (a.count '\'') with ha | ha <;>
    rcases Nat.mod_two_eq_zero_or_one (b.count '\'') with hb | hb <;> simp [Nat.add_mod, ha, hb]

theorem inLiteralBehind_of_notMem {w : List Char} (h : '\'' ∉ w) (q : Bool) : inLiteralBehind q w = q := by
  simp [inLiteralBehind, List.count_eq_zero_of_not_mem h]

theorem inLiteralBehind_quote (q : Bool) : inLiteralBehind q ['\''] = !q := by
  cases q <;> simp [inLiteralBehind]

theorem inLiteralBehind_marker {n : List Char} (h : ∀ c ∈ n, isNameChar c = true) (q : Bool) :
    inLiteralBehind q ('@' :: n) = q := by
  refine inLiteralBehind_of_notMem ?_ q
  rw [List.mem_cons, not_or]
  exact ⟨by decide, fun hq => absurd (h _ hq) (by decide)⟩

theorem isCut_nil_iff {q : Bool} {cs : List Char} : IsCut q cs [] ↔ cs = [] :=
  ⟨fun h => h.text.symm, fun h => ⟨h.symm, by simp, by simp⟩⟩

/-- A cut is a piece that fits in front of the cut of the rest. -/
theorem isCut_cons_iff {q : Bool} {cs : List Char} {p : Piece} {ps : List Piece} :
    IsCut q cs (p :: ps) ↔
      cs = p.text ++ ps.flatMap Piece.text ∧ p.Fits q (ps.flatMap Piece.text) ∧
        IsCut (inLiteralBehind q p.text) (ps.flatMap Piece.text) ps := by
  have hlater (a : List Piece) : inLiteralBehind q ((p :: a).flatMap Piece.text) =
      inLiteralBehind (inLiteralBehind q p.text) (a.flatMap Piece.text) := by
    rw [List.flatMap_cons, inLiteralBehind_append]
  constructor
  · intro h
    have hmarker (n : List Char) := forall_split_cons.1 fun a b => h.marker a n b
    have hchar := forall_split_cons.1 h.char
    refine ⟨by rw [← h.text, List.flatMap_cons], ?_, rfl, fun a n b hab => ?_, fun a b hab => ?_⟩
    · cases p with
      | char c =>
        rintro rfl
        simpa using hchar.1 rfl
      | marker n => simpa [Piece.Fits] using (hmarker n).1 rfl
    · rw [← hlater]
      exact (hmarker n).2 a b hab
    · rw [← hlater]
      exact hchar.2 a b hab
  · rintro ⟨htext, hfits, hrest⟩
    refine ⟨htext.symm, forall_comm.1 fun n => forall_split_cons.2 ⟨?_, fun a b hab => ?_⟩,
      forall_split_cons.2 ⟨?_, fun a b hab => ?_⟩⟩
    · rintro rfl
      simpa [Piece.Fits] using hfits
    · rw [hlater]
      exact hrest.marker a n b hab
    · rintro rfl
      simpa using hfits rfl
    · rw [hlater]
      exact hrest.char a b hab

/-- What cutting gives is a cut. -/
theorem isCut_pieces (q : Bool) (cs : List Char) : IsCut q cs (pieces q cs) := by
  fun_induction pieces q cs with
  | case1 => exact isCut_nil_iff.2 rfl
  | case2 q cs ih =>
    rw [isCut_cons_iff, flatMap_text_pieces]
    refine ⟨rfl, fun h => absurd h (by decide), ?_⟩
    rwa [Piece.text, inLiteralBehind_quote]
  | case3 q c cs hquote hat ih =>
    obtain ⟨rfl, rfl⟩ := hat
    have hname : ∀ c ∈ cs.takeWhile isNameChar, isNameChar c = true := fun c hc => List.mem_takeWhile_imp hc
    rw [isCut_cons_iff, flatMap_text_pieces]
    refine ⟨by simp [Piece.text], ⟨rfl, hname, ?_⟩, ?_⟩
    · intro c hc
      have hfirst := List.head?_dropWhile_not isNameChar cs
      rwa [hc] at hfirst
    · rwa [Piece.text, inLiteralBehind_marker hname]
  | case4 q c cs hquote hat ih =>
    rw [isCut_cons_iff, flatMap_text_pieces]
    refine ⟨rfl, fun h => by simpa [h] using hat, ?_⟩
    rwa [Piece.text, inLiteralBehind_of_notMem (by simpa using Ne.symm hquote)]

theorem pieces_append_of_fits {p : Piece} {q : Bool} {rest : List Char} (h : p.Fits q rest) :
    pieces q (p.text ++ rest) = p :: pieces (inLiteralBehind q p.text) rest := by
  cases p with
  | char c =>
    rw [Piece.text, List.singleton_append, pieces]
    by_cases hquote : c = '\''
    · rw [if_pos hquote, hquote, inLiteralBehind_quote]
    · have hat : ¬ (c = '@' ∧ q = false) := by
        rintro ⟨hc, hq⟩
        simp [h hc] at hq
      rw [if_neg hquote, if_neg hat, inLiteralBehind_of_notMem (by simpa using Ne.symm hquote)]
  | marker n =>
    obtain ⟨rfl, hname, hends⟩ := h
    have htake : (n ++ rest).takeWhile isNameChar = n := by
      rw [hends.takeWhile_append, List.takeWhile_eq_self_iff.2 hname]
    have hdrop : (n ++ rest).dropWhile isNameChar = rest := by
      rw [hends.dropWhile_append, List.dropWhile_eq_nil_iff.2 hname, List.nil_append]
    rw [Piece.text, inLiteralBehind_marker hname, List.cons_append, pieces, if_neg (by decide),
      if_pos (by decide), htake, hdrop]

/-- **A text has one cut**, and that is what cutting gives. -/
theorem isCut_iff {q : Bool} {cs : List Char} {ps : List Piece} : IsCut q cs ps ↔ ps = pieces q cs := by
  constructor
  · intro h
    induction ps generalizing q cs with
    | nil => rw [isCut_nil_iff.1 h, pieces]
    | cons p ps ih =>
      obtain ⟨rfl, hfits, hrest⟩ := isCut_cons_iff.1 h
      rw [pieces_append_of_fits hfits, ← ih hrest]
  · rintro rfl
    exact isCut_pieces q cs

/-! ## Ranks by first appearance -/

/-- The known names that markers among the pieces carry, in the order of their first appearance. -/
def appearing (known : List String) (ps : List Piece) : List String :=
  ((names ps).filter (· ∈ known)).eraseDups

/-- A piece with its marker substituted, if its name is among those that are sent: by `$` and the
rank of the name. -/
def Piece.substituted (sent : List String) : Piece → List Char
  | .char c => [c]
  | .marker n =>
    if String.ofList n ∈ sent then '$' :: Number.digits (sent.idxOf (String.ofList n) + 1) else '@' :: n

theorem mem_see {seen : List String} {m n : String} : m ∈ see seen n ↔ m ∈ seen ∨ m = n := by
  unfold see
  split <;> simp_all

/-- Seeing names one after the other keeps each where it appeared first. -/
theorem foldl_see (seen l : List String) :
    l.foldl see seen = seen ++ (l.filter (· ∉ seen)).eraseDups := by
  induction l generalizing seen with
  | nil => simp
  | cons a l ih =>
    rw [List.foldl_cons, ih, see]
    by_cases ha : a ∈ seen
    · simp [ha]
    · have hrest : l.filter (· ∉ seen ++ [a]) = (l.filter (· ∉ seen)).filter (fun b => !b == a) := by
        rw [List.filter_filter]
        refine List.filter_congr fun b _ => ?_
        by_cases hb : b = a <;> simp [hb]
      rw [if_neg ha, hrest, List.filter_cons_of_pos (by simpa using ha), List.eraseDups_cons]
      simp

theorem mem_foldl_see {seen l : List String} {n : String} : n ∈ l.foldl see seen ↔ n ∈ seen ∨ n ∈ l := by
  by_cases hn : n ∈ seen <;> simp [foldl_see, List.mem_eraseDups, hn]

/-- A name that was seen keeps its rank. -/
theorem idxOf_foldl_see {seen : List String} {n : String} (h : n ∈ seen) (l : List String) :
    (l.foldl see seen).idxOf n = seen.idxOf n := by
  rw [foldl_see, List.idxOf_append_of_mem h]

/-- **Numbering substitutes**: each known name by its rank among those that appear. -/
theorem numbered_eq_substituted {known : List String} (seen : List String) (ps : List Piece)
    (hseen : ∀ n ∈ seen, n ∈ known) {sent : List String}
    (hsent : ((names ps).filter (· ∈ known)).foldl see seen = sent) :
    numbered known seen ps = (ps.flatMap (Piece.substituted sent), sent) := by
  induction ps generalizing seen with
  | nil =>
    subst hsent
    rfl
  | cons p ps ih =>
    cases p with
    | char c =>
      rw [numbered, ih seen hseen hsent]
      rfl
    | marker n =>
      rw [names] at hsent
      by_cases hn : String.ofList n ∈ known
      · rw [List.filter_cons_of_pos (by simpa using hn), List.foldl_cons] at hsent
        have hmem : String.ofList n ∈ see seen (.ofList n) := mem_see.2 (.inr rfl)
        have hknown : ∀ m ∈ see seen (.ofList n), m ∈ known := by
          intro m hm
          rcases mem_see.1 hm with hm | rfl
          · exact hseen m hm
          · exact hn
        have hsubstituted : Piece.substituted sent (.marker n) =
            '$' :: Number.digits ((see seen (.ofList n)).idxOf (.ofList n) + 1) := by
          subst hsent
          rw [Piece.substituted, if_pos (mem_foldl_see.2 (.inl hmem)), idxOf_foldl_see hmem]
        simp only [numbered, if_pos hn, ih _ hknown hsent, List.flatMap_cons, hsubstituted]
      · rw [List.filter_cons_of_neg (by simpa using hn)] at hsent
        have hunsent : String.ofList n ∉ sent := by
          subst hsent
          rw [mem_foldl_see]
          rintro (hs | hs)
          · exact hn (hseen _ hs)
          · exact hn (by simpa using (List.mem_filter.1 hs).2)
        rw [numbered, if_neg hn, ih seen hseen hsent, List.flatMap_cons, Piece.substituted, if_neg hunsent]

end Markers

/-! ## Binding -/

namespace Params

theorem exists_lookup? {ps : Params} {n : String} (h : n ∈ ps.names) :
    ∃ v, ps.lookup? n = .some v ∧ ⟨n, v⟩ ∈ ps := by
  have hsome : (ps.find? (·.name = n)).isSome = true := by simpa [names] using h
  obtain ⟨p, hp⟩ := Option.isSome_iff_exists.1 hsome
  have hname : p.name = n := by simpa using List.find?_some hp
  subst hname
  exact ⟨p.value, by rw [lookup?, hp, Option.map_some], List.mem_of_find?_eq_some hp⟩

/-- Known names look up values of theirs, in order. -/
theorem forall₂_lookup? {ps : Params} {ns : List String} (h : ∀ n ∈ ns, n ∈ ps.names) :
    List.Forall₂ (fun n v => ⟨n, v⟩ ∈ ps) ns (ns.filterMap ps.lookup?) := by
  induction ns with
  | nil => exact .nil
  | cons n ns ih =>
    obtain ⟨v, hv, hmem⟩ := exists_lookup? (h n (by simp))
    rw [List.filterMap_cons, hv]
    exact .cons hmem (ih fun m hm => h m (by simp [hm]))

end Params

open Markers in
/-- **Binding by number substitutes markers.** A text has one cut into characters and markers. If no
two parameters share a name, its known markers are replaced by their ranks, each known name counted
where it appears first; everything else is copied. What is sent for each name that appears is the
value of the parameter of that name, in the order of the ranks. If two parameters share a name,
binding is a configuration error, and else it is none. -/
theorem bind_postgres_eq_substituted (sql : String) (ps : Params) :
    ∃ cut, (∀ c, IsCut false sql.toList c ↔ c = cut) ∧
      ∃ values, List.Forall₂ (fun n v => ⟨n, v⟩ ∈ ps) (appearing ps.names cut) values ∧
        Dialect.postgres.bind sql ps =
          if ps.names.Nodup then
            .ok ⟨.ofList (cut.flatMap (Piece.substituted (appearing ps.names cut))), values⟩
          else .error (.configuration "duplicate parameter name in statement") := by
  let cut := pieces false sql.toList
  have hsent : ((names cut).filter (· ∈ ps.names)).foldl see [] = appearing ps.names cut := by
    rw [foldl_see, appearing]
    simp
  have hknown : ∀ n ∈ appearing ps.names cut, n ∈ ps.names := by
    intro n hn
    simpa using (List.mem_filter.1 (List.mem_eraseDups.1 hn)).2
  refine ⟨cut, fun c => isCut_iff, _, Params.forall₂_lookup? hknown, ?_⟩
  rw [Dialect.bind, bindNumbered, numbered_eq_substituted [] cut (by simp) hsent]
  rfl

end ParamQuery
