/-
The markers of a text, as they are met when it is cut into pieces.

A closed text has no marker wherever it stands: its quotes are paired, and
every `@` in it is quoted. `Reads` says which markers a text has, whatever
comes behind it that does not go on with a name; such texts can be put one
behind the other, and normalised (`Reads.normalize`).
-/
import Mathlib.Data.List.TakeWhile
import ParamQuery.Proofs.Text.Normal
import ParamQuery.Statement.Markers

namespace ParamQuery.Markers

open Text (isNameChar isBlank normalize tight)

/-! ## Names in a text -/

/-- The names that the markers among pieces carry, in order. -/
def names : List Piece → List String
  | [] => []
  | .char _ :: ps => names ps
  | .marker n :: ps => .ofList n :: names ps

/-- The names that the markers of a text carry. The text begins in a literal or not. -/
def namesIn (inLiteral : Bool) (cs : List Char) : List String := names (pieces inLiteral cs)

@[simp] theorem namesIn_nil (q : Bool) : namesIn q [] = [] := by
  rw [namesIn, pieces, names]

theorem namesIn_quote (q : Bool) (cs : List Char) : namesIn q ('\'' :: cs) = namesIn (!q) cs := by
  rw [namesIn, pieces, if_pos rfl, names, namesIn]

theorem namesIn_at (cs : List Char) :
    namesIn false ('@' :: cs) =
      .ofList (cs.takeWhile isNameChar) :: namesIn false (cs.dropWhile isNameChar) := by
  rw [namesIn, pieces, if_neg (by decide), if_pos (by decide), names, namesIn]

/-- Characters that are neither a quote nor the beginning of a marker are passed over. -/
theorem namesIn_cons {c : Char} (hc : c ≠ '\'') {q : Bool} (hm : c = '@' → q = true) (cs : List Char) :
    namesIn q (c :: cs) = namesIn q cs := by
  have hmarker : ¬ (c = '@' ∧ q = false) := by
    rintro ⟨h, hq⟩
    simp [hm h] at hq
  rw [namesIn, pieces, if_neg hc, if_neg hmarker, names, namesIn]

/-! ## Closed texts -/

/-- A text in which quotes are paired, and every `@` is between two of them. -/
structure IsClosed (cs : List Char) : Prop where
  paired : cs.count '\'' % 2 = 0
  quoted : ∀ a b, cs = a ++ '@' :: b → a.count '\'' % 2 = 1

/-- Whether a text that begins in a literal, or not, is closed at its end. -/
def closes (inLiteral : Bool) : List Char → Bool
  | [] => !inLiteral
  | c :: cs => if c = '\'' then closes (!inLiteral) cs else (c != '@' || inLiteral) && closes inLiteral cs

/-- An element of a list is its first one or stands behind it. -/
theorem forall_split_cons {α : Type} {x y : α} {xs : List α} {P : List α → List α → Prop} :
    (∀ a b, x :: xs = a ++ y :: b → P a b) ↔
      (x = y → P [] xs) ∧ ∀ a b, xs = a ++ y :: b → P (x :: a) b := by
  constructor
  · intro h
    exact ⟨fun hxy => h [] xs (by rw [hxy]; rfl), fun a b hab => h (x :: a) b (by rw [hab]; rfl)⟩
  · rintro ⟨hfirst, hbehind⟩ a b hab
    cases a with
    | nil =>
      obtain ⟨hxy, rfl⟩ := List.cons.inj hab
      exact hfirst hxy
    | cons d a =>
      obtain ⟨rfl, hxs⟩ := List.cons.inj hab
      exact hbehind a b hxs

theorem closes_iff (q : Bool) (cs : List Char) :
    closes q cs = true ↔
      (cs.count '\'' + q.toNat) % 2 = 0 ∧
        ∀ a b, cs = a ++ '@' :: b → (a.count '\'' + q.toNat) % 2 = 1 := by
  induction cs generalizing q with
  | nil => cases q <;> simp [closes]
  | cons c cs ih =>
    rw [forall_split_cons (P := fun a _ => (a.count '\'' + q.toNat) % 2 = 1)]
    by_cases hc : c = '\''
    · subst hc
      have hnot : ∀ n : Nat, (n + 1 + q.toNat) % 2 = (n + (!q).toNat) % 2 := by
        intro n
        cases q with
        | false => rfl
        | true => simp only [Bool.toNat_true, Bool.not_true, Bool.toNat_false]; omega
      simp [closes, ih, List.count_cons_self, hnot]
    · simp only [closes, if_neg hc, Bool.and_eq_true, ih, List.count_cons_of_ne hc, List.count_nil,
        Nat.zero_add]
      cases q <;> simp [and_left_comm]

theorem isClosed_iff {cs : List Char} : IsClosed cs ↔ closes false cs = true := by
  rw [closes_iff]
  exact ⟨fun h => ⟨h.paired, h.quoted⟩, fun h => ⟨h.1, h.2⟩⟩

instance : DecidablePred IsClosed := fun _ => decidable_of_iff _ isClosed_iff.symm

theorem closes_append {q : Bool} {a : List Char} (h : closes q a = true) (b : List Char) :
    closes q (a ++ b) = closes false b := by
  induction a generalizing q with
  | nil =>
    obtain rfl : q = false := by simpa [closes] using h
    rfl
  | cons c a ih =>
    simp only [closes, List.cons_append] at h ⊢
    split at h
    · rename_i hc
      rw [if_pos hc, ih h]
    · rename_i hc
      rw [Bool.and_eq_true] at h
      rw [if_neg hc, h.1, ih h.2, Bool.true_and]

theorem IsClosed.append {a b : List Char} (ha : IsClosed a) (hb : IsClosed b) : IsClosed (a ++ b) := by
  rw [isClosed_iff] at ha hb ⊢
  rw [closes_append ha, hb]

theorem IsClosed.intercalate {sep : List Char} (hsep : IsClosed sep) {ts : List (List Char)}
    (h : ∀ t ∈ ts, IsClosed t) : IsClosed (sep.intercalate ts) := by
  induction ts with
  | nil => exact isClosed_iff.2 rfl
  | cons t ts ih =>
    have hts := ih fun u hu => h u (by simp [hu])
    by_cases hne : ts = []
    · subst hne
      simpa using h t (by simp)
    · rw [List.intercalate_cons_of_ne_nil hne]
      exact ((h t (by simp)).append hsep).append hts

/-- The characters on which it depends whether a text is closed. -/
def isMark (c : Char) : Bool := c == '\'' || c == '@'

theorem closes_filter (q : Bool) (cs : List Char) : closes q (cs.filter isMark) = closes q cs := by
  induction cs generalizing q with
  | nil => rfl
  | cons c cs ih =>
    by_cases hc : isMark c = true
    · simp [hc, closes, ih]
    · obtain ⟨hquote, hat⟩ : c ≠ '\'' ∧ c ≠ '@' := by simpa [isMark] using hc
      simp [hc, closes, ih, hquote, hat]

theorem isClosed_congr {a b : List Char} (h : a.filter isMark = b.filter isMark) :
    IsClosed a ↔ IsClosed b := by
  rw [isClosed_iff, isClosed_iff, ← closes_filter, h, closes_filter]

/-- A closed text has no marker wherever it stands. -/
theorem namesIn_append_of_closes {q : Bool} {a : List Char} (h : closes q a = true) (rest : List Char) :
    namesIn q (a ++ rest) = namesIn false rest := by
  induction a generalizing q with
  | nil =>
    obtain rfl : q = false := by simpa [closes] using h
    rfl
  | cons c a ih =>
    simp only [closes] at h
    split at h
    · rename_i hc
      rw [List.cons_append, hc, namesIn_quote, ih h]
    · rename_i hc
      rw [Bool.and_eq_true, Bool.or_eq_true, bne_iff_ne] at h
      rw [List.cons_append, namesIn_cons hc (fun hat => h.1.resolve_left (absurd hat)), ih h.2]

/-! ## Texts with markers -/

/-- A text that does not go on with a name. -/
def Ends (rest : List Char) : Prop := ∀ c ∈ rest.head?, isNameChar c = false

/-- The markers of a text carry the names `ns`, whatever comes behind it that does not go on with a
name; and what comes behind it is not in a literal. -/
def Reads (ns : List String) (cs : List Char) : Prop :=
  ∀ rest, Ends rest → namesIn false (cs ++ rest) = ns ++ namesIn false rest

/-- A name that a marker can carry. -/
def IsName (n : String) : Prop := ∀ c ∈ n.toList, isNameChar c = true

instance : DecidablePred Ends
  | [] => .isTrue (by simp [Ends])
  | c :: _ => decidable_of_iff (isNameChar c = false) (by simp [Ends])

theorem ends_append {a : List Char} (ha : Ends a) (hne : a ≠ []) (b : List Char) : Ends (a ++ b) := by
  cases a with
  | nil => exact absurd rfl hne
  | cons c a => exact ha

theorem Ends.append {a rest : List Char} (ha : Ends a) (hrest : Ends rest) : Ends (a ++ rest) := by
  cases a with
  | nil => exact hrest
  | cons c a => exact ha

theorem Ends.takeWhile_append {rest : List Char} (h : Ends rest) (cs : List Char) :
    (cs ++ rest).takeWhile isNameChar = cs.takeWhile isNameChar := by
  induction cs with
  | nil => cases rest <;> simp_all [Ends]
  | cons c cs ih => simp only [List.cons_append, List.takeWhile_cons, ih]

theorem Ends.dropWhile_append {rest : List Char} (h : Ends rest) (cs : List Char) :
    (cs ++ rest).dropWhile isNameChar = cs.dropWhile isNameChar ++ rest := by
  induction cs with
  | nil => cases rest <;> simp_all [Ends]
  | cons c cs ih =>
    simp only [List.cons_append, List.dropWhile_cons, ih]
    split <;> rfl

theorem IsClosed.reads {cs : List Char} (h : IsClosed cs) : Reads [] cs := fun rest _ =>
  namesIn_append_of_closes (isClosed_iff.1 h) rest

theorem IsClosed.reads_append {a b : List Char} {ns : List String} (ha : IsClosed a) (hb : Reads ns b) :
    Reads ns (a ++ b) := by
  intro rest hrest
  rw [List.append_assoc, namesIn_append_of_closes (isClosed_iff.1 ha), hb rest hrest]

theorem Reads.append {a b : List Char} {ns ms : List String} (ha : Reads ns a) (hb : Reads ms b)
    (hends : Ends b) : Reads (ns ++ ms) (a ++ b) := by
  intro rest hrest
  rw [List.append_assoc, ha _ (hends.append hrest), hb rest hrest, List.append_assoc]

theorem Reads.append_closed {a b : List Char} {ns : List String} (ha : Reads ns a) (hb : IsClosed b)
    (hends : Ends b) : Reads ns (a ++ b) := by
  simpa using ha.append hb.reads hends

theorem ends_marker (n : String) : Ends (marker n).toList := by
  rw [marker, String.toList_append]
  exact ends_append (by decide) (by decide) _

theorem reads_marker {n : String} (h : IsName n) : Reads [n] (marker n).toList := by
  intro rest hrest
  have hname : n.toList.takeWhile isNameChar = n.toList := List.takeWhile_eq_self_iff.2 h
  have hnil : n.toList.dropWhile isNameChar = [] := List.dropWhile_eq_nil_iff.2 h
  rw [marker, String.toList_append]
  show namesIn false ('@' :: (n.toList ++ rest)) = _
  rw [namesIn_at, hrest.takeWhile_append, hrest.dropWhile_append, hname, hnil, String.ofList_toList]
  rfl

/-- Texts with commas between neighbours. -/
theorem reads_commas {α : Type} (ns : α → List String) (text : α → String) {xs : List α}
    (h : ∀ x ∈ xs, Reads (ns x) (text x).toList) :
    Reads (xs.flatMap ns) (", ".intercalate (xs.map text)).toList := by
  rw [String.toList_intercalate]
  induction xs with
  | nil => exact (isClosed_iff.2 rfl : IsClosed []).reads
  | cons x xs ih =>
    have hx := h x (by simp)
    have hxs := ih fun y hy => h y (by simp [hy])
    by_cases hnil : xs = []
    · subst hnil
      simpa using hx
    · have hcomma : IsClosed ", ".toList := isClosed_iff.2 rfl
      rw [List.map_cons, List.map_cons, List.intercalate_cons_of_ne_nil (by simpa using hnil),
        List.append_assoc, List.flatMap_cons]
      exact hx.append (hcomma.reads_append hxs) (ends_append (by decide) (by decide) _)

/-! ## Blanks -/

/-- The codes of the blanks. -/
def blankCodes : List Nat :=
  [9, 10, 11, 12, 13, 0x20, 0x85, 0xA0, 0x1680, 0x2000, 0x2001, 0x2002, 0x2003, 0x2004, 0x2005, 0x2006,
    0x2007, 0x2008, 0x2009, 0x200A, 0x2028, 0x2029, 0x202F, 0x205F, 0x3000]

theorem toNat_mem_blankCodes {c : Char} (h : isBlank c = true) : c.toNat ∈ blankCodes := by
  simp only [isBlank, Bool.or_eq_true, Bool.and_eq_true, decide_eq_true_eq, beq_iff_eq] at h
  simp only [blankCodes, List.mem_cons, List.not_mem_nil, or_false]
  omega

theorem isNameChar_of_isBlank {c : Char} (h : isBlank c = true) : isNameChar c = false := by
  have hcodes : ∀ n ∈ blankCodes, isNameChar (Char.ofNat n) = false := by decide
  rw [← Char.ofNat_toNat c]
  exact hcodes _ (toNat_mem_blankCodes h)

theorem isBlank_of_isNameChar {c : Char} (h : isNameChar c = true) : isBlank c = false := by
  by_contra hblank
  rw [isNameChar_of_isBlank (by simpa using hblank)] at h
  cases h

theorem ne_of_isBlank {c : Char} (h : isBlank c = true) : c ≠ '\'' ∧ c ≠ '@' := by
  constructor
  · rintro rfl
    exact absurd h (by decide)
  · rintro rfl
    exact absurd h (by decide)

theorem namesIn_blank {c : Char} (h : isBlank c = true) (q : Bool) (cs : List Char) :
    namesIn q (c :: cs) = namesIn q cs :=
  namesIn_cons (ne_of_isBlank h).1 (fun hat => absurd hat (ne_of_isBlank h).2) cs

theorem takeWhile_tight (cs : List Char) : (tight cs).takeWhile isNameChar = cs.takeWhile isNameChar := by
  induction cs with
  | nil => rfl
  | cons c cs ih =>
    rw [tight]
    split
    · rename_i hc
      rw [List.takeWhile_cons, isNameChar_of_isBlank hc]
      split <;> rfl
    · rw [List.takeWhile_cons, List.takeWhile_cons, ih]

theorem dropWhile_tight (cs : List Char) :
    (tight cs).dropWhile isNameChar = tight (cs.dropWhile isNameChar) := by
  induction cs with
  | nil => rfl
  | cons c cs ih =>
    by_cases hc : isBlank c = true
    · rw [List.dropWhile_cons, isNameChar_of_isBlank hc, if_neg (by simp), tight, if_pos hc]
      split <;> rfl
    · rw [tight, if_neg hc, List.dropWhile_cons, List.dropWhile_cons, ih]
      split
      · rfl
      · rw [tight, if_neg hc]

/-- Normalising changes no marker, behind a character of a word or elsewhere. -/
theorem namesIn_normalize_append {rest : List Char} (hrest : Ends rest) (q : Bool) (cs : List Char) :
    namesIn q (normalize cs ++ rest) = namesIn q (cs ++ rest) ∧
      namesIn q (tight cs ++ rest) = namesIn q (cs ++ rest) := by
  -- On the length: behind an `@` the whole run of name characters is left at once.
  induction hn : cs.length using Nat.strongRecOn generalizing q cs with
  | _ n ih =>
  cases cs with
  | nil => exact ⟨rfl, rfl⟩
  | cons c cs =>
  simp only [List.length_cons] at hn
  by_cases hb : isBlank c = true
  · have hcs := (ih cs.length (by omega) q cs rfl).1
    rw [List.cons_append, namesIn_blank hb, Text.normalize_cons_blank hb, tight, if_pos hb]
    refine ⟨hcs, ?_⟩
    split
    · rename_i hnil
      rw [← hcs, hnil]
    · rw [List.cons_append, namesIn_blank (by decide), hcs]
  · have htight : tight (c :: cs) = c :: tight cs := by rw [tight, if_neg hb]
    rw [Text.normalize_cons (by simpa using hb), htight, and_self, List.cons_append, List.cons_append]
    by_cases hquote : c = '\''
    · rw [hquote, namesIn_quote, namesIn_quote, (ih cs.length (by omega) (!q) cs rfl).2]
    · by_cases hat : c = '@' ∧ q = false
      · obtain ⟨rfl, rfl⟩ := hat
        have hle : (cs.dropWhile isNameChar).length ≤ cs.length :=
          (List.dropWhile_suffix _).length_le
        rw [namesIn_at, namesIn_at, hrest.takeWhile_append, hrest.takeWhile_append, takeWhile_tight,
          hrest.dropWhile_append, hrest.dropWhile_append, dropWhile_tight,
          (ih _ (by omega) false (cs.dropWhile isNameChar) rfl).2]
      · have hm : c = '@' → q = true := fun h => by simpa [h] using hat
        rw [namesIn_cons hquote hm, namesIn_cons hquote hm, (ih cs.length (by omega) q cs rfl).2]

theorem Reads.normalize {cs : List Char} {ns : List String} (h : Reads ns cs) : Reads ns (normalize cs) := by
  intro rest hrest
  rw [(namesIn_normalize_append hrest false cs).1, h rest hrest]

/-! ## Trimming -/

theorem filter_dropWhile_isBlank (cs : List Char) :
    (cs.dropWhile isBlank).filter isMark = cs.filter isMark := by
  induction cs with
  | nil => rfl
  | cons c cs ih =>
    rw [List.dropWhile_cons]
    split
    · rename_i hc
      have hmark : isMark c = false := by simpa [isMark] using ne_of_isBlank hc
      rw [ih, List.filter_cons_of_neg (by simp [hmark])]
    · rfl

theorem filter_trim (cs : List Char) : (Text.trim cs).filter isMark = cs.filter isMark := by
  rw [Text.trim, Text.trimEnd, List.filter_reverse, filter_dropWhile_isBlank, List.filter_reverse,
    List.reverse_reverse, Text.trimStart, filter_dropWhile_isBlank]

theorem isClosed_trimmed {t : String} : IsClosed (Text.trimmed t).toList ↔ IsClosed t.toList := by
  refine isClosed_congr ?_
  rw [Text.trimmed, String.toList_ofList, filter_trim]

/-- A text that is left out when it is blank. -/
theorem isClosed_of_nonBlank? {t u : String} (h : IsClosed t.toList) (hu : Text.nonBlank? t = .some u) :
    IsClosed u.toList := by
  simp only [Text.nonBlank?] at hu
  split at hu
  · simp at hu
  · obtain rfl := Option.some.inj hu
    exact isClosed_trimmed.2 h

/-! ## Tokens -/

/-- Tokens, each behind a space. -/
def spaced (ts : List String) : List Char := ts.flatMap fun t => ' ' :: t.toList

theorem ends_spaced (ts : List String) : Ends (spaced ts) := by
  cases ts with
  | nil => simp [Ends, spaced]
  | cons t ts =>
    rw [spaced, List.flatMap_cons, List.cons_append, ← List.singleton_append]
    exact ends_append (by decide) (by simp) _

theorem reads_nil : Reads [] (spaced []) := (isClosed_iff.2 rfl : IsClosed []).reads

theorem Reads.spaced_append {ts us : List String} {ns ms : List String} (ht : Reads ns (spaced ts))
    (hu : Reads ms (spaced us)) : Reads (ns ++ ms) (spaced (ts ++ us)) := by
  rw [spaced, List.flatMap_append]
  exact ht.append hu (ends_spaced us)

theorem Reads.spaced_singleton {t : String} {ns : List String} (h : Reads ns t.toList) :
    Reads ns (spaced [t]) := by
  have hspace : IsClosed [' '] := isClosed_iff.2 rfl
  simpa [spaced] using hspace.reads_append h

theorem Reads.spaced_cons {t : String} {ts : List String} {ns : List String} (ht : IsClosed t.toList)
    (h : Reads ns (spaced ts)) : Reads ns (spaced (t :: ts)) :=
  ht.reads.spaced_singleton.spaced_append h

theorem reads_spaced_of_isClosed {ts : List String} (h : ∀ t ∈ ts, IsClosed t.toList) :
    Reads [] (spaced ts) := by
  induction ts with
  | nil => exact reads_nil
  | cons t ts ih => exact (ih fun u hu => h u (by simp [hu])).spaced_cons (h t (by simp))

theorem spaced_eq (t : String) (ts : List String) :
    spaced (t :: ts) = ' ' :: [' '].intercalate ((t :: ts).map String.toList) := by
  induction ts generalizing t with
  | nil => simp [spaced]
  | cons u ts ih =>
    rw [List.map_cons, List.intercalate_cons_of_ne_nil (by simp), spaced, List.flatMap_cons, ← spaced, ih u]
    simp

/-- Tokens with spaces between them, normalised, have the markers of the tokens. -/
theorem Reads.intercalate_normalize {ts : List String} {ns : List String} (h : Reads ns (spaced ts)) :
    Reads ns (Text.normalized (" ".intercalate ts)).toList := by
  have hspaced : Text.normalize (spaced ts) = Text.normalize ([' '].intercalate (ts.map String.toList)) := by
    cases ts with
    | nil => rfl
    | cons t ts => rw [spaced_eq, Text.normalize_cons_blank (by decide)]
  rw [Text.normalized, String.toList_ofList, String.toList_intercalate]
  show Reads ns (Text.normalize ([' '].intercalate (ts.map String.toList)))
  rw [← hspaced]
  exact h.normalize

end ParamQuery.Markers
