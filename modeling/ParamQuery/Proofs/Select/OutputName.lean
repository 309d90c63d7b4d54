/-
The name of a result's column, by a field as it was given and by the field
as it stands in the statement, where every run of blanks is one space.

A field is cut at its last `AS` between plain spaces. In the statement it is
cut at the last word `AS` that stands between two others, whatever blanks
were around it (`behind_cut_intercalate`). So both give the same name
exactly if the field is cut there as well, and the blanks in the name are
single spaces (`outputName_normalized_iff`).
-/
import ParamQuery.Proofs.Entity.Lookup
import ParamQuery.Proofs.Statement.Markers
import ParamQuery.Proofs.Text.Trimmed

namespace ParamQuery

/-! ## Words -/

namespace Projection

open Text (IsWord words)

/-- The word `AS`, in any case. -/
def isAs : List Char → Bool
  | [a, s] => a.toUpper == 'A' && s.toUpper == 'S'
  | _ => false

/-- The words behind the last `AS` that has a word on both sides. -/
def aliasWords? : List (List Char) → Option (List (List Char))
  | _ :: w :: v :: rest =>
    (aliasWords? (w :: v :: rest)).or (if isAs w then .some (v :: rest) else .none)
  | _ => .none

theorem aliasWords?_of_as {u k : List (List Char)} {w : List Char} (hw : isAs w = true) (hu : u ≠ [])
    (hk : k ≠ []) : ∃ found, aliasWords? (u ++ w :: k) = .some found := by
  obtain ⟨v, rest, rfl⟩ := List.exists_cons_of_ne_nil hk
  induction u with
  | nil => exact absurd rfl hu
  | cons x u ih =>
    cases u with
    | nil =>
      rw [List.singleton_append, aliasWords?, if_pos hw]
      cases aliasWords? (w :: v :: rest) with
      | none => exact ⟨_, rfl⟩
      | some found => exact ⟨_, rfl⟩
    | cons y u =>
      obtain ⟨found, hfound⟩ := ih (by simp)
      obtain ⟨z, zs, hz⟩ : ∃ z zs, u ++ w :: v :: rest = z :: zs := List.exists_cons_of_ne_nil (by simp)
      rw [List.cons_append, hz] at hfound
      exact ⟨found, by rw [List.cons_append, List.cons_append, hz, aliasWords?, hfound, Option.some_or]⟩

theorem exists_as_of_aliasWords? {ws k : List (List Char)} (h : aliasWords? ws = .some k) :
    k ≠ [] ∧ ∃ u w, isAs w = true ∧ ws = u ++ w :: k := by
  induction ws with
  | nil => simp [aliasWords?] at h
  | cons x ws ih =>
    match ws with
    | [] | [_] => simp [aliasWords?] at h
    | w :: v :: rest =>
      rw [aliasWords?, Option.or_eq_some_iff] at h
      rcases h with h | ⟨-, h⟩
      · obtain ⟨hk, u, w', hw', heq⟩ := ih h
        exact ⟨hk, x :: u, w', hw', by rw [heq, List.cons_append]⟩
      · split at h
        · rename_i hw
          obtain rfl := Option.some.inj h
          exact ⟨List.cons_ne_nil _ _, [x], w, hw, rfl⟩
        · cases h

/-! ## Cutting -/

namespace Entry

theorem behindAs?_of_ne {c : Char} (h : c ≠ ' ') (s : List Char) : behindAs? (c :: s) = .none := by
  unfold behindAs?
  split
  · rename_i heq
    exact absurd (List.cons.inj heq).1 h
  · rfl

theorem cutAtAs?_append {u : List Char} (h : ' ' ∉ u) (s : List Char) :
    cutAtAs? (u ++ s) = (cutAtAs? s).map fun parts => (u ++ parts.1, parts.2) := by
  induction u with
  | nil => simp
  | cons c u ih =>
    rw [List.mem_cons, not_or] at h
    rw [List.cons_append, cutAtAs?, ih h.2]
    cases cutAtAs? s with
    | none => simp [behindAs?_of_ne (Ne.symm h.1)]
    | some parts => rfl

theorem behind_cut_space (s : List Char) :
    (cutAtAs? (' ' :: s)).map (·.2) = ((cutAtAs? s).map (·.2)).or (behindAs? (' ' :: s)) := by
  rw [cutAtAs?]
  cases cutAtAs? s with
  | none =>
    cases behindAs? (' ' :: s) with
    | none => rfl
    | some after => rfl
  | some parts => rfl

theorem space_notMem {w : List Char} (h : IsWord w) : ' ' ∉ w := fun hmem => absurd (h.2 _ hmem) (by decide)

/-- Between a space and a word there is an `AS`, or not, as the word says that stands there. -/
theorem behindAs?_word {w r : List Char} (hw : IsWord w) (hr : ∀ c ∈ r.head?, c ≠ ' ') :
    behindAs? (' ' :: (w ++ ' ' :: r)) = if isAs w then .some r else .none := by
  have hspace := space_notMem hw
  match w with
  | [] => exact absurd rfl hw.1
  | [a] =>
    unfold behindAs?
    split
    · rename_i b s rest heq
      simp only [List.cons_append, List.nil_append, List.cons.injEq] at heq
      obtain ⟨-, rfl, rfl, rfl⟩ := heq
      exact absurd rfl (hr ' ' rfl)
    · rfl
  | [a, s] => simp [behindAs?, isAs]
  | a :: s :: x :: w =>
    unfold behindAs?
    split
    · rename_i b t rest heq
      simp only [List.cons_append, List.cons.injEq] at heq
      obtain ⟨-, rfl, rfl, rfl, rfl⟩ := heq
      simp at hspace
    · rfl

theorem behindAs?_last {w : List Char} (hw : IsWord w) : behindAs? (' ' :: w) = .none := by
  unfold behindAs?
  split
  · rename_i a s rest heq
    obtain rfl := (List.cons.inj heq).2
    exact absurd (show ' ' ∈ a :: s :: ' ' :: rest by simp) (space_notMem hw)
  · rfl

/-- **Where normalised text is cut.** -/
theorem behind_cut_intercalate {ws : List (List Char)} (h : ∀ w ∈ ws, IsWord w) :
    (cutAtAs? ([' '].intercalate ws)).map (·.2) = (aliasWords? ws).map [' '].intercalate := by
  have hword {w : List Char} (hw : IsWord w) : cutAtAs? w = .none := by
    have := cutAtAs?_append (space_notMem hw) []
    rwa [List.append_nil, cutAtAs?, Option.map_none] at this
  have hfirst {w : List Char} (hw : IsWord w) (s : List Char) :
      (cutAtAs? (w ++ s)).map (·.2) = (cutAtAs? s).map (·.2) := by
    rw [cutAtAs?_append (space_notMem hw), Option.map_map]
    rfl
  induction ws with
  | nil => rfl
  | cons x ws ih =>
    have hx := h x (by simp)
    have hws : ∀ w ∈ ws, IsWord w := fun w hw => h w (by simp [hw])
    cases ws with
    | nil => simp [aliasWords?, hword hx]
    | cons w ws =>
      have hw := hws w (by simp)
      rw [List.intercalate_cons_of_ne_nil (by simp), List.append_assoc, hfirst hx, List.singleton_append,
        behind_cut_space]
      cases ws with
      | nil =>
        rw [List.intercalate_singleton, hword hw, behindAs?_last hw]
        rfl
      | cons v rest =>
        have hv := hws v (by simp)
        have hbegin : ∀ c ∈ ([' '].intercalate (v :: rest)).head?, c ≠ ' ' := by
          obtain ⟨c, cs, rfl⟩ := List.exists_cons_of_ne_nil hv.1
          have hc : c ≠ ' ' := fun he => space_notMem hv (by simp [he])
          cases rest with
          | nil => simpa using hc
          | cons y ys => simpa [List.intercalate_cons_of_ne_nil] using hc
        have hbehind : behindAs? (' ' :: [' '].intercalate (w :: v :: rest)) =
            if isAs w then .some ([' '].intercalate (v :: rest)) else .none := by
          rw [List.intercalate_cons_of_ne_nil (by simp), List.append_assoc, List.singleton_append]
          exact behindAs?_word hw hbegin
        rw [ih hws, hbehind, aliasWords?]
        cases aliasWords? (w :: v :: rest) with
        | none => split <;> rfl
        | some found => rfl

theorem not_blank_of_toUpper {c : Char} (h : c.toUpper = 'A' ∨ c.toUpper = 'S') : Text.isBlank c = false := by
  have hcodes : ∀ n ∈ Markers.blankCodes, (Char.ofNat n).toUpper ≠ 'A' ∧ (Char.ofNat n).toUpper ≠ 'S' := by decide
  by_contra hblank
  have hcode := hcodes _ (Markers.toNat_mem_blankCodes (by simpa using hblank))
  rw [Char.ofNat_toNat] at hcode
  exact h.elim hcode.1 hcode.2

/-- The words of a trimmed text that is cut: on both sides of the `AS` there are some. -/
theorem words_of_cut {t before after : List Char} (ht : Text.IsTrimmed t)
    (h : cutAtAs? t = .some (before, after)) :
    ∃ w, isAs w = true ∧ words before ≠ [] ∧ words after ≠ [] ∧ words t = words before ++ w :: words after := by
  obtain ⟨x, y, hx, hy, rfl⟩ := cutAtAs?_eq h
  have hspace : Text.isBlank ' ' = true := by decide
  have hblank {s : List Char} (hs : words s = []) : ∀ c ∈ s, Text.isBlank c = true :=
    Text.normalize_eq_nil_iff.1 (Text.normalize_eq_nil_iff_words.2 hs)
  have hword : IsWord [x, y] :=
    ⟨by simp, by simpa using ⟨not_blank_of_toUpper (.inl hx), not_blank_of_toUpper (.inr hy)⟩⟩
  refine ⟨[x, y], by simp [isAs, hx, hy], fun hnil => ?_, fun hnil => ?_, ?_⟩
  · cases before with
    | nil => exact absurd (ht.front ' ' rfl) (by decide)
    | cons c before => exact absurd (ht.front c rfl) (by simp [hblank hnil c (by simp)])
  · cases hlast : after.getLast? with
    | none =>
      obtain rfl := List.getLast?_eq_none_iff.1 hlast
      exact absurd (ht.back ' ' (by simp)) (by decide)
    | some c =>
      have hne : after ≠ [] := by
        rintro rfl
        simp at hlast
      have := ht.back c (by simp [List.getLast?_append, List.getLast?_cons_of_ne_nil, hne, hlast])
      rw [hblank hnil c (List.mem_of_getLast? hlast)] at this
      cases this
  · have hsplit : x :: y :: ' ' :: after = [x, y] ++ ' ' :: after := rfl
    rw [Text.words_append_blank hspace, hsplit, Text.words_append_blank hspace, Text.words_of_isWord hword,
      List.singleton_append]

/-! ## Names -/

theorem outputName_of_cut {field : String} {before after : List Char}
    (h : cutAtAs? (Text.trim field.toList) = .some (before, after)) (hafter : words after ≠ []) :
    (read field).outputName.toList = Text.trim after := by
  have hne : (Text.trimmed (.ofList after)).isEmpty = false := by
    rw [Bool.eq_false_iff]
    intro hempty
    have hnil : Text.trim after = [] := by
      have := congrArg String.toList (String.isEmpty_iff.1 hempty)
      simpa [Text.trimmed] using this
    rw [← Text.words_trim, hnil] at hafter
    exact hafter rfl
  rw [read_of_cut h, outputName, make, Option.bind_some, Text.nonBlank?, if_neg (by simp [hne]), Option.getD_some]
  simp [Text.trimmed]

theorem outputName_of_not_cut {field : String} (h : cutAtAs? (Text.trim field.toList) = .none) :
    (read field).outputName = lastSegment (Text.trimmed field) := by
  rw [read_of_not_cut h]
  rfl

/-- A text is its last segment, behind nothing or a dot. -/
theorem exists_lastSegment (s : String) :
    ∃ before, s.toList = before ++ (lastSegment s).toList ∧ ∀ c ∈ before.getLast?, c = '.' := by
  refine ⟨(s.toList.reverse.dropWhile (· != '.')).reverse, ?_, fun c hc => ?_⟩
  · rw [lastSegment, String.toList_ofList, ← List.reverse_append, List.takeWhile_append_dropWhile,
      List.reverse_reverse]
  · rw [List.getLast?_reverse] at hc
    have := List.head?_dropWhile_not (· != '.') s.toList.reverse
    rw [Option.mem_def.1 hc] at this
    simpa using this

/-- The last segment is normalised with the text, but for a blank at its front. -/
theorem lastSegment_normalized {s : String} (h : Text.IsTrimmed s.toList) :
    (lastSegment (Text.normalized s)).toList = Text.tight (lastSegment s).toList := by
  have hdot : Text.isBlank '.' = false := by decide
  have hsegment : '.' ∉ Text.tight (lastSegment s).toList := fun hmem =>
    dot_notMem_lastSegment s ((Text.mem_of_mem_tight hdot).2 hmem)
  have hnormal : Text.normalize s.toList = Text.tight s.toList := h.tight.symm
  obtain ⟨before, heq, hbefore⟩ := exists_lastSegment s
  cases hlast : before.getLast? with
  | none =>
    obtain rfl := List.getLast?_eq_none_iff.1 hlast
    have hself : Text.normalize s.toList = Text.tight (lastSegment s).toList :=
      hnormal.trans (congrArg Text.tight (heq.trans (List.nil_append _)))
    have hname : (Text.normalized s).toList = Text.tight (lastSegment s).toList := by
      rw [Text.normalized, String.toList_ofList, hself]
    rw [lastSegment_of_dot_notMem (by rwa [hname]), hname]
  | some c =>
    obtain rfl := hbefore c hlast
    obtain ⟨front, rfl⟩ := List.getLast?_eq_some_iff.1 hlast
    obtain ⟨front', -, hfront⟩ := Text.exists_tight_append_cons hdot front
    have hname : (Text.normalized s).toList = front' ++ '.' :: Text.tight (lastSegment s).toList := by
      rw [Text.normalized, String.toList_ofList, hnormal, ← hfront]
      refine congrArg Text.tight (heq.trans ?_)
      rw [List.append_assoc, List.singleton_append]
    rw [lastSegment, hname, String.toList_ofList, List.reverse_append, List.reverse_cons, List.append_assoc,
      List.singleton_append, List.takeWhile_append_of_pos, List.takeWhile_cons]
    · simp
    · intro c hc
      rw [bne_iff_ne]
      rintro rfl
      exact hsegment (List.mem_reverse.1 hc)

/-- A text is not cut, but it would be normalised: then what would be its alias is not its last segment. -/
theorem lastSegment_ne_of_as {s : String} {u k : List (List Char)} {w : List Char} (hw : isAs w = true)
    (h : words s.toList = u ++ w :: k) : words (lastSegment s).toList ≠ k := by
  intro hk
  obtain ⟨before, heq, hbefore⟩ := exists_lastSegment s
  -- What is seen in front of the last segment ends with a dot, what is seen in front of the alias with an `S`.
  have hseen : before.filter (!Text.isBlank ·) = u.flatten ++ w := by
    refine (List.append_left_inj k.flatten).1 ?_
    calc before.filter (!Text.isBlank ·) ++ k.flatten
        = s.toList.filter (!Text.isBlank ·) := by
          rw [heq, List.filter_append, ← hk, Text.flatten_words]
      _ = u.flatten ++ w ++ k.flatten := by
          rw [← Text.flatten_words, h, List.flatten_append, List.flatten_cons, List.append_assoc]
  match w with
  | [a, s] =>
    have hs : s.toUpper = 'S' := by
      simp only [isAs, Bool.and_eq_true, beq_iff_eq] at hw
      exact hw.2
    cases hlast : before.getLast? with
    | none =>
      rw [List.getLast?_eq_none_iff.1 hlast] at hseen
      simp at hseen
    | some c =>
      obtain rfl := hbefore c hlast
      obtain ⟨front, rfl⟩ := List.getLast?_eq_some_iff.1 hlast
      have hend := congrArg List.getLast? hseen
      simp [Text.isBlank] at hend
      subst hend
      exact absurd hs (by decide)

/-- A normalised field is cut in front of the words that are its alias. -/
theorem behind_cut_normalized (field : String) :
    (cutAtAs? (Text.trim (Text.normalized field).toList)).map (·.2) =
      (aliasWords? (words field.toList)).map [' '].intercalate := by
  rw [Text.normalized, String.toList_ofList, (Text.isTrimmed_normalize _).trim]
  exact behind_cut_intercalate fun w hw => Text.isWord_of_mem_words hw

/-- A field without words for an alias is not cut. -/
theorem not_cut_of_unaliased {field : String} (h : aliasWords? (words field.toList) = .none) :
    cutAtAs? (Text.trim field.toList) = .none := by
  cases hcut : cutAtAs? (Text.trim field.toList) with
  | none => rfl
  | some parts =>
    obtain ⟨w, hw, hbefore, hafter, hwords⟩ := words_of_cut (Text.isTrimmed_trim _) hcut
    obtain ⟨found, hfound⟩ := aliasWords?_of_as hw hbefore hafter
    rw [← hwords, Text.words_trim, h] at hfound
    cases hfound

/-- Without words for an alias the name is normalised with the field. -/
theorem outputName_of_unaliased {field : String} (h : aliasWords? (words field.toList) = .none) :
    (read (Text.normalized field)).outputName.toList = Text.tight (read field).outputName.toList := by
  have hcut : cutAtAs? (Text.trim (Text.normalized field).toList) = .none := by
    have hbehind := behind_cut_normalized field
    rw [h] at hbehind
    simpa using hbehind
  have hname : Text.trimmed (Text.normalized field) = Text.normalized (Text.trimmed field) := by
    rw [Text.trimmed, Text.normalized, String.toList_ofList, (Text.isTrimmed_normalize _).trim, Text.normalized,
      Text.trimmed, String.toList_ofList, Text.normalize_trim]
  have htrimmed : Text.IsTrimmed (Text.trimmed field).toList := by
    rw [Text.trimmed, String.toList_ofList]
    exact Text.isTrimmed_trim _
  rw [outputName_of_not_cut (not_cut_of_unaliased h), outputName_of_not_cut hcut, hname,
    lastSegment_normalized htrimmed]

/-- The words of an alias are the name that a normalised field gives. -/
theorem outputName_of_aliased {field : String} {k : List (List Char)}
    (h : aliasWords? (words field.toList) = .some k) :
    words ([' '].intercalate k) = k ∧
      (read (Text.normalized field)).outputName.toList = [' '].intercalate k := by
  obtain ⟨hk, u, w, -, hwords⟩ := exists_as_of_aliasWords? h
  have hkWords : words ([' '].intercalate k) = k := Text.words_intercalate fun v hv =>
    Text.isWord_of_mem_words (hwords ▸ List.mem_append_right _ (List.mem_cons_of_mem _ hv))
  have hbehind := behind_cut_normalized field
  rw [h, Option.map_some, Option.map_eq_some_iff] at hbehind
  obtain ⟨⟨before, after⟩, hcut, rfl⟩ := hbehind
  have hnormal : [' '].intercalate k = Text.normalize ([' '].intercalate k) := by rw [Text.normalize, hkWords]
  refine ⟨hkWords, ?_⟩
  rw [outputName_of_cut hcut (by rwa [hkWords]), hnormal, (Text.isTrimmed_normalize _).trim]

/-- **When a name survives normalising.** A field and what the statement has of it give a column of the
result the same name exactly if the blanks in the name are single spaces, and the field is cut at the
last `AS` that has a word on both sides, if there is one. -/
theorem outputName_normalized_iff (field : String) :
    (read (Text.normalized field)).outputName = (read field).outputName ↔
      Text.tight (read field).outputName.toList = (read field).outputName.toList ∧
        (cutAtAs? (Text.trim field.toList)).map (words ·.2) = aliasWords? (words field.toList) := by
  rw [← String.toList_inj]
  cases halias : aliasWords? (words field.toList) with
  | none =>
    rw [outputName_of_unaliased halias, not_cut_of_unaliased halias]
    exact (and_iff_left rfl).symm
  | some k =>
    obtain ⟨hkWords, hname⟩ := outputName_of_aliased halias
    obtain ⟨-, u, w, hw, hwords⟩ := exists_as_of_aliasWords? halias
    rw [hname]
    cases hcut : cutAtAs? (Text.trim field.toList) with
    | none =>
      have htrimmedWords : words (Text.trimmed field).toList = u ++ w :: k := by
        rw [Text.trimmed, String.toList_ofList, Text.words_trim, hwords]
      have hdiffer : words (read field).outputName.toList ≠ k := by
        rw [outputName_of_not_cut hcut]
        exact lastSegment_ne_of_as hw htrimmedWords
      refine iff_of_false (fun heq => hdiffer ?_) fun h => by cases h.2
      rw [← heq, hkWords]
    | some parts =>
      obtain ⟨before, after⟩ := parts
      obtain ⟨-, -, -, hafter, -⟩ := words_of_cut (Text.isTrimmed_trim _) hcut
      have htight : Text.tight (Text.trim after) = [' '].intercalate (words after) := by
        rw [(Text.isTrimmed_trim after).tight, Text.normalize, Text.words_trim]
      rw [outputName_of_cut hcut hafter, htight, Option.map_some, Option.some.injEq]
      constructor
      · intro heq
        have hsame : words after = k := by rw [← Text.words_trim, ← heq, hkWords]
        exact ⟨by rw [hsame, heq], hsame⟩
      · rintro ⟨hkept, hsame⟩
        rw [← hkept, hsame]

/-- A field of which the statement has another cut than the one by which its column is looked for. -/
theorem outputName_between_tabs :
    (read "a.Name\tAS\tTitle").outputName = "Name\tAS\tTitle" ∧
      (read (Text.normalized "a.Name\tAS\tTitle")).outputName = "Title" := by
  decide +kernel

end Entry

end Projection

end ParamQuery
