/-
Connection strings read back.

The reader takes pairs of a key and a value. A value that begins with a
quote ends with the next one, any other ends in front of the next blank,
and a backslash takes the character behind it as it is. Blanks may stand
around pairs and around the equals sign.

`readPairs_connectionString`: what the settings write is read as the parts
that are set, each with its own text. So no text, whatever is in it, can
pass for another key.
-/
import ParamQuery.Proofs.Statement.Markers
import ParamQuery.Settings.Basic

namespace ParamQuery.Settings

open Text (isBlank trimStart)

/-! ## Reading pairs -/

/-- The value up to its closing quote, and the rest behind that. -/
def readQuoted : List Char → Option (List Char × List Char)
  | [] => .none
  | '\'' :: cs => .some ([], cs)
  | '\\' :: c :: cs => (readQuoted cs).map fun (v, rest) => (c :: v, rest)
  | c :: cs => (readQuoted cs).map fun (v, rest) => (c :: v, rest)

/-- The value up to the next blank, and the rest from there. -/
def readBare : List Char → List Char × List Char
  | [] => ([], [])
  | c :: cs =>
    if c = '\\' then
      match cs with
      | [] => ([], [])
      | d :: ds => (d :: (readBare ds).1, (readBare ds).2)
    else if isBlank c then ([], c :: cs)
    else (c :: (readBare cs).1, (readBare cs).2)

/-- A value without quotes must not be empty. -/
def readValue : List Char → Option (List Char × List Char)
  | '\'' :: cs => readQuoted cs
  | cs => if (readBare cs).1.isEmpty then .none else .some (readBare cs)

def isKeyChar (c : Char) : Bool := !isBlank c && c != '='

/-- The first pair, and the rest behind it. A key must not be empty. -/
def readPair (cs : List Char) : Option ((String × String) × List Char) :=
  let key := cs.takeWhile isKeyChar
  if key.isEmpty then .none
  else
    match trimStart (cs.dropWhile isKeyChar) with
    | '=' :: rest => (readValue (trimStart rest)).map fun (v, rest) => ((.ofList key, .ofList v), rest)
    | _ => .none

theorem length_readQuoted {cs v rest : List Char} (h : readQuoted cs = .some (v, rest)) :
    rest.length < cs.length := by
  fun_induction readQuoted cs generalizing v with
  | case1 => simp at h
  | case2 cs => simp_all
  | case3 c cs ih =>
    obtain ⟨⟨w, r⟩, hread, heq⟩ := Option.map_eq_some_iff.1 h
    obtain ⟨-, rfl⟩ := Prod.mk.inj heq
    have := ih hread
    simp only [List.length_cons]
    omega
  | case4 c cs _ _ ih =>
    obtain ⟨⟨w, r⟩, hread, heq⟩ := Option.map_eq_some_iff.1 h
    obtain ⟨-, rfl⟩ := Prod.mk.inj heq
    have := ih hread
    simp only [List.length_cons]
    omega

theorem length_readBare (cs : List Char) : (readBare cs).2.length ≤ cs.length := by
  fun_induction readBare cs with
  | case1 | case2 => simp
  | case3 d ds ih | case5 c cs _ _ ih =>
    simp only [List.length_cons]
    omega
  | case4 => simp

theorem length_trimStart (cs : List Char) : (trimStart cs).length ≤ cs.length :=
  (List.dropWhile_suffix isBlank).length_le

theorem length_readValue {cs v rest : List Char} (h : readValue cs = .some (v, rest)) :
    rest.length ≤ cs.length := by
  unfold readValue at h
  split at h
  · have := length_readQuoted h
    simp only [List.length_cons]
    omega
  · split at h
    · simp at h
    · have := length_readBare cs
      rw [Option.some.inj h] at this
      exact this

theorem length_readPair {cs rest : List Char} {p : String × String} (h : readPair cs = .some (p, rest)) :
    rest.length < cs.length := by
  have hdrop : (cs.dropWhile isKeyChar).length ≤ cs.length := (List.dropWhile_suffix isKeyChar).length_le
  have htrim := length_trimStart (cs.dropWhile isKeyChar)
  unfold readPair at h
  dsimp only at h
  split at h
  · simp at h
  · split at h
    · rename_i behind hbehind
      obtain ⟨⟨v, r⟩, hread, heq⟩ := Option.map_eq_some_iff.1 h
      obtain ⟨-, rfl : r = rest⟩ := Prod.mk.inj heq
      have := length_readValue hread
      have := length_trimStart behind
      rw [hbehind, List.length_cons] at htrim
      omega
    · simp at h

/-- All pairs of a text, if there is nothing else in it. -/
def readPairs (cs : List Char) : Option (List (String × String)) :=
  if trimStart cs = [] then .some []
  else
    match _h : readPair (trimStart cs) with
    | .some (p, rest) => (readPairs rest).map (p :: ·)
    | .none => .none
termination_by cs.length
decreasing_by
  have := length_readPair _h
  have := length_trimStart cs
  omega

/-! ## Reading what was written -/

theorem readQuoted_escaped (s rest : List Char) :
    readQuoted (s.flatMap escapeChar ++ '\'' :: rest) = .some (s, rest) := by
  induction s with
  | nil => simp [readQuoted]
  | cons c s ih =>
    by_cases hc : (c == '\'' || c == '\\') = true
    · simp [escapeChar, hc, readQuoted, ih]
    · have hc' : c ≠ '\'' ∧ c ≠ '\\' := by simpa using hc
      simp [escapeChar, hc, readQuoted, hc', ih]

theorem readBare_cons {c : Char} (hc : c ≠ '\\') (cs : List Char) :
    readBare (c :: cs) = if isBlank c then ([], c :: cs) else (c :: (readBare cs).1, (readBare cs).2) := by
  rw [readBare.eq_def]
  exact if_neg hc

/-- Nothing follows, or a blank. -/
def Separated (rest : List Char) : Prop := ∀ c ∈ rest.head?, isBlank c = true

theorem readBare_plain {s rest : List Char} (hs : ∀ c ∈ s, needsQuotes c = false) (hrest : Separated rest) :
    readBare (s ++ rest) = (s, rest) := by
  induction s with
  | nil =>
    cases rest with
    | nil => rfl
    | cons c rest =>
      have hblank : isBlank c = true := hrest c rfl
      have hc : c ≠ '\\' := by
        rintro rfl
        exact absurd hblank (by decide)
      rw [List.nil_append, readBare_cons hc, if_pos hblank]
  | cons c s ih =>
    have hc := hs c (by simp)
    simp only [needsQuotes, Bool.or_eq_false_iff, beq_eq_false_iff_ne] at hc
    have hrec := ih fun d hd => hs d (by simp [hd])
    rw [List.cons_append, readBare_cons hc.2, hc.1.1, hrec]
    rfl

/-- A value stands in quotes, with its quotes and backslashes escaped, unless it is plain. -/
theorem quoteValue_cases (s : String) :
    (quoteValue s).toList = '\'' :: s.toList.flatMap escapeChar ++ ['\''] ∨
      quoteValue s = s ∧ s.toList ≠ [] ∧ ∀ c ∈ s.toList, needsQuotes c = false := by
  unfold quoteValue
  split
  · exact .inl (String.toList_ofList)
  · rename_i hplain
    simp only [Bool.or_eq_true, not_or, List.isEmpty_iff, Bool.not_eq_true, List.any_eq_false] at hplain
    exact .inr ⟨rfl, hplain⟩

/-- A value is read as it was, and up to its end. -/
theorem readValue_quoteValue (s : String) {rest : List Char} (hrest : Separated rest) :
    readValue ((quoteValue s).toList ++ rest) = .some (s.toList, rest) := by
  rcases quoteValue_cases s with hquoted | ⟨hplain, hne, hall⟩
  · rw [hquoted]
    simpa [readValue] using readQuoted_escaped s.toList rest
  · rw [hplain]
    have hread := readBare_plain hall hrest
    unfold readValue
    split
    · rename_i cs hquote
      -- A plain value does not begin with a quote.
      obtain ⟨c, s', hs⟩ := List.exists_cons_of_ne_nil hne
      rw [hs, List.cons_append] at hquote
      have hc := hall c (by simp [hs])
      rw [(List.cons.inj hquote).1] at hc
      exact absurd hc (by decide)
    · rw [hread, if_neg (by simpa using hne)]

/-- A pair as it is written. -/
def pairText (p : String × String) : String := p.1 ++ "=" ++ quoteValue p.2

/-- A key is not empty and has neither blanks nor an equals sign. -/
def IsKey (key : String) : Prop := key.toList ≠ [] ∧ ∀ c ∈ key.toList, isKeyChar c = true

theorem trimStart_cons {c : Char} (hc : isBlank c = false) (cs : List Char) : trimStart (c :: cs) = c :: cs := by
  simp [trimStart, hc]

theorem trimStart_quoteValue (s : String) (rest : List Char) :
    trimStart ((quoteValue s).toList ++ rest) = (quoteValue s).toList ++ rest := by
  rcases quoteValue_cases s with hquoted | ⟨hplain, hne, hall⟩
  · rw [hquoted]
    exact trimStart_cons (by decide) _
  · obtain ⟨c, cs, hs⟩ := List.exists_cons_of_ne_nil hne
    have hc := hall c (by simp [hs])
    simp only [needsQuotes, Bool.or_eq_false_iff] at hc
    rw [hplain, hs]
    exact trimStart_cons hc.1.1 _

theorem trimStart_pairText {p : String × String} (hp : IsKey p.1) (rest : List Char) :
    trimStart ((pairText p).toList ++ rest) = (pairText p).toList ++ rest := by
  obtain ⟨c, key, hkey⟩ := List.exists_cons_of_ne_nil hp.1
  have hc := hp.2 c (by simp [hkey])
  simp only [isKeyChar, Bool.and_eq_true, Bool.not_eq_true'] at hc
  simp only [pairText, String.toList_append, hkey, List.cons_append]
  exact trimStart_cons hc.1 _

theorem readPair_pairText {p : String × String} (hp : IsKey p.1) {rest : List Char} (hrest : Separated rest) :
    readPair ((pairText p).toList ++ rest) = .some (p, rest) := by
  have htext : (pairText p).toList ++ rest = p.1.toList ++ '=' :: ((quoteValue p.2).toList ++ rest) := by
    simp [pairText]
  have hequals : isKeyChar '=' = false := by decide
  have hkey : p.1.toList.isEmpty = false := by simpa using hp.1
  simp only [readPair, htext, List.takeWhile_append_of_pos hp.2, List.dropWhile_append_of_pos hp.2,
    List.takeWhile_cons, List.dropWhile_cons, hequals, Bool.false_eq_true, if_false, List.append_nil, hkey,
    trimStart_cons (show isBlank '=' = false by decide), trimStart_quoteValue,
    readValue_quoteValue p.2 hrest]
  simp

/-! ## Pairs with a space between them -/

/-- The text of pairs. -/
def written (ps : List (String × String)) : List Char := [' '].intercalate (ps.map fun p => (pairText p).toList)

/-- Behind the first pair come the others, with a space in front if there are any. -/
theorem written_cons (p : String × String) (ps : List (String × String)) :
    written (p :: ps) = (pairText p).toList ++ if ps.isEmpty then [] else ' ' :: written ps := by
  cases ps with
  | nil => simp [written]
  | cons q ps =>
    rw [written, List.map_cons, List.intercalate_cons_of_ne_nil (by simp)]
    simp [written]

theorem trimStart_written {ps : List (String × String)} (hps : ∀ p ∈ ps, IsKey p.1) :
    trimStart (written ps) = written ps := by
  cases ps with
  | nil => rfl
  | cons p ps => rw [written_cons, trimStart_pairText (hps p (by simp))]

theorem readPairs_of_readPair {cs rest : List Char} {p : String × String}
    (h : readPair (trimStart cs) = .some (p, rest)) : readPairs cs = (readPairs rest).map (p :: ·) := by
  have hne : trimStart cs ≠ [] := by
    intro hnil
    simp [hnil, readPair] at h
  rw [readPairs, if_neg hne]
  split
  · rename_i p' rest' h'
    obtain ⟨rfl, rfl⟩ := Prod.mk.inj (Option.some.inj (h.symm.trans h'))
    rfl
  · rename_i h'
    simp [h] at h'

/-- **Pairs are read as they were written.** The induction is on the pairs, and reads on from the space
in front of those that are left. -/
theorem readPairs_written {ps : List (String × String)} (hps : ∀ p ∈ ps, IsKey p.1) {cs : List Char}
    (hcs : trimStart cs = written ps) : readPairs cs = .some ps := by
  induction ps generalizing cs with
  | nil =>
    have hnil : trimStart cs = [] := hcs
    rw [readPairs, if_pos hnil]
  | cons p ps ih =>
    have hps' : ∀ q ∈ ps, IsKey q.1 := fun q hq => hps q (by simp [hq])
    generalize hrest : (if ps.isEmpty then [] else ' ' :: written ps) = rest
    have hsep : Separated rest := by
      rw [← hrest]
      split
      · simp [Separated]
      · intro c hc
        obtain rfl : ' ' = c := by simpa using hc
        decide
    have hbehind : trimStart rest = written ps := by
      rw [← hrest]
      split
      · rename_i hnil
        rw [List.isEmpty_iff.1 hnil]
        rfl
      · exact trimStart_written hps'
    have hpair : readPair (trimStart cs) = .some (p, rest) := by
      rw [hcs, written_cons, hrest, readPair_pairText (hps p (by simp)) hsep]
    rw [readPairs_of_readPair hpair, ih hps' hbehind]
    rfl

/-! ## The parts of settings -/

/-- The parts that are set, by the keys that they have in a connection string. -/
def parts (s : Settings) : List (String × String) :=
  [("host", s.server?), ("dbname", s.database?), ("port", s.tcpPort?.map Number.natText),
    ("user", s.user?), ("password", s.password?), ("application_name", s.applicationName?)].filterMap
    fun p => p.2.map (p.1, ·)

theorem isKey_of_mem_parts {s : Settings} {p : String × String} (h : p ∈ s.parts) : IsKey p.1 := by
  have hkeys : ∀ key ∈ ["host", "dbname", "port", "user", "password", "application_name"],
      key.toList ≠ [] ∧ key.toList.all isKeyChar = true := by decide +kernel
  obtain ⟨⟨key, text?⟩, hmem, hsome⟩ := List.mem_filterMap.1 h
  obtain ⟨text, -, rfl⟩ := Option.map_eq_some_iff.1 hsome
  obtain ⟨hne, hall⟩ := hkeys key (List.mem_map_of_mem (f := Prod.fst) hmem)
  exact ⟨hne, List.all_eq_true.1 hall⟩

/-- Digits need no quotes. -/
theorem quoteValue_natText (n : Nat) : quoteValue (Number.natText n) = Number.natText n := by
  have hplain : ∀ c ∈ Number.digits n, needsQuotes c = false := by
    intro c hc
    have hblank : isBlank c = false := by
      refine Markers.isBlank_of_isNameChar ?_
      simp [Text.isNameChar, Char.isAlphanum, Number.isDigit_of_mem_digits hc]
    simp only [needsQuotes, hblank, Bool.false_or, Bool.or_eq_false_iff, beq_eq_false_iff_ne]
    exact ⟨Number.ne_of_mem_digits hc (by decide), Number.ne_of_mem_digits hc (by decide)⟩
  rw [quoteValue, if_neg]
  simpa [Number.natText, Number.digits_ne_nil] using hplain

theorem pairs_eq (s : Settings) : s.pairs = s.parts.map pairText := by
  have hport : (s.tcpPort?.map fun n => "port=" ++ Number.natText n) =
      (s.tcpPort?.map Number.natText).map fun v => pairText ("port", v) := by
    cases s.tcpPort? with
    | none => rfl
    | some n => simp [pairText, quoteValue_natText]
  have hmap : (fun p : String × Option String => (p.2.map (p.1, ·)).map pairText) =
      id ∘ fun p => p.2.map fun v => pairText (p.1, v) := by
    funext p
    simp [Function.comp_def]
  rw [pairs, parts, hport, List.map_filterMap, hmap, ← List.filterMap_map]
  rfl

/-- A key stands at most once, and in its order. -/
theorem keys_parts_sublist (s : Settings) :
    (s.parts.map Prod.fst).Sublist ["host", "dbname", "port", "user", "password", "application_name"] := by
  have hsublist (l : List (String × Option String)) :
      ((l.filterMap fun p => p.2.map (p.1, ·)).map Prod.fst).Sublist (l.map Prod.fst) := by
    induction l with
    | nil => exact .slnil
    | cons p l ih =>
      obtain ⟨key, text?⟩ := p
      cases text? with
      | none => exact ih.cons key
      | some text => exact ih.cons_cons key
  exact hsublist _

/-- **What the settings write is read as the parts that are set**, each by its key and with its own
text. No text adds a key. -/
theorem readPairs_connectionString {s : Settings} (hmanual : given? s.connectionString? = .none)
    (hserver : (given? s.server?).isSome = true) (hdatabase : (given? s.database?).isSome = true) :
    ∃ text, s.connectionString = .ok text ∧ readPairs text.toList = .some s.parts ∧
      (s.parts.map Prod.fst).Sublist ["host", "dbname", "port", "user", "password", "application_name"] := by
  have hkeys : ∀ p ∈ s.parts, IsKey p.1 := fun _ => isKey_of_mem_parts
  have hwritten : (" ".intercalate s.pairs).toList = written s.parts := by
    rw [String.toList_intercalate, pairs_eq, List.map_map]
    rfl
  refine ⟨" ".intercalate s.pairs, ?_, ?_, s.keys_parts_sublist⟩
  · rw [Option.isSome_iff_ne_none] at hserver hdatabase
    simp [connectionString, hmanual, hserver, hdatabase]
  · exact readPairs_written hkeys (by rw [hwritten, trimStart_written hkeys])

/-- Settings with texts that look like more of them. -/
def hostile : Settings where
  connectionString? := .some " "
  server? := .some "db one"
  tcpPort? := .some 5433
  database? := .some "it's"
  user? := .some ""
  password? := .some "x' user='root\\"
  applicationName? := .some "host=other"

theorem readPairs_hostile :
    given? hostile.connectionString? = .none ∧ (given? hostile.server?).isSome = true ∧
      (given? hostile.database?).isSome = true ∧
      ∃ text, hostile.connectionString = .ok text ∧
        readPairs text.toList =
          .some [("host", "db one"), ("dbname", "it's"), ("port", Number.natText 5433), ("user", ""),
            ("password", "x' user='root\\"), ("application_name", "host=other")] := by
  have hmanual : given? hostile.connectionString? = .none := by decide +kernel
  have hserver : (given? hostile.server?).isSome = true := by decide +kernel
  have hdatabase : (given? hostile.database?).isSome = true := by decide +kernel
  obtain ⟨text, htext, hread, -⟩ := readPairs_connectionString hmanual hserver hdatabase
  exact ⟨hmanual, hserver, hdatabase, text, htext, hread⟩

end ParamQuery.Settings
