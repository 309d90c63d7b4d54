/-
The alternatives of a list of predicates: what the chains of ANDs say, into
which the ORs of its outermost level cut it. A list says that one of its
alternatives holds (`truthOf_eq_any`), and has one more of them than it has
ORs behind its first predicate (`length_alternatives`).

When a list is put behind another, an OR in between keeps the alternatives
of both (`alternatives_append_or`); an AND in between joins the last one of
the first list with the first one of the second, and no others
(`exists_alternatives_append_and`). So behind an OR a list says that one of
the two holds; behind an AND it says that both do exactly if neither has an
OR of its own, unless the two have tests in common (`truthOf_append_and_iff`).
-/
import Mathlib.Tactic.ByContra
import ParamQuery.Proofs.Filter.Shape
import ParamQuery.Proofs.Filter.Truth

namespace ParamQuery.Filter

/-! ## One of several -/

namespace Truth

/-- One of several holds. -/
def any (ts : List Truth) : Truth := ts.foldr or .false

@[simp] theorem any_nil : any [] = .false := rfl

@[simp] theorem any_cons (t : Truth) (ts : List Truth) : any (t :: ts) = t.or (any ts) := rfl

@[simp] theorem or_false (t : Truth) : t.or .false = t := by cases t <;> rfl

theorem or_assoc (r s t : Truth) : (r.or s).or t = r.or (s.or t) := by
  cases r <;> cases s <;> cases t <;> rfl

@[simp] theorem or_self (t : Truth) : t.or t = t := by cases t <;> rfl

@[simp] theorem and_self (t : Truth) : t.and t = t := by cases t <;> rfl

theorem or_eq_true_iff {s t : Truth} : s.or t = .true ↔ s = .true ∨ t = .true := by
  cases s <;> cases t <;> simp [or]

theorem and_eq_true_iff {s t : Truth} : s.and t = .true ↔ s = .true ∧ t = .true := by
  cases s <;> cases t <;> simp [and]

theorem any_append (ts us : List Truth) : any (ts ++ us) = (any ts).or (any us) := by
  induction ts with
  | nil => rfl
  | cons t ts ih => simp [ih, or_assoc]

theorem any_eq_true_iff {ts : List Truth} : any ts = .true ↔ .true ∈ ts := by
  induction ts with
  | nil => simp
  | cons t ts ih => rw [any_cons, or_eq_true_iff, ih, List.mem_cons, eq_comm]

/-- Several that all say the same say just that. -/
theorem any_eq_of_forall {t : Truth} {ts : List Truth} (hne : ts ≠ []) (h : ∀ s ∈ ts, s = t) : any ts = t := by
  induction ts with
  | nil => exact absurd rfl hne
  | cons s ts ih =>
    obtain rfl : s = t := h s (by simp)
    by_cases hts : ts = []
    · simp [hts]
    · rw [any_cons, ih hts fun u hu => h u (by simp [hu]), or_self]

end Truth

/-! ## Alternatives -/

variable (v : Leaf → Truth)

/-- What the alternatives say, of which the first has begun with a chain that says `t`. -/
def alternativesBehind (t : Truth) (vs : List Value) : List Predicate → List Truth
  | [] => [t]
  | p :: ps =>
    let here := p.truth v (vs.take p.names.length)
    let rest := vs.drop p.names.length
    if p.connector = .or then t :: alternativesBehind here rest ps
    else alternativesBehind (t.and here) rest ps

/-- What the alternatives of a list say, whose markers stand for the literals `vs`. An empty list has
one, which keeps every row. -/
def alternatives (vs : List Value) : List Predicate → List Truth
  | [] => [.true]
  | p :: ps => alternativesBehind v (p.truth v (vs.take p.names.length)) (vs.drop p.names.length) ps

theorem truthBehind_eq_any (t : Truth) (vs : List Value) (ps : List Predicate) :
    truthBehind v t vs ps = Truth.any (alternativesBehind v t vs ps) := by
  induction ps generalizing t vs with
  | nil => simp [truthBehind, alternativesBehind]
  | cons p ps ih =>
    simp only [truthBehind, alternativesBehind]
    split
    · rw [ih, Truth.any_cons]
    · exact ih _ _

/-- A list says that one of its alternatives holds. -/
theorem truthOf_eq_any (vs : List Value) (ps : List Predicate) :
    truthOf v vs ps = Truth.any (alternatives v vs ps) := by
  cases ps with
  | nil => rfl
  | cons p ps => exact truthBehind_eq_any v _ _ ps

/-- How many predicates behind the first are joined by OR. -/
def countOrs (ps : List Predicate) : Nat := ps.tail.countP (·.connector = .or)

theorem length_alternativesBehind (t : Truth) (vs : List Value) (ps : List Predicate) :
    (alternativesBehind v t vs ps).length = ps.countP (·.connector = .or) + 1 := by
  induction ps generalizing t vs with
  | nil => rfl
  | cons p ps ih =>
    simp only [alternativesBehind, List.countP_cons]
    split
    · rename_i h
      simp [ih, h]
    · rename_i h
      simp [ih, h]

theorem length_alternatives (vs : List Value) (ps : List Predicate) :
    (alternatives v vs ps).length = countOrs ps + 1 := by
  cases ps with
  | nil => rfl
  | cons p ps => exact length_alternativesBehind v _ _ ps

theorem alternatives_leadWith (c : Connector) (vs : List Value) (ps : List Predicate) :
    alternatives v vs (leadWith c ps) = alternatives v vs ps := by
  cases ps <;> simp [leadWith, alternatives]

/-! ## A list behind another -/

/-- What comes behind a list goes on with its last alternative and leaves the others alone. -/
theorem exists_alternativesBehind_append (t : Truth) {us : List Value} {ps : List Predicate}
    (hu : us.length = (namesOf ps).length) :
    ∃ others last, alternativesBehind v t us ps = others ++ [last] ∧ ∀ vs qs,
      alternativesBehind v t (us ++ vs) (ps ++ qs) = others ++ alternativesBehind v last vs qs := by
  induction ps generalizing t us with
  | nil =>
    obtain rfl : us = [] := by simpa using hu
    exact ⟨[], t, rfl, fun vs qs => rfl⟩
  | cons p ps ih =>
    obtain ⟨hle, hrest⟩ := length_drop_names hu
    simp only [List.cons_append, alternativesBehind, List.take_append_of_le_length hle,
      List.drop_append_of_le_length hle]
    split
    · obtain ⟨others, last, halone, happend⟩ := ih (p.truth v (us.take p.names.length)) hrest
      exact ⟨t :: others, last, by rw [halone]; rfl, fun vs qs => by rw [happend]; rfl⟩
    · exact ih _ hrest

theorem exists_alternatives_append {us : List Value} {ps : List Predicate} (hps : ps ≠ [])
    (hu : us.length = (namesOf ps).length) :
    ∃ others last, alternatives v us ps = others ++ [last] ∧ ∀ vs qs,
      alternatives v (us ++ vs) (ps ++ qs) = others ++ alternativesBehind v last vs qs := by
  cases ps with
  | nil => exact absurd rfl hps
  | cons p ps =>
    obtain ⟨hle, hrest⟩ := length_drop_names hu
    simp only [List.cons_append, alternatives, List.take_append_of_le_length hle,
      List.drop_append_of_le_length hle]
    exact exists_alternativesBehind_append v _ hrest

/-- A chain of ANDs in front of a list is joined with the first alternative. -/
theorem exists_alternativesBehind_and (s : Truth) (vs : List Value) (ps : List Predicate) :
    ∃ first others, alternativesBehind v s vs ps = first :: others ∧
      ∀ t : Truth, alternativesBehind v (t.and s) vs ps = t.and first :: others := by
  induction ps generalizing s vs with
  | nil => exact ⟨s, [], rfl, fun t => rfl⟩
  | cons p ps ih =>
    simp only [alternativesBehind]
    split
    · exact ⟨s, _, rfl, fun t => rfl⟩
    · obtain ⟨first, others, halone, hand⟩ :=
        ih (s.and (p.truth v (vs.take p.names.length))) (vs.drop p.names.length)
      exact ⟨first, others, halone, fun t => by rw [Truth.and_assoc, hand]⟩

/-- **An OR in between** keeps the alternatives of both lists. -/
theorem alternatives_append_or {us : List Value} {ps qs : List Predicate} (hps : ps ≠ []) (hqs : qs ≠ [])
    (hu : us.length = (namesOf ps).length) (vs : List Value) :
    alternatives v (us ++ vs) (ps ++ leadWith .or qs) = alternatives v us ps ++ alternatives v vs qs := by
  obtain ⟨others, last, halone, happend⟩ := exists_alternatives_append v hps hu
  rw [happend, halone]
  cases qs with
  | nil => exact absurd rfl hqs
  | cons q qs =>
    simp [leadWith, alternativesBehind, alternatives, connector_withConnector]

theorem exists_alternatives_leadWith_and (vs : List Value) (ps : List Predicate) :
    ∃ first others, alternatives v vs ps = first :: others ∧
      ∀ t : Truth, alternativesBehind v t vs (leadWith .and ps) = t.and first :: others := by
  cases ps with
  | nil => exact ⟨.true, [], rfl, fun t => by simp [leadWith, alternativesBehind]⟩
  | cons p ps =>
    simpa [leadWith, alternativesBehind, alternatives, connector_withConnector] using
      exists_alternativesBehind_and v (p.truth v (vs.take p.names.length)) (vs.drop p.names.length) ps

/-- **An AND in between** joins the last alternative of the first list with the first of the second. -/
theorem exists_alternatives_append_and {us : List Value} {ps : List Predicate}
    (hu : us.length = (namesOf ps).length) (vs : List Value) (qs : List Predicate) :
    ∃ before last first behind, alternatives v us ps = before ++ [last] ∧
      alternatives v vs qs = first :: behind ∧
      alternatives v (us ++ vs) (ps ++ leadWith .and qs) = before ++ last.and first :: behind := by
  obtain ⟨first, behind, hfirst, hand⟩ := exists_alternatives_leadWith_and v vs qs
  by_cases hps : ps = []
  · subst hps
    obtain rfl : us = [] := by simpa using hu
    refine ⟨[], .true, first, behind, rfl, hfirst, ?_⟩
    rw [List.nil_append, List.nil_append, alternatives_leadWith, hfirst]
    rfl
  · obtain ⟨before, last, halone, happend⟩ := exists_alternatives_append v hps hu
    exact ⟨before, last, first, behind, halone, hfirst, by rw [happend, hand]⟩

/-! ## What they say together -/

/-- **Behind an OR, one of two lists holds.** -/
theorem truthOf_append_or {us : List Value} {ps qs : List Predicate} (hps : ps ≠ []) (hqs : qs ≠ [])
    (hu : us.length = (namesOf ps).length) (vs : List Value) :
    truthOf v (us ++ vs) (ps ++ leadWith .or qs) = (truthOf v us ps).or (truthOf v vs qs) := by
  rw [truthOf_eq_any, alternatives_append_or v hps hqs hu, Truth.any_append, ← truthOf_eq_any,
    ← truthOf_eq_any]

/-- **Behind an AND, both lists hold** for just those rows for which every alternative of the first
but its last has the second hold, and every one of the second but its first has the first hold. -/
theorem truthOf_append_and_true_iff {us : List Value} {ps : List Predicate}
    (hu : us.length = (namesOf ps).length) (vs : List Value) (qs : List Predicate) :
    (truthOf v (us ++ vs) (ps ++ leadWith .and qs) = .true ↔
        truthOf v us ps = .true ∧ truthOf v vs qs = .true) ↔
      (.true ∈ (alternatives v us ps).dropLast → truthOf v vs qs = .true) ∧
        (.true ∈ (alternatives v vs qs).tail → truthOf v us ps = .true) := by
  obtain ⟨before, last, first, behind, hps, hqs, hboth⟩ := exists_alternatives_append_and v hu vs qs
  simp only [truthOf_eq_any, hboth, hps, hqs, Truth.any_eq_true_iff, List.mem_append, List.mem_cons,
    List.not_mem_nil, or_false, List.dropLast_concat, List.tail_cons]
  have hmiddle : Truth.true = last.and first ↔ Truth.true = last ∧ Truth.true = first := by
    simpa only [eq_comm] using Truth.and_eq_true_iff
  rw [hmiddle]
  constructor
  · intro h
    exact ⟨fun hbefore => (h.1 (.inl hbefore)).2, fun hbehind => (h.1 (.inr (.inr hbehind))).1⟩
  · rintro ⟨hsecond, hfirst⟩
    constructor
    · rintro (hbefore | ⟨hl, hf⟩ | hbehind)
      · exact ⟨.inl hbefore, hsecond hbefore⟩
      · exact ⟨.inr hl, .inl hf⟩
      · exact ⟨hfirst hbehind, .inr hbehind⟩
    · rintro ⟨hbefore | hl, hf | hbehind⟩
      · exact .inl hbefore
      · exact .inl hbefore
      · exact .inr (.inl ⟨hl, hf⟩)
      · exact .inr (.inr hbehind)

/-- Lists without an OR, one behind the other with an AND in between, say that both hold. -/
theorem truthOf_append_and_of_countOrs {us : List Value} {ps qs : List Predicate}
    (hu : us.length = (namesOf ps).length) (vs : List Value) (hps : countOrs ps = 0)
    (hqs : countOrs qs = 0) :
    truthOf v (us ++ vs) (ps ++ leadWith .and qs) = (truthOf v us ps).and (truthOf v vs qs) := by
  obtain ⟨before, last, first, behind, hpa, hqa, hboth⟩ := exists_alternatives_append_and v hu vs qs
  have hbefore : before = [] := by
    have := length_alternatives v us ps
    rw [hpa, hps] at this
    simpa using this
  have hbehind : behind = [] := by
    have := length_alternatives v vs qs
    rw [hqa, hqs] at this
    simpa using this
  simp [truthOf_eq_any, hboth, hpa, hqa, hbefore, hbehind]

/-! ## Lists without a test in common -/

mutual

/-- The tests that are made in a predicate, whose markers stand for the literals `vs`. -/
def Predicate.tested (vs : List Value) : Predicate → List Leaf
  | .comparison _ column test => [⟨column, test.form, vs⟩]
  | .group _ children => testedOf vs children

/-- The tests that are made in a list of predicates. -/
def testedOf (vs : List Value) : List Predicate → List Leaf
  | [] => []
  | p :: ps => p.tested (vs.take p.names.length) ++ testedOf (vs.drop p.names.length) ps

end

/-- A list whose alternatives all say the same says just that. -/
theorem truthOf_of_alternatives {t : Truth} {vs : List Value} {ps : List Predicate}
    (h : ∀ s ∈ alternatives v vs ps, s = t) : truthOf v vs ps = t := by
  have hpos : 0 < (alternatives v vs ps).length := by
    rw [length_alternatives]
    exact Nat.succ_pos _
  rw [truthOf_eq_any]
  exact Truth.any_eq_of_forall (List.length_pos_iff.1 hpos) h

mutual

/-- Tests that all say the same make everything say it. -/
theorem truth_of_tested {t : Truth} (vs : List Value) :
    ∀ p : Predicate, (∀ q ∈ p.nodes, q.IsFilled) → (∀ leaf ∈ p.tested vs, v leaf = t) → p.truth v vs = t
  | .comparison _ column test, _, h => by simpa [Predicate.truth, Predicate.tested] using h
  | .group c children, hfilled, h => by
    have hne : children ≠ [] := hfilled (.group c children) (by simp [Predicate.nodes])
    rw [Predicate.tested] at h
    rw [Predicate.truth]
    exact truthOf_of_alternatives v
      (alternatives_of_tested vs children hne (fun q hq => hfilled q (by simp [Predicate.nodes, hq])) h)

theorem alternatives_of_tested {t : Truth} (vs : List Value) :
    ∀ ps : List Predicate, ps ≠ [] → (∀ q ∈ nodesOf ps, q.IsFilled) →
      (∀ leaf ∈ testedOf vs ps, v leaf = t) → ∀ s ∈ alternatives v vs ps, s = t
  | [], hne, _, _ => absurd rfl hne
  | p :: ps, _, hfilled, h => by
    simp only [nodesOf, List.mem_append, testedOf] at hfilled h
    rw [alternatives, truth_of_tested _ p (fun q hq => hfilled q (.inl hq)) fun leaf hl => h leaf (.inl hl)]
    exact alternativesBehind_of_tested _ ps (fun q hq => hfilled q (.inr hq)) fun leaf hl => h leaf (.inr hl)

theorem alternativesBehind_of_tested {t : Truth} (vs : List Value) :
    ∀ ps : List Predicate, (∀ q ∈ nodesOf ps, q.IsFilled) → (∀ leaf ∈ testedOf vs ps, v leaf = t) →
      ∀ s ∈ alternativesBehind v t vs ps, s = t
  | [], _, _ => by simp [alternativesBehind]
  | p :: ps, hfilled, h => by
    simp only [nodesOf, List.mem_append, testedOf] at hfilled h
    have hrest := alternativesBehind_of_tested (vs.drop p.names.length) ps
      (fun q hq => hfilled q (.inr hq)) fun leaf hl => h leaf (.inr hl)
    simp only [alternativesBehind, truth_of_tested _ p (fun q hq => hfilled q (.inl hq))
      fun leaf hl => h leaf (.inl hl), Truth.and_self]
    split
    · simpa using hrest
    · exact hrest

end

theorem mem_of_forall_eq {t : Truth} {ts : List Truth} (hpos : 0 < ts.length) (h : ∀ s ∈ ts, s = t) : t ∈ ts := by
  cases ts with
  | nil => exact absurd hpos (by simp)
  | cons s ts => simp [h s (by simp)]

open Classical in
/-- Lists without a test in common can be told apart: all alternatives of the first hold, and none of
the second. -/
theorem exists_assignment {us vs : List Value} {ps qs : List Predicate} (hps : ps ≠ []) (hqs : qs ≠ [])
    (hpfilled : ∀ p ∈ nodesOf ps, p.IsFilled) (hqfilled : ∀ q ∈ nodesOf qs, q.IsFilled)
    (happart : ∀ leaf ∈ testedOf us ps, leaf ∉ testedOf vs qs) :
    ∃ v : Leaf → Truth, (∀ s ∈ alternatives v us ps, s = .true) ∧ ∀ s ∈ alternatives v vs qs, s = .false := by
  let v : Leaf → Truth := fun leaf => if leaf ∈ testedOf us ps then .true else .false
  refine ⟨v, ?_, ?_⟩
  · exact alternatives_of_tested v us ps hps hpfilled fun leaf hl => if_pos hl
  · exact alternatives_of_tested v vs qs hqs hqfilled fun leaf hl => if_neg fun hl' => happart leaf hl' hl

/-- **Without a test in common**, lists that have content say behind an AND that both hold, for every
assignment, exactly if neither has an OR on its outermost level. -/
theorem truthOf_append_and_iff {us vs : List Value} {ps qs : List Predicate}
    (hu : us.length = (namesOf ps).length) (hps : ps ≠ []) (hqs : qs ≠ [])
    (hpfilled : ∀ p ∈ nodesOf ps, p.IsFilled) (hqfilled : ∀ q ∈ nodesOf qs, q.IsFilled)
    (happart : ∀ leaf ∈ testedOf us ps, leaf ∉ testedOf vs qs) :
    (∀ v : Leaf → Truth, truthOf v (us ++ vs) (ps ++ leadWith .and qs) = .true ↔
        truthOf v us ps = .true ∧ truthOf v vs qs = .true) ↔
      countOrs ps = 0 ∧ countOrs qs = 0 := by
  constructor
  · -- An alternative that takes no part in the AND would hold for a row that the other list drops.
    intro h
    refine ⟨?_, ?_⟩
    · by_contra hor
      obtain ⟨v, htrue, hfalse⟩ := exists_assignment hps hqs hpfilled hqfilled happart
      have hmem : Truth.true ∈ (alternatives v us ps).dropLast := by
        refine mem_of_forall_eq ?_ fun s hs => htrue s (List.dropLast_subset _ hs)
        rw [List.length_dropLast, length_alternatives]
        omega
      have hq := ((truthOf_append_and_true_iff v hu vs qs).1 (h v)).1 hmem
      rw [truthOf_of_alternatives v hfalse] at hq
      exact absurd hq (by decide)
    · by_contra hor
      obtain ⟨v, htrue, hfalse⟩ :=
        exists_assignment hqs hps hqfilled hpfilled fun leaf hq hp => happart leaf hp hq
      have hmem : Truth.true ∈ (alternatives v vs qs).tail := by
        refine mem_of_forall_eq ?_ fun s hs => htrue s (List.mem_of_mem_tail hs)
        rw [List.length_tail, length_alternatives]
        omega
      have hp := ((truthOf_append_and_true_iff v hu vs qs).1 (h v)).2 hmem
      rw [truthOf_of_alternatives v hfalse] at hp
      exact absurd hp (by decide)
  · rintro ⟨hp, hq⟩ v
    rw [truthOf_append_and_of_countOrs v hu vs hp hq, Truth.and_eq_true_iff]

end ParamQuery.Filter
