/-
What a list of predicates says: its truth, given that of the tests in it.

Tests may be neither true nor false, and are joined as Kleene joins them.
AND binds tighter than OR, and a group stands for its own truth. The
markers stand for literals in reading order, so what a test says depends on
its column, its form and its literals, and not on how parameters are called.

`truthOf_conjoin`: joining two lists says that both hold, whatever
connectors they have inside.
-/
import ParamQuery.Proofs.Filter.Reading

namespace ParamQuery.Filter

/-! ## Truth values -/

/-- What a test can say of a row. -/
inductive Truth where
  | false
  | unknown
  | true
  deriving DecidableEq, Repr

namespace Truth

/-- Both hold. -/
def and : Truth → Truth → Truth
  | .false, _ => .false
  | .true, t => t
  | .unknown, .false => .false
  | .unknown, _ => .unknown

/-- One of two holds. -/
def or : Truth → Truth → Truth
  | .true, _ => .true
  | .false, t => t
  | .unknown, .true => .true
  | .unknown, _ => .unknown

/-- All hold. -/
def all (ts : List Truth) : Truth := ts.foldr and .true

@[simp] theorem true_and (t : Truth) : Truth.true.and t = t := rfl

@[simp] theorem and_true (t : Truth) : t.and .true = t := by cases t <;> rfl

theorem and_assoc (r s t : Truth) : (r.and s).and t = r.and (s.and t) := by
  cases r <;> cases s <;> cases t <;> rfl

@[simp] theorem all_nil : all [] = .true := rfl

@[simp] theorem all_cons (t : Truth) (ts : List Truth) : all (t :: ts) = t.and (all ts) := rfl

end Truth

/-! ## Reading predicates -/

/-- What a test tests for, apart from its markers. -/
inductive TestForm where
  | compare (op : Comparator)
  | isNull
  | notNull
  | is (word : Keyword)
  | not (word : Keyword)
  | between
  | member (negated : Bool)
  deriving DecidableEq, Repr

/-- The form of a test. -/
def Test.form : Test → TestForm
  | .compare op _ => .compare op
  | .isNull => .isNull
  | .notNull => .notNull
  | .is word => .is word
  | .not word => .not word
  | .between _ _ => .between
  | .member _ negated => .member negated

/-- A test with the literals that its markers stand for. -/
structure Leaf where
  column : String
  form : TestForm
  literals : List Value

variable (v : Leaf → Truth)

mutual

/-- The truth of a predicate, whose markers stand for the literals `vs`. -/
def Predicate.truth (vs : List Value) : Predicate → Truth
  | .comparison _ column test => v ⟨column, test.form, vs⟩
  | .group _ children => truthOf vs children

/-- The truth of a list of predicates, whose markers stand for the literals `vs` in reading order.
An empty list keeps every row. The connector of the first predicate joins nothing. -/
def truthOf (vs : List Value) : List Predicate → Truth
  | [] => .true
  | p :: ps => truthBehind (p.truth (vs.take p.names.length)) (vs.drop p.names.length) ps

/-- The truth of predicates behind a chain of ANDs that says `t`. An OR ends the chain, and begins
one of its own; anything else goes on with it. -/
def truthBehind (t : Truth) (vs : List Value) : List Predicate → Truth
  | [] => t
  | p :: ps =>
    let here := p.truth (vs.take p.names.length)
    let rest := vs.drop p.names.length
    if p.connector = .or then t.or (truthBehind here rest ps) else truthBehind (t.and here) rest ps

end

/-- What a filter says, whose markers stand for its parameters. -/
def truth (f : Filter) : Truth := truthOf v f.params.values f.predicates

/-! ## Names do not count -/

theorem Condition.form_test (column : String) (n m : Nat) (condition : Condition) :
    (condition.test column n).form = (condition.test column m).form := by
  cases condition <;> rfl

@[simp] theorem length_names_predicate (c : Connector) (n : Nat) (e : Element) :
    (e.predicate c n).names.length = e.slots.length := by
  rw [names_predicate, Slots.length_names_number]

mutual

theorem truth_predicate (vs : List Value) (c d : Connector) (n m : Nat) :
    ∀ e : Element, (e.predicate c n).truth v vs = (e.predicate d m).truth v vs
  | .test link column condition => by
    simp only [Element.predicate, Predicate.truth, condition.form_test column n m]
  | .group link es => by
    simpa [Element.predicate, Predicate.truth] using truthOf_predicatesOf vs .none .none n m es

/-- An outline says the same wherever its numbers start, and whatever stands in front of it. -/
theorem truthOf_predicatesOf (vs : List Value) (c d : Connector) (n m : Nat) :
    ∀ es : List Element, truthOf v vs (predicatesOf c n es) = truthOf v vs (predicatesOf d m es)
  | [] => rfl
  | e :: es => by
    simp only [predicatesOf, truthOf, length_names_predicate, truth_predicate _ c d n m e]
    exact truthBehind_predicatesBehind _ _ _ _ es

theorem truthBehind_predicatesBehind (t : Truth) (vs : List Value) (n m : Nat) :
    ∀ es : List Element,
      truthBehind v t vs (predicatesBehind n es) = truthBehind v t vs (predicatesBehind m es)
  | [] => rfl
  | e :: es => by
    simp only [predicatesBehind, truthBehind, length_names_predicate, Element.connector_predicate,
      truth_predicate _ e.connector e.connector n m e]
    split
    · rw [truthBehind_predicatesBehind _ _ _ _ es]
    · exact truthBehind_predicatesBehind _ _ _ _ es

end

/-! ## Literals in order -/

/-- Literals behind those of the list do not count. -/
theorem truthBehind_take (t : Truth) (vs : List Value) (ps : List Predicate) :
    truthBehind v t (vs.take (namesOf ps).length) ps = truthBehind v t vs ps := by
  induction ps generalizing t vs with
  | nil => rfl
  | cons p ps ih =>
    have hhere : (vs.take (namesOf (p :: ps)).length).take p.names.length = vs.take p.names.length := by
      rw [List.take_take]
      congr 1
      simp
    have hrest : (vs.take (namesOf (p :: ps)).length).drop p.names.length =
        (vs.drop p.names.length).take (namesOf ps).length := by
      rw [List.drop_take]
      congr 1
      simp
    simp only [truthBehind, hhere, hrest, ih]

theorem truthOf_take (vs : List Value) (ps : List Predicate) :
    truthOf v (vs.take (namesOf ps).length) ps = truthOf v vs ps := by
  cases ps with
  | nil => rfl
  | cons p ps =>
    simp only [truthOf, namesOf_cons, List.length_append]
    rw [List.take_take, List.drop_take, Nat.min_eq_left (Nat.le_add_right _ _), Nat.add_sub_cancel_left,
      truthBehind_take]

theorem truthOf_append_values {us : List Value} {ps : List Predicate}
    (h : us.length = (namesOf ps).length) (vs : List Value) :
    truthOf v (us ++ vs) ps = truthOf v us ps := by
  rw [← truthOf_take, ← h, List.take_left']
  rfl

/-- The literals of the first predicate are among those of a list, and the others are left. -/
theorem length_drop_names {us : List Value} {p : Predicate} {ps : List Predicate}
    (h : us.length = (namesOf (p :: ps)).length) :
    p.names.length ≤ us.length ∧ (us.drop p.names.length).length = (namesOf ps).length := by
  rw [namesOf_cons, List.length_append] at h
  rw [List.length_drop]
  omega

/-! ## Lists joined by AND -/

/-- Whether a predicate is joined to the one before it by AND. -/
def AllAnd (ps : List Predicate) : Prop := ∀ p ∈ ps, p.connector = .and

theorem truthBehind_allAnd {ps : List Predicate} (h : AllAnd ps) (t : Truth) (vs : List Value) :
    truthBehind v t vs ps = t.and (truthOf v vs ps) := by
  induction ps generalizing t vs with
  | nil => simp [truthBehind, truthOf]
  | cons p ps ih =>
    have hp : p.connector = .and := h p (by simp)
    have hps : AllAnd ps := fun q hq => h q (by simp [hq])
    simp only [truthBehind, truthOf, hp, reduceCtorEq, if_false, ih hps, Truth.and_assoc]

/-- A list whose predicates are all joined by AND, in front of another such list. -/
theorem truthOf_append {ps qs : List Predicate} (hps : AllAnd ps.tail) (hqs : AllAnd qs)
    {us : List Value} (hu : us.length = (namesOf ps).length) (vs : List Value) :
    truthOf v (us ++ vs) (ps ++ qs) = (truthOf v us ps).and (truthOf v vs qs) := by
  -- An OR would end the chain that the second list goes on with, so both lists must be free of it.
  induction ps generalizing us with
  | nil =>
    have : us = [] := by simpa using hu
    simp [this, truthOf]
  | cons p ps ih =>
    have hall : AllAnd (ps ++ qs) := fun r hr => by
      rcases List.mem_append.1 hr with hr | hr
      · exact hps r hr
      · exact hqs r hr
    have hps' : AllAnd ps := hps
    have htail : AllAnd ps.tail := fun r hr => hps' r (List.mem_of_mem_tail hr)
    obtain ⟨hle, hrest⟩ := length_drop_names hu
    simp only [List.cons_append, truthOf]
    rw [truthBehind_allAnd v hall, truthBehind_allAnd v hps', List.take_append_of_le_length hle,
      List.drop_append_of_le_length hle, ih htail hrest, Truth.and_assoc]

@[simp] theorem truth_withConnector (c : Connector) (vs : List Value) (p : Predicate) :
    (p.withConnector c).truth v vs = p.truth v vs := by
  cases p <;> simp [Predicate.withConnector, Predicate.truth]

theorem truthOf_leadWith (c : Connector) (vs : List Value) (ps : List Predicate) :
    truthOf v vs (leadWith c ps) = truthOf v vs ps := by
  cases ps <;> simp [leadWith, truthOf]

/-- Parentheses around a whole list change nothing. -/
theorem truthOf_enclose (c : Connector) (vs : List Value) (ps : List Predicate) :
    truthOf v vs (enclose c ps) = truthOf v vs ps := by
  unfold enclose
  split
  · simp only [truthOf, truthBehind, Predicate.truth, names_group, namesOf_leadWith, truthOf_leadWith,
      truthOf_take]
  · exact truthOf_leadWith v c vs ps

/-- What is enclosed behind the first predicate is joined by AND. -/
theorem allAnd_tail_enclose (c : Connector) (ps : List Predicate) : AllAnd (enclose c ps).tail := by
  unfold enclose
  split
  · simp [AllAnd]
  · rename_i h
    simp only [isMixed, Bool.not_eq_true, List.any_eq_false, bne_iff_ne, ne_eq, Decidable.not_not] at h
    cases ps with
    | nil => simp [leadWith, AllAnd]
    | cons p ps => simpa [leadWith, AllAnd] using h

theorem allAnd_enclose (ps : List Predicate) : AllAnd (enclose .and ps) := by
  have htail := allAnd_tail_enclose .and ps
  have hhead : ∀ p ∈ (enclose .and ps).head?, p.connector = .and := by
    unfold enclose
    split
    · simp [Predicate.connector]
    · cases ps <;> simp [leadWith, connector_withConnector]
  intro p hp
  cases he : enclose .and ps with
  | nil => simp [he] at hp
  | cons q qs =>
    rw [he] at hp htail hhead
    rcases List.mem_cons.1 hp with rfl | hp
    · exact hhead _ rfl
    · exact htail p hp

/-- **Joining says that both hold.** -/
theorem truthOf_conjoin {ps : List Predicate} {us : List Value} (hu : us.length = (namesOf ps).length)
    (vs : List Value) (qs : List Predicate) :
    truthOf v (us ++ vs) (conjoin ps qs) = (truthOf v us ps).and (truthOf v vs qs) := by
  rw [conjoin_eq]
  by_cases hqs : qs = []
  · subst hqs
    rw [if_pos rfl, truthOf_append_values v hu]
    simp [truthOf]
  · rw [if_neg hqs]
    by_cases hps : ps = []
    · subst hps
      have : us = [] := by simpa using hu
      rw [if_pos rfl, truthOf_leadWith, this]
      simp [truthOf]
    · rw [if_neg hps, truthOf_append v (allAnd_tail_enclose _ _) (allAnd_enclose _)
        (by rw [namesOf_enclose]; exact hu), truthOf_enclose, truthOf_enclose]

end ParamQuery.Filter
