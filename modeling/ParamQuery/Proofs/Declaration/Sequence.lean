/-
The options of a field as one sequence.

However many attributes a field has, its options count as if they stood in
one row: whether they are read on top of each other or each attribute alone
(`FieldOptions.ofAttributes_eq_merged`), they are taken one after the other
(`FieldOptions.ofAttributes_eq_takeAll`). So the last of each key counts, one
improper option spoils the field (`member?_eq_ok_iff`) and with it the
structure, and which attribute holds an option does not matter
(`recorded_once`).
-/
import Mathlib.Data.List.Forall2
import ParamQuery.Proofs.Declaration.WellFormed

namespace ParamQuery.Declaration

open Text (isBlankText)

/-! ## Options as they are written -/

/-- An option as it is written: a word, and perhaps a text behind an equals sign. -/
structure WrittenOption where
  key : String
  value? : Option String
  deriving DecidableEq

namespace WrittenOption

/-- The tokens that an option is. -/
inductive IsWritten : WrittenOption → List Token → Prop
  | word (key : String) : IsWritten ⟨key, .none⟩ [.word key]
  | setting (key value : String) (joined : Bool) :
      IsWritten ⟨key, .some value⟩ [.word key, .mark '=' joined, .text value]

/-- Options with commas between them, and perhaps one behind the last. -/
inductive AreWritten : List WrittenOption → List Token → Prop
  | nil : AreWritten [] []
  | last {x : WrittenOption} {ts : List Token} (written : x.IsWritten ts) : AreWritten [x] ts
  | cons {x : WrittenOption} {xs : List WrittenOption} {ts rest : List Token} {joined : Bool}
      (written : x.IsWritten ts) (others : AreWritten xs rest) :
      AreWritten (x :: xs) (ts ++ .mark ',' joined :: rest)

/-- The wish to be left out. -/
def leaveOut : WrittenOption := ⟨"skip", .none⟩

/-- The wish to be left out, or a column or a name that is not blank. -/
def IsProper (x : WrittenOption) : Prop :=
  x = leaveOut ∨ ∃ value, (x = ⟨"column", .some value⟩ ∨ x = ⟨"name", .some value⟩) ∧ isBlankText value = false

/-- What options with a text set. -/
def pairs (xs : List WrittenOption) : List (String × String) :=
  xs.filterMap fun x => x.value?.map (x.key, ·)

/-- The options among tokens. -/
def among : List Token → List WrittenOption
  | .word key :: .mark '=' _ :: .text value :: ts => ⟨key, .some value⟩ :: among ts
  | .word key :: ts => ⟨key, .none⟩ :: among ts
  | _ :: ts => among ts
  | [] => []

theorem pairs_among (ts : List Token) : pairs (among ts) = settings ts := by
  fun_induction among ts with
  | case1 key joined value ts ih => simpa [pairs, settings] using ih
  | case2 key ts hsetting ih =>
    rw [settings]
    · simpa [pairs] using ih
    · exact fun _ joined value rest _ hts => hsetting joined value rest hts
  | case3 t ts hsetting hword ih =>
    rw [settings]
    · exact ih
    · exact hsetting
  | case4 => rfl

/-- Tokens are the written form of one list of options at most. -/
theorem among_of_areWritten {xs : List WrittenOption} {ts : List Token} (h : AreWritten xs ts) : among ts = xs := by
  induction h with
  | nil => rfl
  | last hx => cases hx <;> rfl
  | cons hx _ ih =>
    cases hx with
    | word key => simp [among, ih]
    | setting key value joined => simp [among, ih]

end WrittenOption

/-! ## One option after the other -/

namespace FieldOptions

open WrittenOption (AreWritten leaveOut pairs)

/-- Takes an option on top of those taken before. -/
def take (o : FieldOptions) (x : WrittenOption) : Except Fault FieldOptions :=
  if !Token.isName x.key then .error .malformed
  else if x.key = "skip" then
    match x.value? with
    | .none => .ok { o with skip := true }
    | .some _ => .error .malformed
  else
    match x.value? with
    | .none => .error .malformed
    | .some value => o.withValue x.key value

/-- Takes options one after the other. -/
def takeAll : FieldOptions → List WrittenOption → Except Fault FieldOptions
  | o, [] => .ok o
  | o, x :: xs => (o.take x).bind (takeAll · xs)

theorem takeAll_append (o : FieldOptions) (xs ys : List WrittenOption) :
    o.takeAll (xs ++ ys) = (o.takeAll xs).bind (takeAll · ys) := by
  induction xs generalizing o with
  | nil => rfl
  | cons x xs ih =>
    rw [List.cons_append, takeAll, takeAll]
    cases o.take x with
    | error e => rfl
    | ok o' => exact ih o'

variable {o o' : FieldOptions} {x : WrittenOption} {xs : List WrittenOption} {ts : List Token}

theorem isName_skip : Token.isName "skip" = true := by decide

theorem read_last (h : x.IsWritten ts) (fuel : Nat) (o : FieldOptions) : read (fuel + 1) o ts = o.take x := by
  cases h with
  | word key =>
    simp only [read, readOption, take]
    by_cases hskip : key = "skip"
    · simp [hskip, isName_skip]
    · by_cases hname : Token.isName key = true <;> simp [hname, hskip]
  | setting key value joined =>
    simp only [read, readOption, take]
    by_cases hskip : key = "skip"
    · simp [hskip, isName_skip]
    · by_cases hname : Token.isName key = true
      · cases o.withValue key value <;> simp [hname, hskip, Except.map]
      · simp [hname]

theorem read_comma (h : x.IsWritten ts) (fuel : Nat) (o : FieldOptions) (joined : Bool) (rest : List Token) :
    read (fuel + 1) o (ts ++ .mark ',' joined :: rest) = (o.take x).bind (read fuel · rest) := by
  cases h with
  | word key =>
    simp only [List.singleton_append, read, readOption, take]
    by_cases hskip : key = "skip"
    · simp [hskip, isName_skip, Except.bind]
    · by_cases hname : Token.isName key = true <;> simp [hname, hskip, Except.bind]
  | setting key value joined =>
    simp only [List.cons_append, List.nil_append, read, readOption, take]
    by_cases hskip : key = "skip"
    · simp [hskip, isName_skip, Except.bind]
    · by_cases hname : Token.isName key = true
      · cases o.withValue key value <;> simp [hname, hskip, Except.map, Except.bind]
      · simp [hname, Except.bind]

/-- The options of one attribute are taken one after the other. -/
theorem read_eq_takeAll (h : AreWritten xs ts) {fuel : Nat} (hfuel : ts.length < fuel) (o : FieldOptions) :
    read fuel o ts = o.takeAll xs := by
  induction h generalizing fuel o with
  | nil =>
    obtain ⟨fuel, rfl⟩ := Nat.exists_eq_succ_of_ne_zero (by omega : fuel ≠ 0)
    rfl
  | last hx =>
    obtain ⟨fuel, rfl⟩ := Nat.exists_eq_succ_of_ne_zero (by omega : fuel ≠ 0)
    rw [read_last hx, takeAll]
    cases o.take _ <;> rfl
  | cons hx _ ih =>
    obtain ⟨fuel, rfl⟩ := Nat.exists_eq_succ_of_ne_zero (by omega : fuel ≠ 0)
    rw [List.length_append, List.length_cons] at hfuel
    rw [read_comma hx, takeAll]
    cases o.take _ with
    | error e => rfl
    | ok o' => exact ih (by omega) o'

theorem exists_of_readOption {rest : List Token} (h : readOption o ts = .ok (o', rest)) :
    ∃ x written, WrittenOption.IsWritten x written ∧ ts = written ++ rest := by
  rcases readOption_eq h with ⟨hts, -⟩ | ⟨key, value, joined, hts, -⟩
  · exact ⟨_, _, .word "skip", hts⟩
  · exact ⟨_, _, .setting key value joined, hts⟩

/-- Tokens that are accepted are the written form of options. -/
theorem exists_of_read {fuel : Nat} (h : read fuel o ts = .ok o') : ∃ xs, AreWritten xs ts := by
  induction fuel generalizing o ts with
  | zero => simp [read] at h
  | succ fuel ih =>
    cases ts with
    | nil => exact ⟨[], .nil⟩
    | cons t ts =>
      rw [read] at h
      split at h
      · cases h
      · rename_i first hfirst
        obtain ⟨x, written, hx, hts⟩ := exists_of_readOption hfirst
        rw [hts, List.append_nil]
        exact ⟨[x], .last hx⟩
      · rename_i first joined rest hfirst
        obtain ⟨x, written, hx, hts⟩ := exists_of_readOption hfirst
        obtain ⟨xs, hxs⟩ := ih h
        rw [hts]
        exact ⟨x :: xs, .cons hx hxs⟩
      · cases h
      · simp

theorem withValue_eq_ok_iff {key value : String} :
    o.withValue key value = .ok o' ↔
      (key = "column" ∨ key = "name") ∧ isBlankText value = false ∧ o' = o.given [(key, value)] false := by
  constructor
  · intro h
    refine ⟨?_, withValue_eq h⟩
    rw [withValue] at h
    split at h
    · cases h
    · split at h
      · exact .inl ‹_›
      · split at h
        · exact .inr ‹_›
        · cases h
  · rintro ⟨rfl | rfl, hblank, rfl⟩
    · simp [withValue, hblank, given, lastValue?]
    · simp [withValue, hblank, given, lastValue?]

theorem take_of_isProper (h : x.IsProper) (o : FieldOptions) :
    o.take x = .ok (o.given (pairs [x]) (decide (x = leaveOut))) := by
  have hsetting {key value : String} (hkey : key = "column" ∨ key = "name") (hblank : isBlankText value = false) :
      o.take ⟨key, .some value⟩ = .ok (o.given [(key, value)] false) := by
    have hname : Token.isName key = true ∧ key ≠ "skip" := by
      rcases hkey with rfl | rfl <;> decide
    simp only [take, hname, if_false, Bool.not_true]
    exact withValue_eq_ok_iff.2 ⟨hkey, hblank, rfl⟩
  rcases h with rfl | ⟨value, rfl | rfl, hblank⟩
  · simp [take, leaveOut, isName_skip, pairs, given, lastValue?]
  · exact hsetting (.inl rfl) hblank
  · exact hsetting (.inr rfl) hblank

theorem isProper_of_take (h : o.take x = .ok o') : x.IsProper := by
  obtain ⟨key, value?⟩ := x
  rw [take] at h
  split at h
  · cases h
  · split at h
    · rename_i hskip
      cases value? with
      | none => exact .inl (by rw [leaveOut, ← hskip])
      | some value => cases h
    · cases value? with
      | none => cases h
      | some value =>
        obtain ⟨hkey, hblank, -⟩ := withValue_eq_ok_iff.1 h
        exact .inr ⟨value, by rcases hkey with rfl | rfl <;> simp, hblank⟩

theorem pairs_cons (x : WrittenOption) (xs : List WrittenOption) : pairs (x :: xs) = pairs [x] ++ pairs xs :=
  List.filterMap_append (l := [x])

/-- Options are taken exactly if all are proper, and then the last of each key counts. -/
theorem takeAll_eq_ok_iff :
    o.takeAll xs = .ok o' ↔ (∀ x ∈ xs, x.IsProper) ∧ o' = o.given (pairs xs) (decide (leaveOut ∈ xs)) := by
  induction xs generalizing o with
  | nil => simp [takeAll, pairs, given_nil, eq_comm]
  | cons x xs ih =>
    have hgiven : o.given (pairs (x :: xs)) (decide (leaveOut ∈ x :: xs)) =
        (o.given (pairs [x]) (decide (x = leaveOut))).given (pairs xs) (decide (leaveOut ∈ xs)) := by
      rw [given_append, ← pairs_cons]
      simp [eq_comm]
    rw [takeAll, hgiven, List.forall_mem_cons, and_assoc]
    cases htake : o.take x with
    | error e =>
      have hproper : ¬ x.IsProper := fun hx => by
        rw [take_of_isProper hx] at htake
        cases htake
      simp [Except.bind, hproper]
    | ok first =>
      have hproper := isProper_of_take htake
      rw [take_of_isProper hproper] at htake
      rw [Except.bind, ih, ← Except.ok.inj htake]
      simp [hproper]

end FieldOptions

/-! ## Attributes -/

open WrittenOption (AreWritten leaveOut pairs among among_of_areWritten)

/-- The options that attributes give, in order; other attributes are passed over. -/
inductive AreGiven : List WrittenOption → List Attribute → Prop
  | nil : AreGiven [] []
  | other {a : Attribute} {xs : List WrittenOption} {as : List Attribute} (other : a.givesOptions = false)
      (rest : AreGiven xs as) : AreGiven xs (a :: as)
  | cons {a : Attribute} {ts : List Token} {xs ys : List WrittenOption} {as : List Attribute}
      (gives : a.givesOptions = true) (arguments : a.arguments? = .some ts) (written : AreWritten xs ts)
      (rest : AreGiven ys as) : AreGiven (xs ++ ys) (a :: as)

/-- The options among the arguments of attributes. -/
def optionsOf (as : List Attribute) : List WrittenOption :=
  (as.filter Attribute.givesOptions).flatMap fun a => among (a.arguments?.getD [])

variable {xs : List WrittenOption} {as : List Attribute}

theorem AreGiven.optionsOf_eq (h : AreGiven xs as) : optionsOf as = xs := by
  induction h with
  | nil => rfl
  | other hother _ ih => rwa [optionsOf, List.filter_cons_of_neg (by simp [hother])]
  | cons hgives harguments hwritten _ ih =>
    rw [optionsOf, List.filter_cons_of_pos hgives, List.flatMap_cons, harguments, Option.getD_some,
      among_of_areWritten hwritten]
    exact congrArg _ ih

namespace FieldOptions

/-- Whichever attributes give the options, they are taken one after the other. -/
theorem ofAttributes_eq_takeAll (h : AreGiven xs as) (o : FieldOptions) : ofAttributes o as = o.takeAll xs := by
  induction h generalizing o with
  | nil => rfl
  | other hother _ ih => rw [ofAttributes, if_neg (by simp [hother]), ih]
  | @cons a ts xs ys as hgives harguments hwritten _ ih =>
    have hts : a.arguments = .ok ts := by rw [Attribute.arguments, harguments]
    rw [ofAttributes, if_pos hgives, hts, takeAll_append]
    simp only [read_eq_takeAll hwritten (Nat.lt_succ_self _)]
    cases o.takeAll xs with
    | error e => rfl
    | ok o' => exact ih o'

theorem exists_of_ofAttributes {o o' : FieldOptions} (h : ofAttributes o as = .ok o') : ∃ xs, AreGiven xs as := by
  induction as generalizing o with
  | nil => exact ⟨[], .nil⟩
  | cons a as ih =>
    rw [ofAttributes] at h
    split at h
    · rename_i hgives
      rw [Attribute.arguments] at h
      cases harguments : a.arguments? with
      | none => simp [harguments] at h
      | some ts =>
        simp only [harguments] at h
        split at h
        · cases h
        · rename_i first hread
          obtain ⟨xs, hxs⟩ := exists_of_read hread
          obtain ⟨ys, hys⟩ := ih h
          exact ⟨xs ++ ys, .cons hgives harguments hxs hys⟩
    · rename_i hgives
      obtain ⟨ys, hys⟩ := ih h
      exact ⟨ys, .other (by simpa using hgives) hys⟩

end FieldOptions

/-! ### Each attribute alone -/

namespace FieldOptions

/-- Options on top of which those of another attribute come. -/
def merge (o later : FieldOptions) : FieldOptions where
  column? := later.column?.or o.column?
  name? := later.name?.or o.name?
  skip := o.skip || later.skip

/-- The options of attributes, each of which is read alone. -/
def merged : FieldOptions → List Attribute → Except Fault FieldOptions
  | o, [] => .ok o
  | o, a :: as =>
    if a.givesOptions then
      match a.arguments.bind fun ts => read (ts.length + 1) .none ts with
      | .error e => .error e
      | .ok later => merged (o.merge later) as
    else merged o as

theorem merge_none (o : FieldOptions) : o.merge .none = o := by
  simp [merge, none]

theorem withValue_merge (o later : FieldOptions) (key value : String) :
    (o.merge later).withValue key value = (later.withValue key value).map o.merge := by
  rw [withValue, withValue]
  split
  · rfl
  · split
    · rfl
    · split <;> rfl

theorem readOption_merge (o later : FieldOptions) (ts : List Token) :
    readOption (o.merge later) ts = (readOption later ts).map (Prod.map o.merge id) := by
  unfold readOption
  split
  · split
    · rfl
    · split
      · simp [Except.map, merge]
      · split
        · rw [withValue_merge]
          cases later.withValue _ _ <;> rfl
        · rfl
  · rfl

/-- Reading on top of what others gave is reading alone and coming on top. -/
theorem read_merge (fuel : Nat) (o later : FieldOptions) (ts : List Token) :
    read fuel (o.merge later) ts = (read fuel later ts).map o.merge := by
  induction fuel generalizing later ts with
  | zero => rfl
  | succ fuel ih =>
    cases ts with
    | nil => rfl
    | cons t ts =>
      simp only [read, readOption_merge]
      cases readOption later (t :: ts) with
      | error e => rfl
      | ok first =>
        obtain ⟨later', rest⟩ := first
        cases rest with
        | nil => rfl
        | cons r rest =>
          cases r with
          | mark c joined =>
            by_cases hcomma : c = ','
            · subst hcomma
              exact ih later' rest
            · simp [Except.map, hcomma]
          | _ => rfl

/-- **Whether attributes are read on top of each other or each alone**, they come to the same. -/
theorem ofAttributes_eq_merged (o : FieldOptions) (as : List Attribute) : ofAttributes o as = merged o as := by
  induction as generalizing o with
  | nil => rfl
  | cons a as ih =>
    rw [ofAttributes, merged]
    split
    · cases a.arguments with
      | error e => rfl
      | ok ts =>
        have hread := read_merge (ts.length + 1) o .none ts
        rw [merge_none] at hread
        simp only [hread, Except.bind]
        cases read (ts.length + 1) .none ts with
        | error e => rfl
        | ok later => exact ih (o.merge later)
    · exact ih o

end FieldOptions

/-! ## Fields -/

namespace DeclaredField

/-- The attributes of a field give the options, in order. -/
def Gives (f : DeclaredField) (xs : List WrittenOption) : Prop :=
  ∃ as, Attribute.ofTexts f.attributes = .ok as ∧ AreGiven xs as

/-- The options of a field. -/
def options (f : DeclaredField) : List WrittenOption := optionsOf f.attributes?

/-- What the attributes of a field set is what those of its options with a text set. -/
theorem settings_eq (f : DeclaredField) : f.settings = pairs f.options := by
  simp only [settings, options, settingsOf, optionsOf, pairs, List.filterMap_flatMap]
  exact List.flatMap_congr fun a _ => (WrittenOption.pairs_among _).symm

/-- The attributes of a field give options, and all of them are proper. -/
structure IsProper (f : DeclaredField) : Prop where
  gives : f.Gives f.options
  proper : ∀ x ∈ f.options, x.IsProper

variable {f : DeclaredField}

theorem Gives.options_eq (h : f.Gives xs) : f.options = xs := by
  obtain ⟨as, has, hgiven⟩ := h
  rw [options, attributes?, has]
  exact hgiven.optionsOf_eq

end DeclaredField

theorem member?_of_gives {f : DeclaredField} (h : f.Gives xs) :
    member? f = (FieldOptions.none.takeAll xs).map fun o =>
      if o.skip then .none else .some ⟨f.name, f.type, o.name?.getD (plainName f.name), o.column?⟩ := by
  obtain ⟨as, has, hgiven⟩ := h
  rw [member?, has, Except.bind, FieldOptions.ofAttributes_eq_takeAll hgiven]

theorem gives_of_member? {f : DeclaredField} {m? : Option Member} (h : member? f = .ok m?) : f.Gives f.options := by
  rw [member?] at h
  cases has : Attribute.ofTexts f.attributes with
  | error e => simp [has, Except.bind, Except.map] at h
  | ok as =>
    cases hoptions : FieldOptions.ofAttributes .none as with
    | error e => simp [has, hoptions, Except.bind, Except.map] at h
    | ok o =>
      obtain ⟨xs, hxs⟩ := FieldOptions.exists_of_ofAttributes hoptions
      have hgives : f.Gives xs := ⟨as, has, hxs⟩
      rwa [← hgives.options_eq] at hgives

/-- **What is recorded of a field.** -/
theorem member?_eq_ok_iff {f : DeclaredField} {m? : Option Member} :
    member? f = .ok m? ↔ f.IsProper ∧ m? = if leaveOut ∈ f.options then .none else .some f.member := by
  have hmade (hgives : f.Gives f.options) (hproper : ∀ x ∈ f.options, x.IsProper) :
      member? f = .ok (if leaveOut ∈ f.options then .none else .some f.member) := by
    rw [member?_of_gives hgives, FieldOptions.takeAll_eq_ok_iff.2 ⟨hproper, rfl⟩]
    simp [Except.map, FieldOptions.given, FieldOptions.none, DeclaredField.member, DeclaredField.property,
      DeclaredField.column?, DeclaredField.settings_eq]
  constructor
  · intro h
    have hgives := gives_of_member? h
    have hproper : ∀ x ∈ f.options, x.IsProper := by
      rw [member?_of_gives hgives] at h
      cases htake : FieldOptions.none.takeAll f.options with
      | error e => simp [htake, Except.map] at h
      | ok o => exact (FieldOptions.takeAll_eq_ok_iff.1 htake).1
    rw [hmade hgives hproper] at h
    exact ⟨⟨hgives, hproper⟩, (Except.ok.inj h).symm⟩
  · rintro ⟨hf, rfl⟩
    exact hmade hf.gives hf.proper

/-- **What is recorded of fields**, one after the other. -/
theorem members_eq_ok_iff {fs : List DeclaredField} {ms : List Member} :
    members fs = .ok ms ↔ (∀ f ∈ fs, f.IsProper) ∧
      ms = (fs.filter (leaveOut ∉ ·.options)).map DeclaredField.member := by
  induction fs generalizing ms with
  | nil => simp [members, eq_comm]
  | cons f fs ih =>
    rw [members, List.forall_mem_cons]
    cases hmember : member? f with
    | error e =>
      have hf : ¬ f.IsProper := fun hf => by
        rw [member?_eq_ok_iff.2 ⟨hf, rfl⟩] at hmember
        cases hmember
      simp [hf]
    | ok m? =>
      obtain ⟨hf, rfl⟩ := member?_eq_ok_iff.1 hmember
      have hhead : (if leaveOut ∈ f.options then Option.none else .some f.member).toList ++
          (fs.filter (leaveOut ∉ ·.options)).map DeclaredField.member =
            ((f :: fs).filter (leaveOut ∉ ·.options)).map DeclaredField.member := by
        by_cases hskip : leaveOut ∈ f.options
        · simp [hskip]
        · simp [hskip]
      cases hrest : members fs with
      | error e =>
        have hothers : ¬ ∀ f ∈ fs, f.IsProper := fun hothers => by
          rw [ih.2 ⟨hothers, rfl⟩] at hrest
          cases hrest
        simp [Except.map, hothers]
      | ok rest =>
        obtain ⟨hothers, rfl⟩ := ih.1 hrest
        simp only [Except.map, Except.ok.injEq, hhead, and_iff_right hf, and_iff_right hothers, eq_comm]

/-! ## Declarations -/

/-- The same field with the same options, which other attributes give. -/
def DeclaredField.IsRegrouped (f g : DeclaredField) : Prop :=
  g.name = f.name ∧ g.type = f.type ∧ ∃ xs, f.Gives xs ∧ g.Gives xs

theorem DeclaredField.IsRegrouped.member?_eq {f g : DeclaredField} (h : f.IsRegrouped g) : member? g = member? f := by
  obtain ⟨hname, htype, xs, hf, hg⟩ := h
  rw [member?_of_gives hf, member?_of_gives hg, hname, htype]

theorem DeclaredField.IsRegrouped.isReadable_eq {f g : DeclaredField} (h : f.IsRegrouped g) :
    g.isReadable = f.isReadable := by
  obtain ⟨hname, htype, xs, ⟨as, has, -⟩, ⟨bs, hbs, -⟩⟩ := h
  rw [isReadable, isReadable, hname, htype, has, hbs]
  rfl

variable {fs gs : List DeclaredField}

theorem members_regrouped (h : List.Forall₂ DeclaredField.IsRegrouped fs gs) : members gs = members fs := by
  induction h with
  | nil => rfl
  | cons hf _ ih => rw [members, members, hf.member?_eq, ih]

theorem isReadable_regrouped (h : List.Forall₂ DeclaredField.IsRegrouped fs gs) :
    gs.all DeclaredField.isReadable = fs.all DeclaredField.isReadable := by
  induction h with
  | nil => rfl
  | cons hf _ ih => rw [List.all_cons, List.all_cons, hf.isReadable_eq, ih]

/-- The entity of a structure with named fields. -/
theorem descriptor_fields (name generics : String) (attributes : List String) (fs : List DeclaredField) :
    let d : Declaration := ⟨name, generics, attributes, .fields fs⟩
    d.descriptor =
      if !d.isReadable then .error .malformed
      else if d.isGeneric then .error .generic
      else ((Attribute.ofTexts attributes).bind tableOf?).bind fun table? => (members fs).map (⟨name, table?, ·⟩) := by
  intro d
  have hfields : d.namedFields = if d.isGeneric then .error .generic else .ok fs := rfl
  rw [descriptor, hfields]
  by_cases hreadable : d.isReadable = true
  · by_cases hgeneric : d.isGeneric = true
    · simp [hreadable, hgeneric]
    · simp only [hreadable, hgeneric, Bool.not_true]
      cases (Attribute.ofTexts attributes).bind tableOf? <;> rfl
  · simp [hreadable]

/-- **What is recorded of a structure with named fields.** -/
theorem descriptor_eq_ok_iff {name generics : String} {attributes : List String} {desc : Descriptor} :
    let d : Declaration := ⟨name, generics, attributes, .fields fs⟩
    d.descriptor = .ok desc ↔
      d.isReadable = true ∧ d.isGeneric = false ∧
      (Attribute.ofTexts attributes).bind tableOf? = .ok desc.table? ∧ (∀ f ∈ fs, f.IsProper) ∧
      desc.typeName = name ∧ desc.members = (fs.filter (leaveOut ∉ ·.options)).map DeclaredField.member := by
  intro d
  obtain ⟨typeName, table?, ms⟩ := desc
  have hmade : (((Attribute.ofTexts attributes).bind tableOf?).bind fun table? =>
      (members fs).map (Descriptor.mk name table? ·)) = .ok ⟨typeName, table?, ms⟩ ↔
        (Attribute.ofTexts attributes).bind tableOf? = .ok table? ∧ members fs = .ok ms ∧ name = typeName := by
    cases (Attribute.ofTexts attributes).bind tableOf? with
    | error e => simp [Except.bind]
    | ok table? => cases members fs <;> simp [Except.bind, Except.map, and_comm, and_assoc]
  rw [descriptor_fields]
  cases hreadable : d.isReadable with
  | false => simp [d]
  | true =>
    cases hgeneric : d.isGeneric with
    | true => simp
    | false =>
      simp only [Bool.not_true, Bool.false_eq_true, if_false, hmade, members_eq_ok_iff, true_and, and_assoc,
        eq_comm (a := name)]
      exact and_congr_right fun _ => and_congr_right fun _ => and_comm

/-- **A descriptor records each field once, by the last of its options**, and each attribute may as well be
read alone and merged with those before it. -/
theorem recorded_once (name generics : String) (attributes : List String) (fs : List DeclaredField) :
    let d : Declaration := ⟨name, generics, attributes, .fields fs⟩
    (∀ desc, d.descriptor = .ok desc ↔
      d.isReadable = true ∧ d.isGeneric = false ∧
      (Attribute.ofTexts attributes).bind tableOf? = .ok desc.table? ∧ (∀ f ∈ fs, f.IsProper) ∧
      desc.typeName = name ∧ desc.members = (fs.filter (leaveOut ∉ ·.options)).map DeclaredField.member) ∧
    (∀ f ∈ fs, ∀ xs, f.Gives xs → (∃ x ∈ xs, ¬ x.IsProper) → ∃ e, d.descriptor = .error e) ∧
    (∀ gs, List.Forall₂ DeclaredField.IsRegrouped fs gs →
      (Declaration.mk name generics attributes (.fields gs)).descriptor = d.descriptor) ∧
    (∀ as, FieldOptions.ofAttributes .none as = FieldOptions.merged .none as) := by
  intro d
  refine ⟨fun desc => descriptor_eq_ok_iff, fun f hf xs hxs ⟨x, hx, himproper⟩ => ?_, fun gs hgs => ?_,
    FieldOptions.ofAttributes_eq_merged .none⟩
  · cases hresult : d.descriptor with
    | error e => exact ⟨e, rfl⟩
    | ok desc =>
      obtain ⟨-, -, -, hproper, -⟩ := descriptor_eq_ok_iff.1 hresult
      rw [← hxs.options_eq] at hx
      exact absurd ((hproper f hf).proper x hx) himproper
  · have hreadable : (Declaration.mk name generics attributes (.fields gs)).isReadable = d.isReadable :=
      congrArg (_ && ·) (isReadable_regrouped hgs)
    have hgeneric : (Declaration.mk name generics attributes (.fields gs)).isGeneric = d.isGeneric := rfl
    rw [descriptor_fields, descriptor_fields, hreadable, hgeneric, members_regrouped hgs]

/-- A field with some attributes. -/
def renamed (attributes : List String) : DeclaredField := ⟨"a", "i32", attributes⟩

/-- The last name counts, in one attribute or in two; and an option of no known key spoils a field that is
left out. -/
theorem recorded_renamed :
    (Declaration.mk "T" "" [] (.fields [renamed ["orm(name = \"x\", column = \"c\", name = \"y\",)"]])).descriptor =
      .ok ⟨"T", .none, [⟨"a", "i32", "y", .some "c"⟩]⟩ ∧
    (Declaration.mk "T" "" []
      (.fields [renamed ["orm(name = \"x\", column = \"c\")", "orm(name = \"y\")"]])).descriptor =
      .ok ⟨"T", .none, [⟨"a", "i32", "y", .some "c"⟩]⟩ ∧
    ∃ e, (Declaration.mk "T" "" [] (.fields [renamed ["orm(skip, kind = \"x\")"]])).descriptor = .error e := by
  have hwhole : (renamed ["orm(name = \"x\", column = \"c\", name = \"y\",)"]).Gives
      [⟨"name", .some "x"⟩, ⟨"column", .some "c"⟩, ⟨"name", .some "y"⟩] :=
    ⟨[⟨["orm"], .some [.word "name", .mark '=' false, .text "x", .mark ',' false, .word "column", .mark '=' false,
        .text "c", .mark ',' false, .word "name", .mark '=' false, .text "y", .mark ',' false]⟩],
      by decide +kernel, .cons rfl rfl (.cons (.setting ..) (.cons (.setting ..) (.cons (.setting ..) .nil))) .nil⟩
  have hparts : (renamed ["orm(name = \"x\", column = \"c\")", "orm(name = \"y\")"]).Gives
      [⟨"name", .some "x"⟩, ⟨"column", .some "c"⟩, ⟨"name", .some "y"⟩] :=
    ⟨[⟨["orm"], .some [.word "name", .mark '=' false, .text "x", .mark ',' false, .word "column", .mark '=' false,
        .text "c"]⟩, ⟨["orm"], .some [.word "name", .mark '=' false, .text "y"]⟩],
      by decide +kernel, .cons rfl rfl (.cons (.setting ..) (.last (.setting ..)))
        (.cons rfl rfl (.last (.setting ..)) .nil)⟩
  have hskipped : (renamed ["orm(skip, kind = \"x\")"]).Gives [leaveOut, ⟨"kind", .some "x"⟩] :=
    ⟨[⟨["orm"], .some [.word "skip", .mark ',' false, .word "kind", .mark '=' false, .text "x"]⟩],
      by decide +kernel, .cons rfl rfl (.cons (.word "skip") (.last (.setting ..))) .nil⟩
  have himproper : ¬ (⟨"kind", .some "x"⟩ : WrittenOption).IsProper := by
    simp [WrittenOption.IsProper, leaveOut]
  have hdescriptor : (Declaration.mk "T" "" []
      (.fields [renamed ["orm(name = \"x\", column = \"c\", name = \"y\",)"]])).descriptor =
        .ok ⟨"T", .none, [⟨"a", "i32", "y", .some "c"⟩]⟩ := by
    decide +kernel
  have hregrouped : List.Forall₂ DeclaredField.IsRegrouped
      [renamed ["orm(name = \"x\", column = \"c\", name = \"y\",)"]]
      [renamed ["orm(name = \"x\", column = \"c\")", "orm(name = \"y\")"]] :=
    .cons ⟨rfl, rfl, _, hwhole, hparts⟩ .nil
  exact ⟨hdescriptor, ((recorded_once "T" "" [] _).2.2.1 _ hregrouped).trans hdescriptor,
    (recorded_once "T" "" [] _).2.1 _ (List.mem_singleton_self _) _ hskipped ⟨_, by simp, himproper⟩⟩

end ParamQuery.Declaration
