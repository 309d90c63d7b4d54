/-
What the options of attributes come to.

A setting is a word, an equals sign and a text in the arguments of an
attribute. Of a field's settings with one key the last counts, and none of
them is blank (`FieldOptions.ofAttributes_eq`); of a structure only the
first attribute is read, and its text is taken as it stands
(`tableOf?_eq`).
-/
import ParamQuery.Declaration.Attribute

namespace ParamQuery.Declaration

/-! ## Settings -/

/-- The settings among tokens: their keys and values, in order. -/
def settings : List Token → List (String × String)
  | .word key :: .mark '=' _ :: .text value :: ts => (key, value) :: settings ts
  | _ :: ts => settings ts
  | [] => []

/-- The value that a key is given last. -/
def lastValue? (key : String) (given : List (String × String)) : Option String :=
  (given.filter (·.1 == key)).getLast?.map (·.2)

theorem lastValue?_append (key : String) (given later : List (String × String)) :
    lastValue? key (given ++ later) = (lastValue? key later).or (lastValue? key given) := by
  simp only [lastValue?, List.filter_append, List.getLast?_append]
  cases (later.filter (·.1 == key)).getLast? <;> rfl

theorem mem_of_lastValue? {key value : String} {given : List (String × String)}
    (h : lastValue? key given = .some value) : (key, value) ∈ given := by
  obtain ⟨pair, hlast, rfl⟩ := Option.map_eq_some_iff.1 h
  obtain ⟨hmem, hkey⟩ := List.mem_filter.1 (List.mem_of_getLast? hlast)
  obtain rfl := eq_of_beq hkey
  exact hmem

namespace FieldOptions

/-- Options on top of which settings are given, and perhaps a wish to be skipped. -/
def given (o : FieldOptions) (pairs : List (String × String)) (skip : Bool) : FieldOptions where
  column? := (lastValue? "column" pairs).or o.column?
  name? := (lastValue? "name" pairs).or o.name?
  skip := o.skip || skip

theorem given_nil (o : FieldOptions) : o.given [] false = o := by
  simp [given, lastValue?]

theorem given_append (o : FieldOptions) (pairs later : List (String × String)) (skip skip' : Bool) :
    (o.given pairs skip).given later skip' = o.given (pairs ++ later) (skip || skip') := by
  simp [given, lastValue?_append, Option.or_assoc, Bool.or_assoc]

theorem withValue_eq {o o' : FieldOptions} {key value : String} (h : o.withValue key value = .ok o') :
    Text.isBlankText value = false ∧ o' = o.given [(key, value)] false := by
  rw [withValue] at h
  split at h
  · cases h
  · rename_i hblank
    refine ⟨by simpa using hblank, ?_⟩
    split at h
    · rename_i hkey
      obtain rfl := Except.ok.inj h
      simp [given, lastValue?, hkey]
    · split at h
      · rename_i hkey
        obtain rfl := Except.ok.inj h
        simp [given, lastValue?, hkey]
      · cases h

/-- The word that makes an option skip its field. -/
def skips (ts : List Token) : Bool := ts.contains (.word "skip")

/-- One option is a setting or the wish to be skipped. -/
theorem readOption_eq {o o' : FieldOptions} {ts rest : List Token} (h : readOption o ts = .ok (o', rest)) :
    (ts = .word "skip" :: rest ∧ o' = o.given [] true) ∨
      ∃ key value joined, ts = .word key :: .mark '=' joined :: .text value :: rest ∧ key ≠ "skip" ∧
        Text.isBlankText value = false ∧ o' = o.given [(key, value)] false := by
  unfold readOption at h
  split at h
  · rename_i w ts
    split at h
    · cases h
    · split at h
      · rename_i hskip
        obtain ⟨rfl, rfl⟩ := Prod.mk.inj (Except.ok.inj h)
        exact .inl ⟨by rw [hskip], by simp [given, lastValue?]⟩
      · rename_i hskip
        split at h
        · rename_i joined s rest'
          cases hvalue : o.withValue w s with
          | error e => simp [hvalue, Except.map] at h
          | ok o'' =>
            rw [hvalue] at h
            obtain ⟨rfl, rfl⟩ := Prod.mk.inj (Except.ok.inj h)
            obtain ⟨hblank, ho⟩ := withValue_eq hvalue
            exact .inr ⟨w, s, joined, rfl, hskip, hblank, ho⟩
        · cases h
  · cases h

/-- What is read of one attribute. -/
theorem read_eq {fuel : Nat} {o o' : FieldOptions} {ts : List Token} (h : read fuel o ts = .ok o') :
    o' = o.given (settings ts) (skips ts) ∧ ∀ pair ∈ settings ts, Text.isBlankText pair.2 = false := by
  induction fuel generalizing o ts with
  | zero => simp [read] at h
  | succ fuel ih =>
    cases ts with
    | nil =>
      obtain rfl := Except.ok.inj h
      exact ⟨(given_nil o).symm, by simp [settings]⟩
    | cons t ts =>
      rw [read] at h
      split at h
      · cases h
      · -- the last option
        rename_i first hfirst
        obtain rfl := Except.ok.inj h
        rcases readOption_eq hfirst with ⟨hts, rfl⟩ | ⟨key, value, joined, hts, hkey, hblank, rfl⟩
        · rw [hts]
          exact ⟨rfl, by simp [settings]⟩
        · rw [hts]
          simp [settings, skips, hblank, Ne.symm hkey]
      · -- an option with others behind it
        rename_i first joined' ts' hfirst
        obtain ⟨ho, hblanks⟩ := ih h
        rcases readOption_eq hfirst with ⟨hts, rfl⟩ | ⟨key, value, joined, hts, hkey, hblank, rfl⟩
        · rw [ho, hts, given_append]
          simpa [settings, skips] using hblanks
        · rw [ho, hts, given_append]
          simpa [settings, skips, hblank, Ne.symm hkey] using hblanks
      · cases h
      · simp

end FieldOptions

/-! ## Fields -/

/-- The settings of an attribute. -/
def Attribute.settings (a : Attribute) : List (String × String) := Declaration.settings (a.arguments?.getD [])

/-- The settings of the attributes that give options, in order. -/
def settingsOf (as : List Attribute) : List (String × String) :=
  (as.filter Attribute.givesOptions).flatMap Attribute.settings

/-- Whether attributes that give options make their field skipped. -/
def skipsOf (as : List Attribute) : Bool :=
  (as.filter Attribute.givesOptions).any fun a => FieldOptions.skips (a.arguments?.getD [])

theorem Attribute.arguments_eq {a : Attribute} {ts : List Token} (h : a.arguments = .ok ts) :
    a.arguments?.getD [] = ts := by
  rw [arguments] at h
  split at h
  · rename_i heq
    rw [heq, Option.getD_some]
    exact Except.ok.inj h
  · cases h

/-- **What is read of a field's attributes.** -/
theorem FieldOptions.ofAttributes_eq {o o' : FieldOptions} {as : List Attribute} (h : ofAttributes o as = .ok o') :
    o' = o.given (settingsOf as) (skipsOf as) ∧
      ∀ pair ∈ settingsOf as, Text.isBlankText pair.2 = false := by
  induction as generalizing o with
  | nil =>
    obtain rfl := Except.ok.inj h
    exact ⟨(given_nil o).symm, by simp [settingsOf]⟩
  | cons a as ih =>
    rw [ofAttributes] at h
    split at h
    · rename_i hgives
      split at h
      · cases h
      · rename_i ts hts
        split at h
        · cases h
        · rename_i first hread
          obtain ⟨rfl, hblanks⟩ := read_eq hread
          obtain ⟨ho, hothers⟩ := ih h
          have hsettings : settingsOf (a :: as) = Declaration.settings ts ++ settingsOf as := by
            simp [settingsOf, hgives, Attribute.settings, Attribute.arguments_eq hts]
          have hskips : skipsOf (a :: as) = (skips ts || skipsOf as) := by
            simp [skipsOf, hgives, Attribute.arguments_eq hts]
          rw [hsettings, hskips, ← given_append]
          refine ⟨ho, fun pair hpair => ?_⟩
          rcases List.mem_append.1 hpair with hpair | hpair
          · exact hblanks pair hpair
          · exact hothers pair hpair
    · rename_i hgives
      have hsettings : settingsOf (a :: as) = settingsOf as := by simp [settingsOf, hgives]
      have hskips : skipsOf (a :: as) = skipsOf as := by simp [skipsOf, hgives]
      rw [hsettings, hskips]
      exact ih h

/-! ## Structures -/

theorem plainPathFrom_singleton {ts rest : List Token} {w : String}
    (h : Grammar.plainPathFrom ts = .some ([w], rest)) : ts = .word w :: rest := by
  unfold Grammar.plainPathFrom at h
  split at h
  · rename_i v joined ts
    split at h
    · obtain ⟨⟨ws, ts'⟩, hws, heq⟩ := Option.map_eq_some_iff.1 h
      obtain ⟨hcons, rfl⟩ := Prod.mk.inj heq
      obtain rfl := (List.cons.inj hcons).2
      -- A path that goes on has a word behind its colons.
      unfold Grammar.plainPathFrom at hws
      split at hws
      · split at hws
        · simp at hws
        · cases hws
      · split at hws
        · simp at hws
        · cases hws
      · cases hws
    · cases h
  · split at h
    · obtain ⟨hw, rfl⟩ := Prod.mk.inj (Option.some.inj h)
      obtain rfl := (List.cons.inj hw).1
      rfl
    · cases h
  · cases h

theorem attributePath_table {ts rest : List Token} (h : Grammar.attributePath ts = .some (["table"], rest)) :
    ts = .word "table" :: rest := by
  rw [Grammar.attributePath] at h
  split at h
  · simp at h
  · rw [Grammar.plainPath] at h
    split at h
    · simp at h
    · exact plainPathFrom_singleton h

theorem skip_equals {ts rest : List Token} (h : Grammar.skip "=" ts = .some rest) :
    ∃ joined, ts = .mark '=' joined :: rest := by
  have hop : "=".toList = ['='] := rfl
  rw [Grammar.skip, Grammar.sees, hop] at h
  split at h
  · rename_i hsees
    unfold Grammar.startsWith at hsees
    split at hsees
    · rename_i heq
      obtain ⟨rfl, -⟩ := List.cons.inj heq
      obtain rfl := eq_of_beq hsees
      exact ⟨_, by rw [← Option.some.inj h]; rfl⟩
    · rename_i heq
      simp_all
    · cases hsees
  · cases h

/-- **What is read of a structure's attribute.** -/
theorem readTable_eq {ts : List Token} {table : String} (h : readTable ts = .ok table) :
    ∃ joined, ts = [.word "table", .mark '=' joined, .text table] := by
  rw [readTable] at h
  split at h
  · cases h
  · rename_i path rest hpath
    split at h
    · cases h
    · rename_i value hvalue
      split at h
      · cases h
      · split at h
        · cases h
        · rename_i htable
          obtain rfl := Decidable.not_not.1 htable
          obtain ⟨joined, rfl⟩ := skip_equals hvalue
          split at h
          · obtain rfl := Except.ok.inj h
            exact ⟨joined, attributePath_table hpath⟩
          · cases h

theorem tableOf?_eq {as : List Attribute} {table? : Option String} (h : tableOf? as = .ok table?) :
    table? = (as.find? Attribute.givesOptions).bind fun a => lastValue? "table" a.settings := by
  induction as with
  | nil => exact (Except.ok.inj h).symm
  | cons a as ih =>
    rw [tableOf?] at h
    split at h
    · rename_i hgives
      split at h
      · cases h
      · rename_i ts hts
        cases hread : readTable ts with
        | error e => simp [hread, Except.map] at h
        | ok table =>
          rw [hread] at h
          obtain rfl := Except.ok.inj h
          obtain ⟨joined, rfl⟩ := readTable_eq hread
          rw [List.find?_cons_of_pos hgives, Option.bind_some, Attribute.settings, Attribute.arguments_eq hts]
          rfl
    · rename_i hgives
      rw [List.find?_cons_of_neg hgives]
      exact ih h

end ParamQuery.Declaration
