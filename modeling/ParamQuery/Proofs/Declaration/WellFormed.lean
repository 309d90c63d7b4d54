/-
Whether the entity of a declaration is well formed.

A field is known by the name that it is given last, or by its identifier,
and none of these is blank (`member?_eq`). Two fields may go by one name
all the same, for each is read alone, and the text for the table is taken
as it stands: nothing else can be wrong with an entity (`isWellFormed_iff`).
-/
import ParamQuery.Declaration.Descriptor
import ParamQuery.Entity.Basic
import ParamQuery.Proofs.Declaration.Options
import ParamQuery.Proofs.Entity.Lookup

namespace ParamQuery.Declaration

open Text (isBlank isBlankText)

/-! ## Identifiers -/

namespace Token

theorem isSpace_of_isBlank {c : Char} (h : isBlank c = true) : isSpace c = true := by
  simp [isSpace, h]

theorem isWordStart_of_isBlank {c : Char} (h : isBlank c = true) : Text.isWordStart c = false := by
  have hcodes : ∀ n ∈ Markers.blankCodes, Text.isWordStart (Char.ofNat n) = false := by decide +kernel
  rw [← Char.ofNat_toNat c]
  exact hcodes _ (Markers.toNat_mem_blankCodes h)

/-- Nothing is read of blanks. -/
theorem readAll?_blank {cs : List Char} (h : ∀ c ∈ cs, isBlank c = true) (fuel : Nat) :
    readAll? (fuel + 1) cs = .some [] := by
  have hdrop : cs.dropWhile isSpace = [] := List.dropWhile_eq_nil_iff.2 fun c hc => isSpace_of_isBlank (h c hc)
  rw [readAll?, hdrop]

theorem head_ne_of_blank {cs : List Char} (h : ∀ c ∈ cs, isBlank c = true) {d : Char} (hd : isBlank d = false)
    (rest : List Char) : cs ≠ d :: rest := by
  rintro rfl
  rw [h d (by simp)] at hd
  cases hd

theorem readName?_blank {cs : List Char} (h : ∀ c ∈ cs, isBlank c = true) : readName? ('r' :: '#' :: cs) = .none := by
  have hstart : cs.head?.any Text.isWordStart = false := by
    cases cs with
    | nil => rfl
    | cons c cs => exact isWordStart_of_isBlank (h c (by simp))
  simp [readName?, hstart]

/-- The mark of a name with no name behind it is not readable. -/
theorem readAll?_mark_blank {cs : List Char} (h : ∀ c ∈ cs, isBlank c = true) (fuel : Nat) :
    readAll? (fuel + 1) ('r' :: '#' :: cs) = .none := by
  have hhash : isBlank '#' = false := by decide
  have hquote : isBlank '"' = false := by decide
  have hliteral : readLiteral? ('r' :: '#' :: cs) = .none := by
    have hhashes : cs.takeWhile (· == '#') = [] := by
      cases cs with
      | nil => rfl
      | cons c cs =>
        have hne : c ≠ '#' := fun hc => head_ne_of_blank h hhash cs (by rw [hc])
        rw [List.takeWhile_cons, if_neg (by simpa using hne)]
    have hraw : readRaw? .characters ('#' :: cs) = .none := by
      have hcount : (('#' :: cs).takeWhile (· == '#')).length = 1 := by simp [hhashes]
      rw [readRaw?, hcount]
      simp only [List.drop_succ_cons, List.drop_zero]
      split
      · rename_i rest
        exact absurd rfl (head_ne_of_blank h hquote rest)
      · rfl
    rw [readLiteral?, hraw]
    rfl
  have hmark : readMark? ('r' :: '#' :: cs) = .none := rfl
  have hword : readWord? ('r' :: '#' :: cs) = .none := by
    rw [readWord?, readName?_blank h]
    split <;> rfl
  have hread : read? ('r' :: '#' :: cs) = .none := by
    rw [read?, hliteral, hmark, hword]
    rfl
  have hdrop : ('r' :: '#' :: cs).dropWhile isSpace = 'r' :: '#' :: cs := by
    rw [List.dropWhile_cons, if_neg (by decide)]
  have hcomment : startsComment ('r' :: '#' :: cs) = false := rfl
  rw [readAll?, hdrop]
  simp [hcomment, hread]

end Token

/-- An identifier that can be read is not blank, with or without its mark. -/
theorem plainName_nonBlank {name : String} {others : List String} (h : isNameOr others name = true) :
    isBlankText (plainName name) = false := by
  rw [Bool.eq_false_iff]
  intro hblank
  have hall : ∀ c ∈ (Text.dropLead? ['r', '#'] name.toList).getD name.toList, isBlank c = true := by
    simpa [isBlankText, plainName] using hblank
  have hword : ∃ w, Token.ofText? name = .some [.word w] := by
    rw [isNameOr] at h
    split at h
    · exact ⟨_, by assumption⟩
    · cases h
  obtain ⟨w, hw⟩ := hword
  rw [Token.ofText?] at hw
  cases hlead : Text.dropLead? ['r', '#'] name.toList with
  | none =>
    rw [hlead, Option.getD_none] at hall
    rw [Token.readAll?_blank hall] at hw
    cases hw
  | some rest =>
    rw [hlead, Option.getD_some] at hall
    rw [Text.eq_append_of_dropLead? hlead, List.cons_append, List.singleton_append,
      Token.readAll?_mark_blank hall] at hw
    cases hw

/-! ## Fields -/

namespace DeclaredField

/-- The attributes of a field, if they can be read. -/
def attributes? (f : DeclaredField) : List Attribute :=
  match Attribute.ofTexts f.attributes with
  | .ok as => as
  | .error _ => []

/-- What the attributes of a field set. -/
def settings (f : DeclaredField) : List (String × String) := settingsOf f.attributes?

/-- Whether a field is left out. -/
def isSkipped (f : DeclaredField) : Bool := skipsOf f.attributes?

/-- The name that a field is known by. -/
def property (f : DeclaredField) : String := (lastValue? "name" f.settings).getD (plainName f.name)

/-- The column that a field declares. -/
def column? (f : DeclaredField) : Option String := lastValue? "column" f.settings

/-- The member that a field is. -/
def member (f : DeclaredField) : Member := ⟨f.name, f.type, f.property, f.column?⟩

end DeclaredField

/-- **What becomes of a field.** -/
theorem member?_eq {f : DeclaredField} {m? : Option Member} (h : member? f = .ok m?) :
    m? = (if f.isSkipped then .none else .some f.member) ∧
      ∀ pair ∈ f.settings, isBlankText pair.2 = false := by
  rw [member?] at h
  cases has : Attribute.ofTexts f.attributes with
  | error e => simp [has, Except.bind, Except.map] at h
  | ok as =>
    cases hoptions : FieldOptions.ofAttributes .none as with
    | error e => simp [has, hoptions, Except.bind, Except.map] at h
    | ok o =>
      obtain ⟨rfl, hblanks⟩ := FieldOptions.ofAttributes_eq hoptions
      have hattributes : f.attributes? = as := by rw [DeclaredField.attributes?, has]
      rw [has, Except.bind, hoptions] at h
      obtain rfl := Except.ok.inj h
      refine ⟨?_, by rwa [DeclaredField.settings, hattributes]⟩
      simp [FieldOptions.given, FieldOptions.none, DeclaredField.isSkipped, DeclaredField.member,
        DeclaredField.property, DeclaredField.column?, DeclaredField.settings, hattributes]

/-- **What becomes of the fields**, one after the other. -/
theorem members_eq {fs : List DeclaredField} {ms : List Member} (h : members fs = .ok ms) :
    ms = (fs.filter (!·.isSkipped)).map DeclaredField.member ∧
      ∀ f ∈ fs, ∀ pair ∈ f.settings, isBlankText pair.2 = false := by
  induction fs generalizing ms with
  | nil => exact ⟨(Except.ok.inj h).symm, by simp⟩
  | cons f fs ih =>
    rw [members] at h
    split at h
    · cases h
    · rename_i m? hm
      cases hrest : members fs with
      | error e => simp [hrest, Except.map] at h
      | ok rest =>
        rw [hrest] at h
        obtain rfl := Except.ok.inj h
        obtain ⟨rfl, hfirst⟩ := member?_eq hm
        obtain ⟨rfl, hothers⟩ := ih hrest
        refine ⟨?_, List.forall_mem_cons.2 ⟨hfirst, hothers⟩⟩
        by_cases hskipped : f.isSkipped = true
        · simp [hskipped]
        · simp [hskipped]

/-! ## Declarations -/

/-- The attributes of a structure, if they can be read. -/
def attributes? (d : Declaration) : List Attribute :=
  match Attribute.ofTexts d.attributes with
  | .ok as => as
  | .error _ => []

/-- The table that the first attribute which gives options declares. -/
def declaredTable? (d : Declaration) : Option String :=
  (d.attributes?.find? Attribute.givesOptions).bind fun a => lastValue? "table" a.settings

/-- The fields that are not left out. -/
def kept (d : Declaration) : List DeclaredField :=
  match d.shape with
  | .fields fs => fs.filter (!·.isSkipped)
  | _ => []

theorem namedFields_eq {d : Declaration} {fs : List DeclaredField} (h : d.namedFields = .ok fs) :
    d.shape = .fields fs := by
  rw [namedFields] at h
  split at h
  · cases h
  · split at h
    · rename_i hshape
      rw [hshape, Except.ok.inj h]
    · cases h
    · cases h
    · cases h
    · cases h

theorem table?_eq {d : Declaration} {table? : Option String}
    (h : (Attribute.ofTexts d.attributes).bind tableOf? = .ok table?) : table? = d.declaredTable? := by
  cases has : Attribute.ofTexts d.attributes with
  | error e => simp [has, Except.bind] at h
  | ok as =>
    rw [has, Except.bind] at h
    have hattributes : d.attributes? = as := by rw [attributes?, has]
    rw [tableOf?_eq h, declaredTable?, hattributes]

/-- **What becomes of a declaration.** -/
theorem descriptor_eq {d : Declaration} {desc : Descriptor} (h : d.descriptor = .ok desc) :
    desc = ⟨d.name, d.declaredTable?, d.kept.map DeclaredField.member⟩ ∧
      ∀ f ∈ d.kept, f.isReadable = true ∧ ∀ pair ∈ f.settings, isBlankText pair.2 = false := by
  rw [descriptor] at h
  split at h
  · cases h
  · rename_i hreadable
    split at h
    · cases h
    · rename_i fs hfields
      split at h
      · cases h
      · rename_i table? htable
        cases hmembers : members fs with
        | error e => simp [hmembers, Except.map] at h
        | ok ms =>
          rw [hmembers] at h
          have hshape := namedFields_eq hfields
          have hkept : d.kept = fs.filter (!·.isSkipped) := by rw [kept, hshape]
          obtain ⟨hms, hsettings⟩ := members_eq hmembers
          refine ⟨?_, fun f hf => ?_⟩
          · rw [← Except.ok.inj h, table?_eq htable, hms, hkept]
          · have hmem : f ∈ fs := (List.mem_filter.1 (hkept ▸ hf)).1
            have hall : d.shape.isReadable = true := by
              rw [Bool.not_eq_true', Bool.not_eq_false, isReadable, Bool.and_eq_true] at hreadable
              exact hreadable.2
            rw [hshape, Shape.isReadable, List.all_eq_true] at hall
            exact ⟨hall f hmem, hsettings f hmem⟩

theorem DeclaredField.property_nonBlank {f : DeclaredField} (hreadable : f.isReadable = true)
    (hsettings : ∀ pair ∈ f.settings, isBlankText pair.2 = false) : isBlankText f.property = false := by
  rw [property]
  cases hname : lastValue? "name" f.settings with
  | some name => exact hsettings _ (mem_of_lastValue? hname)
  | none =>
    rw [isReadable, Bool.and_eq_true, Bool.and_eq_true] at hreadable
    exact plainName_nonBlank hreadable.1.1

theorem DeclaredField.column_nonBlank {f : DeclaredField}
    (hsettings : ∀ pair ∈ f.settings, isBlankText pair.2 = false) {column : String} (hcolumn : f.column? = .some column) : isBlankText column = false :=
  hsettings _ (mem_of_lastValue? hcolumn)

/-! ## Entities -/

/-- An entity is the one that a descriptor describes. -/
structure Descriptor.Describes {α : Type} (desc : Descriptor) (e : Entity α) : Prop where
  typeName : e.typeName = desc.typeName
  table : e.table? = desc.table?
  fields : e.fields.map (fun f => (f.property, f.column?)) = desc.members.map fun m => (m.property, m.column?)

/-- A descriptor by which every field can be found, with nothing blank in it. -/
structure Descriptor.IsWellFormed (desc : Descriptor) : Prop where
  distinct : (desc.members.map (·.property)).Nodup
  /-- A field that is looked up by its property is the one that is found. -/
  found : ∀ {α : Type} (e : Entity α), desc.Describes e → ∀ i f, e.fields[i]? = .some f →
    e.place? f.property = .some i ∧ e.field? f.property = .some f
  property : ∀ m ∈ desc.members, isBlankText m.property = false
  column : ∀ m ∈ desc.members, ∀ column, m.column? = .some column → isBlankText column = false
  table : ∀ table, desc.table? = .some table → isBlankText table = false

theorem Descriptor.Describes.properties {α : Type} {desc : Descriptor} {e : Entity α} (h : desc.Describes e) :
    e.fields.map (·.property) = desc.members.map (·.property) := by
  have := congrArg (List.map Prod.fst) h.fields
  rwa [List.map_map, List.map_map] at this

/-- **When a derived descriptor is well formed**: exactly if the declared table is not blank and
no two of the fields that are kept go by one name. Names and columns are never blank. -/
theorem isWellFormed_iff {d : Declaration} {desc : Descriptor} (h : d.descriptor = .ok desc) :
    (∀ m ∈ desc.members, isBlankText m.property = false ∧
      ∀ column, m.column? = .some column → isBlankText column = false) ∧
    (desc.IsWellFormed ↔
      (∀ table, d.declaredTable? = .some table → isBlankText table = false) ∧
        (d.kept.map DeclaredField.property).Nodup) := by
  obtain ⟨rfl, hkept⟩ := descriptor_eq h
  have hproperties : (d.kept.map DeclaredField.member).map (·.property) = d.kept.map DeclaredField.property := by
    rw [List.map_map]
    rfl
  have hmembers : ∀ m ∈ d.kept.map DeclaredField.member, isBlankText m.property = false ∧
      ∀ column, m.column? = .some column → isBlankText column = false := by
    intro m hm
    obtain ⟨f, hf, rfl⟩ := List.mem_map.1 hm
    obtain ⟨hreadable, hsettings⟩ := hkept f hf
    exact ⟨DeclaredField.property_nonBlank hreadable hsettings,
      fun _ hcolumn => DeclaredField.column_nonBlank hsettings hcolumn⟩
  refine ⟨hmembers, fun hwell => ⟨hwell.table, hproperties ▸ hwell.distinct⟩, fun ⟨htable, hnodup⟩ => ?_⟩
  have hdistinct := hproperties.symm ▸ hnodup
  exact {
    distinct := hdistinct
    found := fun e he i f hi => Entity.find_of_nodup (he.properties ▸ hdistinct) hi
    property := fun m hm => (hmembers m hm).1
    column := fun m hm => (hmembers m hm).2
    table := htable }

/-- A declaration with a reserved word for a name, a name given twice and a field left out. -/
def account : Declaration where
  name := "Account"
  generics := ""
  attributes := ["orm(table = \"accounts\")"]
  shape := .fields [⟨"r#type", "String", []⟩,
    ⟨"owner", "Option<String>", ["orm(name = \"type\", column = \"a.Owner\")", "orm(name = \"holder\")"]⟩,
    ⟨"type_", "Cache", ["orm(skip, name = \"type\")"]⟩]

theorem isWellFormed_account :
    ∃ desc, account.descriptor = .ok desc ∧ desc.IsWellFormed ∧ desc.table? = .some "accounts" ∧
      desc.members = [⟨"r#type", "String", "type", .none⟩,
        ⟨"owner", "Option<String>", "holder", .some "a.Owner"⟩] := by
  have hdesc : account.descriptor = .ok ⟨"Account", .some "accounts",
      [⟨"r#type", "String", "type", .none⟩, ⟨"owner", "Option<String>", "holder", .some "a.Owner"⟩]⟩ := by
    decide +kernel
  have hdeclared : account.declaredTable? = .some "accounts" := by decide +kernel
  have hwell := (isWellFormed_iff hdesc).2.2 ⟨fun table ht => by
    obtain rfl := Option.some.inj (hdeclared.symm.trans ht)
    decide, by decide +kernel⟩
  exact ⟨_, hdesc, hwell, rfl, rfl⟩

/-- A table without a name is accepted, and so are two fields of one name, of which the second is never
found. -/
theorem accepted_malformed :
    (∃ desc, (Declaration.mk "T" "" ["orm(table = \"\")"] (.fields [⟨"id", "i32", []⟩])).descriptor = .ok desc ∧
      desc.table? = .some "" ∧ ¬ desc.IsWellFormed) ∧
    ∃ desc, (Declaration.mk "T" "" [] (.fields [⟨"id", "i32", ["orm(name = \"x\")"]⟩, ⟨"x", "i64", []⟩])).descriptor =
        .ok desc ∧ ¬ desc.IsWellFormed ∧
      ∀ {α : Type} (e : Entity α), desc.Describes e → e.place? "x" = .some 0 ∧ (e.fields[1]?).map (·.property) = .some "x" := by
  refine ⟨⟨⟨"T", .some "", [⟨"id", "i32", "id", .none⟩]⟩, by decide +kernel, rfl, fun h => ?_⟩,
    ⟨⟨"T", .none, [⟨"id", "i32", "x", .none⟩, ⟨"x", "i64", "x", .none⟩]⟩, by decide +kernel, fun h => ?_,
      fun e he => ?_⟩⟩
  · have hblank := h.table "" rfl
    revert hblank
    decide
  · have hdistinct := h.distinct
    revert hdistinct
    decide
  · obtain ⟨f, rest, hfields, hfirst, hrest⟩ := List.map_eq_cons_iff.1 he.properties
    obtain ⟨g, rest, rfl, hsecond, -⟩ := List.map_eq_cons_iff.1 hrest
    rw [Entity.place?, hfields]
    exact ⟨by simp [List.findIdx?_cons, hfirst], by simp [hsecond]⟩

end ParamQuery.Declaration
