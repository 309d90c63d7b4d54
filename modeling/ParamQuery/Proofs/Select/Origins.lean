/-
What the entries of a query were made of.

An entry is a field that was read, or what a column was replaced by. The
calls are followed for that alone, beside the query (`origins`); the
entries of the query are always those of its origins
(`projection_query_run`).
-/
import ParamQuery.Proofs.Select.Restriction

namespace ParamQuery.Select

open Projection (Entry)

variable {α : Type}

/-- What an entry of a projection was made of. -/
inductive Origin where
  /-- A field. -/
  | field (text : String)
  /-- What a declared column was replaced by. -/
  | replacement (expression : String) (alias? : Option String)
  deriving DecidableEq

namespace Origin

/-- The entry that was made. -/
def entry : Origin → Entry
  | .field text => .read text
  | .replacement expression alias? => .make expression alias?

/-- The texts that it was made of. -/
def texts : Origin → List String
  | .field text => [text]
  | .replacement expression alias? => expression :: alias?.toList

/-- Whether a column is looked up here. -/
def isFor (column : String) (o : Origin) : Bool := o.entry.isFor column

end Origin

/-- The origins of a list of fields. -/
def originsOf (fields : List String) : List Origin := (fields.filter (!Text.isBlankText ·)).map .field

theorem entries_originsOf (fields : List String) :
    (originsOf fields).map Origin.entry = Projection.ofFields fields := by
  rw [originsOf, List.map_map]
  rfl

/-- What a call of an entity's query makes of the origins. -/
def Call.origins (e : Entity α) (os : List Origin) : Call → List Origin
  | .removeColumn column => if e.hasColumn column then os.filter (!Origin.isFor column ·) else os
  | .mapColumn column expression alias? =>
    if e.hasColumn column then os.map fun o => if o.isFor column then .replacement expression alias? else o
    else os
  | .mapFields m => if m.isEmpty then os else originsOf m.columns
  | .top _ | .distinct | .fromTable _ | .fromDefaultTable | .fromView .. | .restrict _ | .orderBy ..
  | .byPropertyName => os

/-- The origins that a query begins with. -/
def Beginning.origins (e : Entity α) : Beginning → List Origin
  | .fields names _ => originsOf names
  | .columns _ | .auto => originsOf e.columns

/-- What the entries of a query were made of, in order. -/
def origins (e : Entity α) (b : Beginning) (calls : List Call) : List Origin :=
  calls.foldl (Call.origins e) (b.origins e)

/-! ## Entries -/

variable {q : Query α}

theorem projection_after {os : List Origin} (h : q.statement.projection = os.map Origin.entry) (call : Call) :
    (q.after call).statement.projection = (call.origins q.entity os).map Origin.entry := by
  have hother (hkind : call.kind ≠ .projection) : (q.after call).statement.projection = os.map Origin.entry :=
    (Part.projection.inj (q.part_after_of_ne hkind)).1.trans h
  cases call with
  | removeColumn column =>
    simp only [Query.after, Query.withProjection, Call.origins]
    split
    · simp only [Query.withStatement, h, Projection.erase, List.filter_map]
      rfl
    · exact h
  | mapColumn column expression alias? =>
    simp only [Query.after, Query.withProjection, Call.origins]
    split
    · simp only [Query.withStatement, h, Projection.substitute, List.map_map]
      refine List.map_congr_left fun o _ => ?_
      exact (apply_ite Origin.entry (o.isFor column = true) (.replacement expression alias?) o).symm
    · exact h
  | mapFields m =>
    simp only [Query.after, Query.mapFields, Call.origins]
    split
    · split <;> exact h
    · exact (entries_originsOf _).symm
  | top _ | distinct | fromTable _ | fromDefaultTable | fromView _ _ _ | restrict _ | orderBy _ _
  | byPropertyName => exact hother (by simp [Call.kind])

theorem projection_run {os : List Origin} (h : q.statement.projection = os.map Origin.entry)
    (calls : List Call) :
    (q.run calls).statement.projection = (calls.foldl (Call.origins q.entity) os).map Origin.entry := by
  induction calls generalizing q os with
  | nil => exact h
  | cons call calls ih =>
    have := ih (projection_after h call)
    rwa [Query.entity_after] at this

theorem projection_query (e : Entity α) (b : Beginning) :
    (b.query e).statement.projection = (b.origins e).map Origin.entry ∧ (b.query e).entity = e := by
  have hcolumns : (Projection.ofFields e.columns) = (originsOf e.columns).map Origin.entry :=
    (entries_originsOf _).symm
  cases b with
  | columns distinct => exact ⟨hcolumns, rfl⟩
  | fields names distinct =>
    simp only [Beginning.query, Query.ofFields]
    split <;> exact ⟨(entries_originsOf _).symm, rfl⟩
  | auto =>
    have hkind : Call.fromDefaultTable.kind ≠ .projection := by decide
    have hkept (q : Query α) : q.fromDefaultTable.statement.projection = q.statement.projection ∧
        q.fromDefaultTable.entity = q.entity :=
      ⟨(Part.projection.inj (q.part_after_of_ne hkind)).1, q.entity_after .fromDefaultTable⟩
    simp only [Beginning.query, Query.auto, hkept]
    split <;> exact ⟨hcolumns, rfl⟩

/-- **The entries of a query are those of its origins.** -/
theorem projection_query_run (e : Entity α) (b : Beginning) (calls : List Call) :
    ((b.query e).run calls).statement.projection = (origins e b calls).map Origin.entry := by
  obtain ⟨hprojection, hentity⟩ := projection_query e b
  rw [projection_run hprojection, hentity, origins]

end ParamQuery.Select
