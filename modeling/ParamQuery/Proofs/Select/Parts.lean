/-
Which parts of a query a call is about.

Calls are of seven kinds. `part_after_of_ne`: a call changes no part that
calls of another kind are about. `part_after_congr`: what it does to its
own parts depends on these and the entity alone, and so does whether it is
a mistake (`isMistake_congr`).
-/
import ParamQuery.Select.Query

namespace ParamQuery.Select

/-- What a call is about. -/
inductive Kind where
  | limit
  | distinct
  | source
  | filter
  | order
  | projection
  | naming
  deriving DecidableEq, Repr

def Call.kind : Call → Kind
  | .top _ => .limit
  | .distinct => .distinct
  | .fromTable _ | .fromDefaultTable | .fromView .. => .source
  | .restrict _ => .filter
  | .orderBy .. => .order
  | .removeColumn _ | .mapColumn .. | .mapFields _ => .projection
  | .byPropertyName => .naming

/-- The parts of a query that calls of a kind are about. -/
inductive Part where
  | limit (top? : Option Nat)
  | distinct (distinct : Bool)
  | source (source? : Option Source)
  | filter (predicates : List Filter.Predicate) (params : Params)
  | order (order? : Option Order)
  | projection (projection : Projection) (map? : Option FieldMap)
  | naming (byName : Bool)

namespace Query

variable {α : Type}

def part (q : Query α) : Kind → Part
  | .limit => .limit q.statement.top?
  | .distinct => .distinct q.statement.distinct
  | .source => .source q.statement.source?
  | .filter => .filter q.statement.predicates q.params
  | .order => .order q.statement.order?
  | .projection => .projection q.statement.projection q.map?
  | .naming => .naming q.byName

variable {q q' : Query α} {k : Kind} {call : Call}

/-! ## One call -/

theorem entity_after (q : Query α) (call : Call) : (q.after call).entity = q.entity := by
  cases call with
  | fromDefaultTable =>
    simp only [after, fromDefaultTable]
    split <;> rfl
  | top n | orderBy column descending | removeColumn column | mapColumn column expression alias? =>
    simp only [after, top, orderBy, withProjection]
    split <;> rfl
  | mapFields m =>
    simp only [after, mapFields]
    split
    · split <;> rfl
    · rfl
  | _ => rfl

/-- A call changes nothing that calls of another kind are about. -/
theorem part_after_of_ne (q : Query α) (h : call.kind ≠ k) : (q.after call).part k = q.part k := by
  cases call with
  | top n =>
    simp only [after, top]
    split
    · cases k with
      | limit => exact absurd rfl h
      | _ => rfl
    · rfl
  | distinct =>
    cases k with
    | distinct => exact absurd rfl h
    | _ => rfl
  | fromTable table | fromView table alias? joins =>
    cases k with
    | source => exact absurd rfl h
    | _ => rfl
  | fromDefaultTable =>
    simp only [after, fromDefaultTable]
    split
    · cases k with
      | source => exact absurd rfl h
      | _ => rfl
    · cases k <;> rfl
  | restrict script =>
    cases k with
    | filter => exact absurd rfl h
    | _ => rfl
  | orderBy column descending =>
    simp only [after, orderBy]
    split
    · cases k with
      | order => exact absurd rfl h
      | _ => rfl
    · rfl
  | removeColumn column | mapColumn column expression alias? =>
    simp only [after, withProjection]
    split
    · cases k with
      | projection => exact absurd rfl h
      | _ => rfl
    · rfl
  | mapFields m =>
    simp only [after, mapFields]
    cases k with
    | projection => exact absurd rfl h
    | _ =>
      split
      · split <;> rfl
      · rfl
  | byPropertyName =>
    cases k with
    | naming => exact absurd rfl h
    | _ => rfl

/-- What a call does to its own parts depends on these alone. -/
theorem part_after_congr (hentity : q.entity = q'.entity) (h : q.part call.kind = q'.part call.kind) :
    (q.after call).part call.kind = (q'.after call).part call.kind := by
  cases call with
  | top n =>
    simp only [part, Call.kind, Part.limit.injEq] at h
    simp only [after, top, h, Call.kind]
    split
    · rfl
    · simp only [part, h]
  | distinct | fromTable table | fromView table alias? joins | byPropertyName => rfl
  | fromDefaultTable =>
    simp only [after, fromDefaultTable, hentity]
    split
    · rfl
    · exact h
  | restrict script =>
    simp only [part, Call.kind, Part.filter.injEq] at h ⊢
    simp only [after, restrict, withStatement, h]
    exact ⟨trivial, trivial⟩
  | orderBy column descending =>
    simp only [part, Call.kind, Part.order.injEq] at h
    simp only [after, orderBy, h, hentity, Call.kind]
    split
    · rfl
    · simp only [part, h]
  | removeColumn column | mapColumn column expression alias? =>
    simp only [part, Call.kind, Part.projection.injEq] at h
    simp only [after, withProjection, hentity, Call.kind]
    split
    · simp only [part, withStatement, h]
    · simp only [part, h]
  | mapFields m =>
    simp only [part, Call.kind, Part.projection.injEq] at h
    simp only [after, mapFields, h, Call.kind]
    split
    · split
      · simp only [part, mistake, h]
      · simp only [part, h]
    · rfl

/-- Whether a call is a mistake. -/
def isMistake (q : Query α) : Call → Bool
  | .fromDefaultTable => q.entity.table?.isNone
  | .mapFields m => m.isEmpty && q.statement.projection.isEmpty
  | _ => false

theorem isSome_fault?_mistake (q : Query α) (message : String) : (q.mistake message).fault?.isSome = true := by
  unfold mistake
  cases q.fault? <;> rfl

theorem isSome_fault?_after (q : Query α) (call : Call) :
    (q.after call).fault?.isSome = (q.fault?.isSome || q.isMistake call) := by
  cases call with
  | top n | orderBy column descending | removeColumn column | mapColumn column expression alias? =>
    simp only [after, top, orderBy, withProjection, isMistake, Bool.or_false]
    split
    · rfl
    · rfl
  | distinct | fromTable table | fromView table alias? joins | restrict script | byPropertyName =>
    simp only [isMistake, Bool.or_false]
    rfl
  | fromDefaultTable =>
    simp only [after, fromDefaultTable, isMistake]
    split
    · rename_i table htable
      simp [htable, withSource, withStatement]
    · rename_i hnone
      simp [hnone, isSome_fault?_mistake]
  | mapFields m =>
    simp only [after, mapFields, isMistake]
    split
    · rename_i hempty
      split
      · rename_i hnone
        simp [hempty, hnone, isSome_fault?_mistake]
      · rename_i hsome
        simp [hsome]
    · rename_i hsome
      simp [hsome, withStatement]

/-- Whether a call is a mistake depends on its own parts alone. -/
theorem isMistake_congr (hentity : q.entity = q'.entity) (h : q.part call.kind = q'.part call.kind) :
    q.isMistake call = q'.isMistake call := by
  cases call with
  | fromDefaultTable => simp only [isMistake, hentity]
  | mapFields m =>
    simp only [part, Call.kind, Part.projection.injEq] at h
    simp only [isMistake, h]
  | _ => rfl

/-! ## Many calls -/

theorem run_cons (q : Query α) (call : Call) (calls : List Call) :
    q.run (call :: calls) = (q.after call).run calls := rfl

theorem entity_run (q : Query α) (calls : List Call) : (q.run calls).entity = q.entity := by
  induction calls generalizing q with
  | nil => rfl
  | cons call calls ih => rw [run_cons, ih, entity_after]

end Query

end ParamQuery.Select
