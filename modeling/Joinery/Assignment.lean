import Joinery.Predicate

/-! Assignments of an update. -/
namespace Joinery

inductive AssignedValue where
  | value (v : Value)
  | field (f : Field)
  | null
deriving Repr, BEq

structure Assignment where
  field : Field
  value : AssignedValue
deriving Repr, BEq

namespace Assignment

/-- Refuses read-only fields, and nulls for fields that have none. -/
def validate (a : Assignment) : Except QueryError Unit :=
  if a.field.updatable = false then .error (.malformed (.notUpdatable a.field.display))
  else
    match a.value with
    | .null =>
      if a.field.nullable then .ok () else .error (.malformed (.notNullable a.field.display))
    | _ => .ok ()

end Assignment

namespace Field

def assign (f : Field) (v : Value) : Assignment := ⟨f, .value v⟩

/-- Takes the value of another field, of this or a joined model. -/
def assignField (f other : Field) : Assignment := ⟨f, .field other⟩

def assignNull (f : Field) : Assignment := ⟨f, .null⟩

end Field
end Joinery
