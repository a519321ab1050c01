import Joinery.Predicate

/-! Conditions of a statement: predicates, joins of related models, and what to load with the rows. -/
namespace Joinery

inductive Condition where
  | filter (predicate : Predicate)
  /-- A join, under conditions on the joined model; `load` also loads its rows. -/
  | join (relation : Relation) (load : Bool) (conditions : List Condition)
  /-- Fields of the scope's own model to load. -/
  | preload (model : Model) (fields : List Field)
  /-- A collection to load in a statement of its own, with what to load below it. -/
  | collection (relation : Relation) (nested : List Condition)
deriving Repr

namespace Condition

def isFilter : Condition → Bool
  | .filter _ => true
  | _ => false

/-- Whether the condition compares a column of its own scope. -/
def affects (column : String) : Condition → Bool
  | .filter p => p.affects column
  | _ => false

mutual

/-- Whether the condition loads fields of its scope's model or of a model joined below. -/
def loads : Condition → Bool
  | .filter _ => false
  | .join _ load conditions => load || anyLoads conditions
  | .preload _ _ => true
  | .collection _ _ => false

def anyLoads : List Condition → Bool
  | [] => false
  | c :: rest => c.loads || anyLoads rest

end

mutual

/-- Whether the condition is a predicate or a join with one below. -/
def filters : Condition → Bool
  | .filter _ => true
  | .join _ _ conditions => anyFilters conditions
  | .preload _ _ => false
  | .collection _ _ => false

def anyFilters : List Condition → Bool
  | [] => false
  | c :: rest => c.filters || anyFilters rest

end

theorem anyLoads_eq_any (cs : List Condition) : anyLoads cs = cs.any loads := by
  induction cs with
  | nil => simp [anyLoads]
  | cons c rest ih => simp [anyLoads, ih]

def preloadAll (e : Entity) : Condition :=
  .preload e.toModel e.fields

/-- Loads some fields of a model, all of them its own. -/
def preloadFields (m : Model) (fields : List Field) : Except QueryError Condition :=
  match fields.find? (fun f => !f.belongsTo m) with
  | some foreign => .error (.malformed (.foreignPreload foreign.display m.name))
  | none => .ok (.preload m fields)

mutual

def beq : Condition → Condition → Bool
  | .filter p, .filter q => p == q
  | .join r b cs, .join r' b' cs' => r == r' && b == b' && beqList cs cs'
  | .preload m fs, .preload m' fs' => m == m' && fs == fs'
  | .collection r cs, .collection r' cs' =>
    r.name == r'.name && r.target.toModel == r'.target.toModel && beqList cs cs'
  | _, _ => false

def beqList : List Condition → List Condition → Bool
  | [], [] => true
  | c :: cs, d :: ds => beq c d && beqList cs ds
  | _, _ => false

end

instance : BEq Condition := ⟨beq⟩

end Condition

structure Join where
  relation : Relation
  load : Bool
  conditions : List Condition
deriving Repr

namespace Join

def toCondition (j : Join) : Condition :=
  .join j.relation j.load j.conditions

def preloaded (j : Join) : Join :=
  { j with load := true }

def loads (j : Join) : Bool :=
  j.toCondition.loads

def filters (j : Join) : Bool :=
  j.toCondition.filters

/-- Whether this join itself has a predicate. -/
def hasFilter (j : Join) : Bool :=
  j.conditions.any Condition.isFilter

end Join

namespace Relation

def join (r : Relation) (conditions : List Condition) : Join :=
  ⟨r, false, conditions⟩

/-- Loads the related rows as a collection. Joins below it must load rows and must not filter. -/
def preloadCollection (r : Relation) (nested : List Join) : Except QueryError Condition :=
  match nested.find? (fun j => !j.loads || j.filters) with
  | some bad => .error (.malformed (.filteredCollection r.display bad.relation.name))
  | none => .ok (.collection r (nested.map Join.toCondition))

end Relation
end Joinery
