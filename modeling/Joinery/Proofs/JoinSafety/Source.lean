import Joinery.Lint.Analysis
import Joinery.Proofs.JoinSafety.References

/-! Statements as their source text calls them.
Each rule below is one form of the query library: a field handle under field functions, a comparison, a
connective, a join, a method of a statement. Whatever the analysis passes over is left open: qualifiers,
type arguments, values, operators and positions. -/
namespace Joinery
namespace Lint

/-- A field where a source text names it. -/
structure Reference where
  field : Field
  position : Position
deriving Repr

namespace Reference

def finding (r : Reference) : Finding :=
  ⟨r.field.model.name, r.position⟩

end Reference

def conversions : List String :=
  ["into", "unwrap", "expect"]

/-- A field by its handle, perhaps under field functions. -/
inductive Handle (f : Field) (position : Position) : CallTree → Prop
  | call {qualifier generics : List String} {accessor : String} :
      Handle f position (.call (qualifier ++ [f.model.name, accessor]) generics [] position)
  | function {name : String} {t : CallTree} {args : List CallTree} {p : Position} :
      name ∈ fieldFunctions → Handle f position t → Handle f position (.method name (t :: args) p)

/-- Arguments with the fields among them. Other arguments are plain, whatever that means. -/
inductive Operands (plain : CallTree → Prop) : List Reference → List CallTree → Prop
  | nil : Operands plain [] []
  | append {refs refs' : List Reference} {ts ts' : List CallTree} :
      Operands plain refs ts → Operands plain refs' ts' → Operands plain (refs ++ refs') (ts ++ ts')
  | list {refs : List Reference} {ts : List CallTree} {p : Position} :
      Operands plain refs ts → Operands plain refs [.list ts p]
  | converted {refs : List Reference} {name : String} {t : CallTree} {args : List CallTree}
      {p : Position} :
      name ∈ conversions → Operands plain refs [t] → Operands plain refs [.method name (t :: args) p]
  | field {r : Reference} {t : CallTree} : Handle r.field r.position t → Operands plain [r] [t]
  | plain {t : CallTree} : plain t → Operands plain [] [t]

/-- Whether a tree has no calls, such as an operator or a literal. -/
def CallTree.isOther : CallTree → Prop
  | .other _ => True
  | _ => False

def connector : Connective → String
  | .and => "and"
  | .or => "or"
  | .not => "not"
  | .xor => "xor"

variable (handle : Relation → String) (known : List String)

/-- Conditions with the operands in them that are fields. A relation is called by its handle, and an
untyped operand that is a field belongs to a known model. -/
inductive Written : List Condition → List Reference → List CallTree → Prop
  | nil : Written [] [] []
  | append {cs cs' : List Condition} {refs refs' : List Reference} {ts ts' : List CallTree} :
      Written cs refs ts → Written cs' refs' ts' → Written (cs ++ cs') (refs ++ refs') (ts ++ ts')
  | list {cs : List Condition} {refs : List Reference} {ts : List CallTree} {p : Position} :
      Written cs refs ts → Written cs refs [.list ts p]
  | converted {cs : List Condition} {refs : List Reference} {name : String} {t : CallTree}
      {args : List CallTree} {p : Position} :
      name ∈ conversions → Written cs refs [t] → Written cs refs [.method name (t :: args) p]
  | typed {f : Field} {o : Operator} {values : List Value} {escape : Option Value} {name : String}
      {t : CallTree} {args : List CallTree} {q p : Position} :
      name ∈ Config.default.comparisonMethods → Handle f q t →
      Written [.filter (.compare f o values escape)] [] [.method name (t :: args) p]
  | dynamic {f : Field} {o : Operator} {refs : List Reference} {name : String} {t : CallTree}
      {args : List CallTree} {q p p' : Position} :
      name ∈ Config.default.comparisonMethods → Handle f q t →
      Operands CallTree.isOther refs args →
      Written [.filter (f.compareFields o (refs.map Reference.field))] refs
        [.method name (.method "is_dynamic" [t] p' :: args) p]
  | untyped {f : Field} {o : Operator} {operands : List Operand} {refs : List Reference}
      {name : String} {t : CallTree} {args : List CallTree} {q p p' : Position} :
      name ∈ Config.default.comparisonMethods → Handle f q t →
      Operands (fun _ => True) refs args →
      operands.filterMap Operand.field? = refs.map Reference.field →
      (∀ r ∈ refs, r.field.model.name ∈ known) →
      Written [.filter (f.compareOperands o operands)] refs
        [.method name (.method "is_unsafe" [t] p' :: args) p]
  | raw {sql : String} {values : List Value} {path generics : List String} {args : List CallTree}
      {p : Position} :
      path.getLast? = some "unsafe_condition" → modelMember? path = none →
      Written [.filter (.raw sql values)] [] [.call path generics args p]
  | connect {c : Connective} {ps : List Predicate} {refs : List Reference} {ts : List CallTree}
      {qualifier generics : List String} {p : Position} :
      Written (ps.map .filter) refs ts →
      Written [.filter (.connect c ps)] refs [.call (qualifier ++ [connector c]) generics ts p]
  | join {r : Relation} {cs : List Condition} {refs : List Reference} {t : CallTree}
      {qualifier generics : List String} {p : Position} :
      Written cs refs [t] →
      Written [.join r false cs] refs
        [.call (qualifier ++ [r.owner.name, handle r]) generics [t] p]
  | preloaded {r : Relation} {load : Bool} {cs : List Condition} {refs : List Reference}
      {t : CallTree} {args : List CallTree} {p : Position} :
      Written [.join r load cs] refs [t] →
      Written [.join r true cs] refs [.method "preload" (t :: args) p]
  | preload {m : Model} {fields : List Field} {name : String} {qualifier generics : List String}
      {args : List CallTree} {p : Position} :
      name ∈ ["preload", "preload_fields"] →
      Written [.preload m fields] [] [.call (qualifier ++ ["Condition", name]) generics args p]
  | collection {r : Relation} {nested : List Condition} {t : CallTree} {args : List CallTree}
      {p : Position} :
      Written [.collection r nested] [] [.method "preload_collection" (t :: args) p]

variable {handle known} {refs : List Reference} {ts : List CallTree}

/-- The source of conditions names their references, in order. -/
theorem Written.references {cs : List Condition} (h : Written handle known cs refs ts) :
    Condition.allReferences cs = refs.map Reference.field := by
  induction h with
  | nil => rfl
  | append _ _ ih ih' => rw [Condition.allReferences_append, ih, ih', List.map_append]
  | list _ ih => exact ih
  | converted _ _ ih => exact ih
  | typed _ _ => rfl
  | @dynamic f o refs name t args q p p' _ _ _ =>
    have hfields : (refs.map (Operand.field ∘ Reference.field)).filterMap Operand.field? =
        refs.map Reference.field := by
      rw [List.filterMap_map]
      exact congrFun List.filterMap_eq_map refs
    simpa [Condition.allReferences, Condition.references, Field.compareFields,
      Predicate.references] using hfields
  | untyped _ _ _ hfields _ =>
    simp [Condition.allReferences, Condition.references,
      Predicate.references_compareOperands, hfields]
  | raw _ _ => rfl
  | connect _ ih =>
    rw [Condition.allReferences_filters] at ih
    simpa [Condition.allReferences, Condition.references, Predicate.references] using ih
  | join _ ih => simpa [Condition.allReferences, Condition.references] using ih
  | preloaded _ ih => simpa [Condition.allReferences, Condition.references] using ih
  | preload _ => rfl
  | collection => rfl

inductive Assigned : List Assignment → List Reference → List CallTree → Prop
  | nil : Assigned [] [] []
  | append {as as' : List Assignment} {refs refs' : List Reference} {ts ts' : List CallTree} :
      Assigned as refs ts → Assigned as' refs' ts' →
      Assigned (as ++ as') (refs ++ refs') (ts ++ ts')
  | list {as : List Assignment} {refs : List Reference} {ts : List CallTree} {p : Position} :
      Assigned as refs ts → Assigned as refs [.list ts p]
  | value {r : Reference} {v : Value} {t : CallTree} {args : List CallTree} {p : Position} :
      Handle r.field r.position t →
      Assigned [r.field.assign v] [r] [.method "assign" (t :: args) p]
  | null {r : Reference} {t : CallTree} {p : Position} :
      Handle r.field r.position t →
      Assigned [r.field.assignNull] [r] [.method "assign_null" [t] p]
  | field {r other : Reference} {t : CallTree} {args : List CallTree} {p : Position} :
      Handle r.field r.position t → Operands CallTree.isOther [other] args →
      Assigned [r.field.assignField other.field] [r, other] [.method "assign_dynamic" (t :: args) p]

theorem Assigned.references {as : List Assignment} (h : Assigned as refs ts) :
    as.flatMap Assignment.references = refs.map Reference.field := by
  induction h with
  | nil => rfl
  | append _ _ ih ih' => rw [List.flatMap_append, ih, ih', List.map_append]
  | list _ ih => exact ih
  | value _ => rfl
  | null _ => rfl
  | field _ _ => rfl

variable (handle known)

def orderMethod : Order → String
  | .ascending => "ascending"
  | .descending => "descending"

/-- A statement as a chain of methods on a query function, with the fields that it refers to. -/
inductive Chain : Builder → List Reference → CallTree → Prop
  | query {root : Entity} {cs : List Condition} {refs : List Reference} {t : CallTree}
      {qualifier : List String} {p : Position} :
      Written handle known cs refs [t] →
      Chain (.query (.ofConditions root cs)) refs (.call (qualifier ++ ["query"]) [root.name] [t] p)
  | update {root : Entity} {cs : List Condition} {refs : List Reference} {t : CallTree}
      {qualifier : List String} {p : Position} :
      Written handle known cs refs [t] →
      Chain (.update (.ofConditions root cs)) refs
        (.call (qualifier ++ ["update"]) [root.name] [t] p)
  | delete {root : Entity} {cs : List Condition} {refs : List Reference} {t : CallTree}
      {qualifier : List String} {p : Position} :
      Written handle known cs refs [t] →
      Chain (.delete ⟨root, cs⟩) refs (.call (qualifier ++ ["delete"]) [root.name] [t] p)
  | ordered {q : Query} {o : Order} {refs : List Reference} {r : Reference} {t : CallTree}
      {args : List CallTree} {p : Position} :
      Chain (.query q) refs t → Operands CallTree.isOther [r] args →
      Chain (.query (q.orderedBy r.field o)) (refs ++ [r]) (.method (orderMethod o) (t :: args) p)
  | limited {q : Query} {limit : Nat} {refs : List Reference} {t : CallTree} {args : List CallTree}
      {p : Position} :
      Chain (.query q) refs t →
      Chain (.query { q with limit := some limit }) refs (.method "limit" (t :: args) p)
  | skipped {q : Query} {offset : Nat} {refs : List Reference} {t : CallTree}
      {args : List CallTree} {p : Position} :
      Chain (.query q) refs t →
      Chain (.query { q with offset := some offset }) refs (.method "offset" (t :: args) p)
  | set {u u' : Update} {f : Field} {v : Value} {refs : List Reference} {t : CallTree}
      {args : List CallTree} {p : Position} :
      Chain (.update u) refs t → f.model = u.root.toModel → u.set f v = .ok u' →
      Chain (.update u') refs (.method "set" (t :: args) p)
  | setNull {u u' : Update} {f : Field} {refs : List Reference} {t : CallTree}
      {args : List CallTree} {p : Position} :
      Chain (.update u) refs t → f.model = u.root.toModel → u.setNull f = .ok u' →
      Chain (.update u') refs (.method "set_null" (t :: args) p)
  | setField {u u' : Update} {refs : List Reference} {r other : Reference} {t : CallTree}
      {args : List CallTree} {p : Position} :
      Chain (.update u) refs t → Operands CallTree.isOther [r, other] args →
      u.setField r.field other.field = .ok u' →
      Chain (.update u') (refs ++ [r, other]) (.method "set_dynamic" (t :: args) p)
  | setMultiple {u u' : Update} {as : List Assignment} {refs refs' : List Reference} {t : CallTree}
      {args : List CallTree} {p : Position} :
      Chain (.update u) refs t → Assigned as refs' args → u.setMultiple as = .ok u' →
      Chain (.update u') (refs ++ refs') (.method "set_multiple" (t :: args) p)
  | passed {b : Builder} {refs : List Reference} {name : String} {t : CallTree}
      {args : List CallTree} {p : Position} :
      name ∉ Config.default.orderMethods → name ∉ Config.default.setMethods → Chain b refs t →
      Chain b refs (.method name (t :: args) p)

end Lint
end Joinery
