import Joinery.Proofs.Builder

/-! The references of a statement: fields that it names by some table of its plan.
A compared field is named by the table of its own scope. An operand, an ordered field or an assigned one
may belong to any table, and the text depends on the tables of a plan by these fields alone. -/
namespace Joinery

def Operand.field? : Operand → Option Field
  | .value _ => none
  | .field f => some f

namespace Predicate

mutual

def references : Predicate → List Field
  | .compare _ _ _ _ => []
  | .compareFields _ _ operands => operands.filterMap Operand.field?
  | .connect _ ps => allReferences ps
  | .related _ ps => allReferences ps
  | .raw _ _ => []

def allReferences : List Predicate → List Field
  | [] => []
  | p :: rest => references p ++ allReferences rest

end

theorem mem_allReferences {f : Field} {ps : List Predicate} :
    f ∈ allReferences ps ↔ ∃ p ∈ ps, f ∈ p.references := by
  induction ps with
  | nil => simp [allReferences]
  | cons p rest ih => simp [allReferences, ih]

theorem references_compareOperands (f : Field) (o : Operator) (operands : List Operand) :
    (f.compareOperands o operands).references = operands.filterMap Operand.field? := by
  unfold Field.compareOperands
  split
  · rename_i hvalues
    refine (List.filterMap_eq_nil_iff.2 fun x hx => ?_).symm
    have hvalue := List.all_eq_true.1 hvalues x hx
    cases x with
    | value v => rfl
    | field g => cases hvalue
  · rfl

theorem field_of_meets {q : Requirement} {t : Table} {p : Predicate} (h : p.Meets q t) :
    ∀ f ∈ p.references, q.field f := by
  induction p using Predicate.induct generalizing t with
  | compare g o values escape => simp [references]
  | raw sql values => simp [references]
  | compareFields g o operands =>
    intro f hf
    obtain ⟨x, hx, hfx⟩ := List.mem_filterMap.1 hf
    cases x with
    | value v => cases hfx
    | field g' => exact h.2 f (Option.some.inj hfx ▸ hx)
  | connect c ps ih =>
    intro f hf
    obtain ⟨p, hp, hf⟩ := mem_allReferences.1 hf
    exact ih p hp (allMeet_iff.1 h p hp) f hf
  | related r ps ih =>
    intro f hf
    obtain ⟨p, hp, hf⟩ := mem_allReferences.1 hf
    exact ih p hp (allMeet_iff.1 h.2 p hp) f hf

end Predicate

namespace Condition

mutual

def references : Condition → List Field
  | .filter p => p.references
  | .join _ _ cs => allReferences cs
  | .preload _ _ => []
  | .collection _ _ => []

def allReferences : List Condition → List Field
  | [] => []
  | c :: rest => references c ++ allReferences rest

end

theorem mem_allReferences {f : Field} {cs : List Condition} :
    f ∈ allReferences cs ↔ ∃ c ∈ cs, f ∈ c.references := by
  induction cs with
  | nil => simp [allReferences]
  | cons c rest ih => simp [allReferences, ih]

theorem allReferences_append (cs cs' : List Condition) :
    allReferences (cs ++ cs') = allReferences cs ++ allReferences cs' := by
  induction cs with
  | nil => rfl
  | cons c rest ih => simp [allReferences, ih]

theorem allReferences_filters (ps : List Predicate) :
    allReferences (ps.map .filter) = Predicate.allReferences ps := by
  induction ps with
  | nil => rfl
  | cons p rest ih => simp [allReferences, Predicate.allReferences, references, ih]

end Condition

def Assignment.references (a : Assignment) : List Field :=
  match a.value with
  | .value _ => [a.field]
  | .field other => [a.field, other]
  | .null => [a.field]

namespace Builder

def references : Builder → List Field
  | .query q => Condition.allReferences q.conditions ++ q.order.map Prod.fst
  | .update u =>
    Condition.allReferences u.conditions ++ u.assignments.flatMap Assignment.references
  | .delete x => Condition.allReferences x.conditions

/-- The statement as a fragment, against the tables of any plan. -/
def toSqlOn (b : Builder) (p : Plan) : Except QueryError Sql :=
  match b with
  | .query q => q.toSql p
  | .update u => u.toSql p
  | .delete x => x.toSql p

theorem toSqlOn_plan (b : Builder) (d : Dialect) : b.toSqlOn (b.plan d) = b.toSql d := by
  cases b <;> rfl

end Builder

namespace Plan

/-- Two plans of one dialect that give the same names to some fields. -/
structure Named (p p' : Plan) (fields : List Field) : Prop where
  dialect : p'.dialect = p.dialect
  aliasFor : ∀ f ∈ fields, p'.aliasFor f = p.aliasFor f

/-- Two plans that differ in their tables at most, and give the same names to some fields. -/
structure Agrees (p p' : Plan) (fields : List Field) : Prop where
  dialect : p'.dialect = p.dialect
  root : p'.root = p.root
  joins : p'.joins = p.joins
  selections : p'.selections = p.selections
  aliasFor : ∀ f ∈ fields, p'.aliasFor f = p.aliasFor f

variable {p p' : Plan} {fields others : List Field} {t t' : Table}

namespace Named

theorem refl (p : Plan) (fields : List Field) : p.Named p fields :=
  ⟨rfl, fun _ _ => rfl⟩

theorem mono (h : p.Named p' fields) (hsub : others ⊆ fields) : p.Named p' others :=
  { h with aliasFor := fun f hf => h.aliasFor f (hsub hf) }

theorem reference (h : p.Named p' fields) {f : Field} (hf : f ∈ fields) :
    p'.reference f = p.reference f := by
  simp only [Plan.reference, h.dialect, h.aliasFor f hf]

theorem column (h : p.Named p' fields) (ht : t.Alike t') (f : Field) :
    p'.column t' f = p.column t f := by
  simp only [Plan.column, h.dialect, ht.column]

theorem comparison (h : p.Named p' fields) (lhs : Sql) (o : Operator) (operands : List Sql)
    (escape : Option Value) :
    p'.comparison lhs o operands escape = p.comparison lhs o operands escape := by
  simp only [Plan.comparison, h.dialect]

theorem operand {x : Operand} (h : p.Named p' x.field?.toList) : p'.operand x = p.operand x := by
  cases x with
  | value v => rfl
  | field f => exact h.reference (by simp [Operand.field?])

theorem predicates {ps : List Predicate} (h : ∀ c ∈ ps, p'.predicate t' c = p.predicate t c) :
    p'.predicates t' ps = p.predicates t ps := by
  induction ps with
  | nil => rfl
  | cons c rest ih =>
    have hrest := ih fun c hc => h c (by simp [hc])
    simp only [Plan.predicates, h c (by simp), hrest]

/-- A predicate is written alike when its references and its table are named alike. -/
theorem predicate {c : Predicate} (h : p.Named p' c.references) (ht : t.Alike t') :
    p'.predicate t' c = p.predicate t c := by
  induction c using Predicate.induct generalizing t t' with
  | compare f o values escape => simp only [Plan.predicate, h.column ht, h.comparison]
  | compareFields f o operands =>
    have hoperands : operands.mapM p'.operand = operands.mapM p.operand := by
      refine mapM_congr fun x hx => operand (h.mono ?_)
      intro g hg
      exact List.mem_filterMap.2 ⟨x, hx, Option.mem_toList.1 hg⟩
    simp only [Plan.predicate, h.column ht, h.comparison, hoperands]
  | raw sql values => simp only [Plan.predicate, h.dialect, ht.aliasName]
  | connect c ps ih =>
    have hps : p'.predicates t' ps = p.predicates t ps := predicates fun q hq =>
      ih q hq (h.mono fun f hf => Predicate.mem_allReferences.2 ⟨q, hq, hf⟩) ht
    simp only [Plan.predicate, h.dialect, hps]
  | related r ps ih =>
    have hps : p'.predicates (t.reach r) ps = p.predicates (t.reach r) ps := predicates fun q hq =>
      ih q hq (h.mono fun f hf => Predicate.mem_allReferences.2 ⟨q, hq, hf⟩) (.refl _)
    simp only [Plan.predicate, subquery, ht.reach, ht.keyEquality, hps]

theorem scopeFilters_of {cs : List Condition}
    (h : ∀ c ∈ cs, p'.conditionFilters t' c = p.conditionFilters t c) :
    p'.scopeFilters t' cs = p.scopeFilters t cs := by
  induction cs with
  | nil => rfl
  | cons c rest ih =>
    have hrest := ih fun c hc => h c (by simp [hc])
    simp only [Plan.scopeFilters, h c (by simp), hrest]

theorem conditionFilters {c : Condition} (h : p.Named p' c.references) (ht : t.Alike t') :
    p'.conditionFilters t' c = p.conditionFilters t c := by
  induction c using Condition.induct generalizing t t' with
  | filter q => simp only [Plan.conditionFilters, predicate h ht]
  | preload m fields => rfl
  | collection r nested _ => rfl
  | join r load cs ih =>
    rw [Plan.conditionFilters, Plan.conditionFilters, ht.reach]
    refine scopeFilters_of fun c hc => ih c hc (h.mono fun f hf => ?_) (.refl _)
    exact Condition.mem_allReferences.2 ⟨c, hc, hf⟩

theorem scopeFilters {cs : List Condition} (h : p.Named p' (Condition.allReferences cs))
    (ht : t.Alike t') : p'.scopeFilters t' cs = p.scopeFilters t cs :=
  scopeFilters_of fun c hc => conditionFilters
    (h.mono fun _ hf => Condition.mem_allReferences.2 ⟨c, hc, hf⟩) ht

theorem filter {cs : List Condition} (h : p.Named p' (Condition.allReferences cs))
    (hroot : p'.root = p.root) : p'.filter cs = p.filter cs := by
  simp only [Plan.filter, hroot, h.scopeFilters (.refl p.root)]

theorem orderColumns {order : List (Field × Order)} (h : p.Named p' (order.map Prod.fst)) :
    Query.orderColumns p' order = Query.orderColumns p order := by
  induction order with
  | nil => rfl
  | cons x rest ih =>
    obtain ⟨f, o⟩ := x
    have hrest := ih (h.mono (by simp))
    simp only [Query.orderColumns, h.reference (f := f) (by simp), hrest]

end Named

namespace Agrees

theorem named (h : p.Agrees p' fields) : p.Named p' fields :=
  ⟨h.dialect, h.aliasFor⟩

theorem mono (h : p.Agrees p' fields) (hsub : others ⊆ fields) : p.Agrees p' others :=
  { h with aliasFor := fun f hf => h.aliasFor f (hsub hf) }

theorem assignmentSql {a : Assignment} {qualified : Bool} (h : p.Agrees p' a.references) :
    Update.assignmentSql p' qualified a = Update.assignmentSql p qualified a := by
  have htarget : Update.target p' qualified a.field = Update.target p qualified a.field := by
    have halias := h.aliasFor a.field (by unfold Assignment.references; split <;> simp)
    simp only [Update.target, h.root, halias]
  obtain ⟨f, value⟩ := a
  cases value with
  | value v => simp only [Update.assignmentSql, htarget]
  | null => simp only [Update.assignmentSql, htarget]
  | field other =>
    have hother := h.named.reference (f := other) (by simp [Assignment.references])
    simp only [Update.assignmentSql, htarget, hother]

theorem updateSql (h : p.Agrees p' fields) (assignments : List Sql) (filter : Sql) :
    Joinery.updateSql p' assignments filter = Joinery.updateSql p assignments filter := by
  simp only [Joinery.updateSql, h.root, h.joins, h.dialect]

theorem deleteSql (h : p.Agrees p' fields) (filter : Sql) :
    Joinery.deleteSql p' filter = Joinery.deleteSql p filter := by
  simp only [Joinery.deleteSql, h.root, h.joins, h.dialect]

theorem toSqlOn {b : Builder} (h : p.Agrees p' b.references) : b.toSqlOn p' = b.toSqlOn p := by
  cases b with
  | query q =>
    have hfilter := (h.mono (List.subset_append_left _ _)).named.filter h.root
    have horder := (h.mono (List.subset_append_right _ _)).named.orderColumns
    simp only [Builder.toSqlOn, Query.toSql, Query.orderClause, Query.selectClause, hfilter, horder,
      h.root, h.joins, h.selections, h.dialect]
  | update u =>
    have hfilter := (h.mono (List.subset_append_left _ _)).named.filter h.root
    have hassigned (qualified : Bool) : u.assignments.mapM (Update.assignmentSql p' qualified) =
        u.assignments.mapM (Update.assignmentSql p qualified) := by
      refine mapM_congr fun a ha => assignmentSql (h.mono fun f hf => List.mem_append_right _ ?_)
      exact List.mem_flatMap.2 ⟨a, ha, hf⟩
    simp only [Builder.toSqlOn, Update.toSql, hfilter, hassigned, h.updateSql, h.joins, h.dialect]
  | delete x =>
    have hfilter : p'.filter x.conditions = p.filter x.conditions := h.named.filter h.root
    simp only [Builder.toSqlOn, Delete.toSql, hfilter, h.updateSql, h.deleteSql, h.root, h.joins,
      h.dialect]

end Agrees

theorem tablesOf_congr (p : Plan) {m n : Model} (h : m == n) : p.tablesOf m = p.tablesOf n := by
  have heq : m.name = n.name ∧ m.table = n.table := by simpa [BEq.beq] using h
  unfold tablesOf
  refine List.filter_congr fun t _ => ?_
  simp only [BEq.beq, heq.1, heq.2]

/-- Tables of models that are not joined change the name of no field of a joined model. -/
theorem agrees_unjoined {p : Plan} {fields : List Field} {extra : List Table}
    (hfields : ∀ f ∈ fields, p.tablesOf f.model ≠ [])
    (hextra : ∀ t ∈ extra, p.tablesOf t.entity.toModel = []) :
    p.Agrees { p with tables := p.tables ++ extra } fields := by
  refine ⟨rfl, rfl, rfl, rfl, fun f hf => ?_⟩
  have hnone : extra.filter (fun t => t.entity.toModel == f.model) = [] := by
    rw [List.filter_eq_nil_iff]
    intro t ht hmodel
    exact hfields f hf ((p.tablesOf_congr hmodel).symm.trans (hextra t ht))
  have htables : ({ p with tables := p.tables ++ extra } : Plan).tablesOf f.model =
      p.tablesOf f.model := by
    simp only [tablesOf, List.filter_append, hnone, List.append_nil]
  simp only [aliasFor, htables]

end Plan
end Joinery
