import Joinery.Proofs.Placeholder.Statement
import Joinery.Proofs.Vanishing

/-! The parameters of a statement: the values that stand in its tree, in reading order.
No dialect has a say in their order, whichever way it writes functions, comparisons and joins. -/
namespace Joinery

def Field.values (f : Field) : List Value :=
  f.functions.flatMap FunctionCall.values

def Operand.values : Operand → List Value
  | .value v => [v]
  | .field f => f.values

def AssignedValue.values : AssignedValue → List Value
  | .value v => [v]
  | .field f => f.values
  | .null => []

namespace Predicate

mutual

/-- The values of a predicate from left to right: those of the compared field, of its operands, and the
escape character. -/
def values : Predicate → List Value
  | .compare f _ values escape => f.values ++ values ++ escape.toList
  | .compareFields f _ operands => f.values ++ operands.flatMap Operand.values
  | .connect _ ps => allValues ps
  | .related _ ps => allValues ps
  | .raw _ values => values

def allValues : List Predicate → List Value
  | [] => []
  | p :: rest => values p ++ allValues rest

end

theorem allValues_eq_flatMap (ps : List Predicate) : allValues ps = ps.flatMap values := by
  induction ps with
  | nil => rfl
  | cons p rest ih => simp [allValues, ih]

end Predicate

namespace Condition

mutual

def values : Condition → List Value
  | .filter p => p.values
  | .join _ _ cs => allValues cs
  | .preload _ _ => []
  | .collection _ _ => []

def allValues : List Condition → List Value
  | [] => []
  | c :: rest => values c ++ allValues rest

end

theorem allValues_eq_flatMap (cs : List Condition) : allValues cs = cs.flatMap values := by
  induction cs with
  | nil => rfl
  | cons c rest ih => simp [allValues, ih]

end Condition

/-- Functions with as many values as they take, and raw SQL of which something is left in its scope. -/
def Requirement.supplied : Requirement where
  field f := ∀ call ∈ f.functions, call.values.length = call.function.arity
  relation _ := True
  raw t sql _ := inScope sql t.aliasName ≠ ""

namespace Builder

/-- The values of a statement: assignments, conditions, order. -/
def values : Builder → List Value
  | .query q => Condition.allValues q.conditions ++ q.order.flatMap (·.1.values)
  | .update u => u.assignments.flatMap (·.value.values) ++ Condition.allValues u.conditions
  | .delete x => Condition.allValues x.conditions

/-- Whether a statement is typed, and has the values that its functions take. -/
structure Supplied (b : Builder) : Prop where
  typed : Condition.AllTyped b.root.toModel b.conditions
  conditions : Condition.AllMeet .supplied (.root b.root) b.conditions
  fields : ∀ f ∈ b.fields, Requirement.supplied.field f

end Builder

/-- A predicate that vanishes has no values, unless it is raw SQL without text. -/
theorem Predicate.values_of_vanishes {c : Predicate} {t : Table} (hc : c.Meets .supplied t)
    (h : c.Vanishes t) : c.values = [] := by
  induction c using Predicate.induct generalizing t with
  | compare f o values escape => cases h
  | compareFields f o operands => cases h
  | connect c ps ih =>
    obtain ⟨-, hps⟩ := vanishes_connect_iff.1 h
    rw [values, allValues_eq_flatMap, List.flatMap_eq_nil_iff]
    exact fun p hp => ih p hp (allMeet_iff.1 hc p hp) (hps p hp)
  | related r ps ih => cases h
  | raw sql values => exact absurd (vanishes_raw_iff.1 h) hc

namespace Sql

@[simp] theorem params_empty : Sql.empty.params = [] := rfl

@[simp] theorem params_fragment (s : String) (values : List Value) :
    (fragment s values).params = values := rfl

@[simp] theorem params_joined (separator : String) (qs : List Sql) :
    (joined separator qs).params = qs.flatMap params := by
  fun_induction joined separator qs with
  | case1 => rfl
  | case2 q => simp
  | case3 q rest h ih => simp [ih]

end Sql

/-- Functions bind their values after those of the functions inside of them. -/
theorem FunctionCall.params_applyAll {d : Dialect} {calls : List FunctionCall}
    (hcalls : ∀ call ∈ calls, call.values.length = call.function.arity) {text text' : String}
    {values values' : List Value} (h : applyAll d calls text values = .ok (text', values')) :
    values' = values ++ calls.flatMap FunctionCall.values := by
  induction calls generalizing text values with
  | nil =>
    simp only [applyAll, Except.ok.injEq, Prod.mk.injEq] at h
    simp [h.2]
  | cons call rest ih =>
    simp only [applyAll, bind_eq_ok] at h
    obtain ⟨s, hs, h⟩ := h
    have hbinds : s.placeholders call.values.length = call.values.length := by
      rw [hcalls call (by simp)]
      exact Strategy.placeholders_arity (Function.resolve_eq_ok hs)
    rw [ih (fun c hc => hcalls c (by simp [hc])) h, hbinds, List.take_length, List.flatMap_cons,
      List.append_assoc]

theorem Field.params_applied {d : Dialect} {f : Field} (hf : Requirement.supplied.field f)
    {column : String} {q : Sql} (h : f.applied d column = .ok q) : q.params = f.values := by
  simp only [applied, bind_eq_ok, pure_eq_ok] at h
  obtain ⟨⟨text, bound⟩, happly, rfl⟩ := h
  simpa [values] using FunctionCall.params_applyAll hf happly

namespace Plan

variable {p : Plan} {t : Table} {q : Sql}

theorem params_reference {f : Field} (hf : Requirement.supplied.field f)
    (h : p.reference f = .ok q) : q.params = f.values := by
  simp only [reference, bind_eq_ok] at h
  obtain ⟨aliasName, -, h⟩ := h
  exact Field.params_applied hf h

theorem params_operand {x : Operand} (hx : ∀ f, x = .field f → Requirement.supplied.field f)
    (h : p.operand x = .ok q) : q.params = x.values := by
  cases x with
  | value v => exact Except.ok.inj h ▸ rfl
  | field f => exact params_reference (hx f rfl) h

theorem params_foldl (operands : List Sql) (start : Sql) :
    (operands.foldl (fun q x => q ++ .text " " ++ x) start).params =
      start.params ++ operands.flatMap Sql.params := by
  induction operands generalizing start with
  | nil => simp
  | cons x rest ih => simp [ih]

theorem params_rightHandSide {o : Operator} {operands : List Sql}
    (hcheck : o.check operands.length = .ok ()) (h : rightHandSide o operands = .ok q) :
    q.params = operands.flatMap Sql.params := by
  have harity := (Operator.check_eq_ok_iff.1 hcheck).2
  have hnone (ho : o.arity = .exactly 0) : operands = [] := by
    simpa [ho, Arity.accepts] using harity
  have hrange (h : rightHandSide.range o operands = .ok q) :
      q.params = operands.flatMap Sql.params := by
    unfold rightHandSide.range at h
    split at h
    · rw [← Except.ok.inj h]
      simp
    · cases h
  have hlist (h : rightHandSide.list operands = .ok q) : q.params = operands.flatMap Sql.params := by
    rw [← Except.ok.inj h]
    simp
  unfold rightHandSide at h
  split at h
  · rw [hnone rfl, ← Except.ok.inj h]
    rfl
  · rw [hnone rfl, ← Except.ok.inj h]
    rfl
  · exact hrange h
  · exact hrange h
  · exact hlist h
  · exact hlist h
  · rw [← Except.ok.inj h, params_foldl]
    rfl

theorem params_comparison {lhs : Sql} {o : Operator} {operands : List Sql} {escape : Option Value}
    (hcheck : o.check operands.length = .ok ()) (h : p.comparison lhs o operands escape = .ok q) :
    q.params = lhs.params ++ operands.flatMap Sql.params ++ escape.toList := by
  simp only [comparison, bind_eq_ok] at h
  obtain ⟨token, -, rhs, hrhs, h⟩ := h
  have hoperands := params_rightHandSide hcheck hrhs
  have hnegation : (if o.negatedOn p.dialect then Sql.text "NOT " else .empty).params = [] := by
    split <;> simp
  cases escape with
  | none =>
    rw [← pure_eq_ok.1 h]
    simp [hnegation, hoperands]
  | some character =>
    simp only [bind_eq_ok, pure_eq_ok] at h
    obtain ⟨escapeToken, -, rfl⟩ := h
    simp [hnegation, hoperands]

theorem params_connected {c : Connective} {token : String} {written : List Sql}
    (h : connected c token written = .ok q) : q.params = written.flatMap Sql.params := by
  unfold connected at h
  split at h
  · rename_i hnone
    split at h
    · rw [List.isEmpty_iff.1 hnone, ← Except.ok.inj h]
      rfl
    · cases h
  · split at h
    · rw [← Except.ok.inj h]
      simp
    · rw [← Except.ok.inj h]
      simp

theorem params_subquery (parent : Table) (r : Relation) (written : List Sql) (live : Option String) :
    (subquery t parent r written live).params = written.flatMap Sql.params := by
  have hlive : (live.toList.map Sql.text).flatMap Sql.params = [] := by cases live <;> rfl
  simp [subquery, hlive]

theorem params_predicates {ps : List Predicate} (hps : ∀ c ∈ ps, c.Meets .supplied t)
    (ih : ∀ c ∈ ps, ∀ q, p.predicate t c = .ok q → q.params = c.values) {written : List Sql}
    (h : p.predicates t ps = .ok written) : written.flatMap Sql.params = Predicate.allValues ps := by
  obtain ⟨qs, hqs, rfl⟩ := predicates_eq_ok.1 h
  rw [Predicate.allValues_eq_flatMap, ← flatMap_of_forall₂ hqs ih]
  refine flatMap_filter_of_eq_nil fun q hq hempty => ?_
  obtain ⟨c, hc, hok⟩ := exists_mem_left_of_forall₂ hqs hq
  have hvanishes : c.Vanishes t := (predicate_isEmpty_iff hok).1 (by simpa using hempty)
  rw [ih c hc q hok]
  exact Predicate.values_of_vanishes (hps c hc) hvanishes

theorem params_predicate {c : Predicate} {m : Model} (htyped : c.Typed m) (hc : c.Meets .supplied t)
    (h : p.predicate t c = .ok q) : q.params = c.values := by
  induction c using Predicate.induct generalizing t m q with
  | compare f o values escape =>
    obtain ⟨lhs, hlhs, h⟩ := predicate_compare_eq_ok.1 h
    have hcheck : o.check (values.map Sql.bound).length = .ok () := by simpa using htyped.2.1
    rw [params_comparison hcheck h, Field.params_applied hc hlhs, Predicate.values, List.flatMap_map]
    simp [List.flatMap_singleton']
  | compareFields f o operands =>
    obtain ⟨lhs, hlhs, written, hwritten, h⟩ := predicate_compareFields_eq_ok.1 h
    have hcheck : o.check written.length = .ok () := hwritten.length_eq ▸ htyped.2
    have hoperands := flatMap_of_forall₂ hwritten fun x hx q hok =>
      params_operand (fun f hf => hc.2 f (hf ▸ hx)) hok
    rw [params_comparison hcheck h, Field.params_applied hc.1 hlhs, hoperands, Predicate.values]
    simp
  | connect c ps ih =>
    obtain ⟨token, -, written, hwritten, h⟩ := predicate_connect_eq_ok.1 h
    have hps := Predicate.allMeet_iff.1 hc
    rw [params_connected h, Predicate.values]
    exact params_predicates hps (fun c hmem q hok =>
      ih c hmem (Predicate.allTyped_iff.1 htyped.2 c hmem) (hps c hmem) hok) hwritten
  | related r ps ih =>
    obtain ⟨written, hwritten, rfl⟩ := predicate_related_eq_ok.1 h
    have hps := Predicate.allMeet_iff.1 hc.2
    rw [params_subquery, Predicate.values]
    exact params_predicates hps (fun c hmem q hok =>
      ih c hmem (Predicate.allTyped_iff.1 htyped.2.2 c hmem) (hps c hmem) hok) hwritten
  | raw sql values =>
    rw [predicate] at h
    rw [← pure_eq_ok.1 h]
    rfl

theorem params_scopeFilters {cs : List Condition}
    (h : ∀ c ∈ cs, ∀ part, p.conditionFilters t c = .ok part → part.flatMap Sql.params = c.values)
    {written : List Sql} (hok : p.scopeFilters t cs = .ok written) :
    written.flatMap Sql.params = Condition.allValues cs := by
  obtain ⟨parts, hparts, rfl⟩ := scopeFilters_eq_ok.1 hok
  rw [Condition.allValues_eq_flatMap, ← flatMap_of_forall₂ hparts h, ← List.flatMap_id, List.flatMap_assoc]
  rfl

theorem params_conditionFilters {c : Condition} {m : Model} (htyped : c.Typed m)
    (hc : c.Meets .supplied t) {written : List Sql} (h : p.conditionFilters t c = .ok written) :
    written.flatMap Sql.params = c.values := by
  induction c using Condition.induct generalizing t m written with
  | filter c =>
    simp only [conditionFilters, bind_eq_ok, pure_eq_ok] at h
    obtain ⟨q, hq, rfl⟩ := h
    have hvalues := params_predicate htyped hc hq
    rw [Condition.values]
    split
    · rename_i hempty
      exact (Predicate.values_of_vanishes hc ((predicate_isEmpty_iff hq).1 hempty)).symm
    · simpa using hvalues
  | join r load cs ih =>
    rw [conditionFilters] at h
    rw [Condition.values]
    exact params_scopeFilters (fun c hmem part hok => ih c hmem
      (Condition.allTyped_iff.1 htyped.2 c hmem) (Condition.allMeet_iff.1 hc.2 c hmem) hok) h
  | preload m fields =>
    rw [← pure_eq_ok.1 h]
    rfl
  | collection r nested ih =>
    rw [← pure_eq_ok.1 h]
    rfl

theorem params_filter {cs : List Condition} {m : Model} (htyped : Condition.AllTyped m cs)
    (hcs : Condition.AllMeet .supplied p.root cs) (h : p.filter cs = .ok q) :
    q.params = Condition.allValues cs ∧ (q.isEmpty = true → q.params = []) := by
  simp only [filter, bind_eq_ok, pure_eq_ok] at h
  obtain ⟨written, hwritten, rfl⟩ := h
  have hscope := params_scopeFilters (fun c hmem part hok => params_conditionFilters
    (Condition.allTyped_iff.1 htyped c hmem) (Condition.allMeet_iff.1 hcs c hmem) hok) hwritten
  generalize p.root.liveness? _ = live
  have hlive : (live.toList.map Sql.text).flatMap Sql.params = [] := by cases live <;> rfl
  split
  · rename_i hnone
    have hnil : written = [] := (List.append_eq_nil_iff.1 (List.isEmpty_iff.1 hnone)).1
    refine ⟨?_, fun _ => rfl⟩
    rw [← hscope, hnil]
    rfl
  · refine ⟨by simpa [hlive] using hscope, fun hempty => ?_⟩
    simp at hempty

end Plan

section Shapes

variable {p : Plan} {filter : Sql}

theorem params_joinClauses (joins : List PlannedJoin) : (joinClauses joins).params = [] := rfl

theorem params_whereClause (joins : List PlannedJoin)
    (hfilter : filter.isEmpty = true → filter.params = []) :
    (whereClause joins filter).params = filter.params := by
  have hall : (joins.map (fun j => Sql.text j.on) ++ if filter.isEmpty then [] else [filter]).flatMap
      Sql.params = filter.params := by
    cases hempty : filter.isEmpty with
    | true => simp [hfilter hempty]
    | false => simp
  simp only [whereClause]
  generalize (joins.map (fun j => Sql.text j.on) ++ _) = conditions at hall ⊢
  split
  · rename_i hnone
    rw [← hall, List.isEmpty_iff.1 hnone]
    rfl
  · simpa using hall

/-- However the joins of an update stand, its assignments are written before its filter. -/
theorem params_updateSql (assignments : List Sql)
    (hfilter : filter.isEmpty = true → filter.params = []) :
    (updateSql p assignments filter).params = assignments.flatMap Sql.params ++ filter.params := by
  unfold updateSql
  split
  · simp [params_whereClause _ hfilter]
  · split
    · simp [params_whereClause _ hfilter, params_joinClauses]
    · simp [params_whereClause _ hfilter]

theorem params_deleteSql (hfilter : filter.isEmpty = true → filter.params = []) :
    (deleteSql p filter).params = filter.params := by
  unfold deleteSql
  split
  · simp [params_whereClause _ hfilter]
  · split <;> simp [params_whereClause _ hfilter, params_joinClauses]

theorem params_orderColumns {order : List (Field × Order)}
    (h : ∀ x ∈ order, Requirement.supplied.field x.1) {columns : List Sql}
    (hok : Query.orderColumns p order = .ok columns) :
    columns.flatMap Sql.params = order.flatMap (·.1.values) := by
  induction order generalizing columns with
  | nil => exact pure_eq_ok.1 hok ▸ rfl
  | cons x rest ih =>
    simp only [Query.orderColumns, bind_eq_ok, pure_eq_ok] at hok
    obtain ⟨column, hcolumn, others, hothers, rfl⟩ := hok
    have hrest := ih (fun y hy => h y (by simp [hy])) hothers
    simp [Plan.params_reference (h x (by simp)) hcolumn, hrest]

theorem params_orderClause {order : List (Field × Order)}
    (h : ∀ x ∈ order, Requirement.supplied.field x.1) {q : Sql}
    (hok : Query.orderClause p order = .ok q) : q.params = order.flatMap (·.1.values) := by
  simp only [Query.orderClause, bind_eq_ok, pure_eq_ok] at hok
  obtain ⟨columns, hok, rfl⟩ := hok
  have hvalues := params_orderColumns h hok
  split
  · rename_i hnone
    rw [← hvalues, List.isEmpty_iff.1 hnone]
    rfl
  · simpa using hvalues

theorem params_assignmentSql {qualified : Bool} {a : Assignment}
    (h : ∀ other, a.value = .field other → Requirement.supplied.field other) {q : Sql}
    (hok : Update.assignmentSql p qualified a = .ok q) : q.params = a.value.values := by
  simp only [Update.assignmentSql, bind_eq_ok] at hok
  obtain ⟨column, -, hok⟩ := hok
  split at hok
  · rename_i v hv
    simp only [bind_eq_ok, pure_eq_ok] at hok
    obtain ⟨_, rfl, rfl⟩ := hok
    simp [hv, AssignedValue.values]
  · rename_i other hother
    simp only [bind_eq_ok, pure_eq_ok] at hok
    obtain ⟨value, hvalue, rfl⟩ := hok
    simp [hother, AssignedValue.values, Plan.params_reference (h other hother) hvalue]
  · rename_i hnull
    simp only [bind_eq_ok, pure_eq_ok] at hok
    obtain ⟨_, rfl, rfl⟩ := hok
    simp [hnull, AssignedValue.values]

end Shapes

namespace Builder

variable {b : Builder} {d : Dialect}

theorem params_toSql (hb : b.Supplied) {q : Sql} (h : b.toSql d = .ok q) : q.params = b.values := by
  have hfilter {filter : Sql} (hok : (b.plan d).filter b.conditions = .ok filter) :
      filter.params = Condition.allValues b.conditions ∧ (filter.isEmpty = true → filter.params = []) := by
    refine Plan.params_filter hb.typed ?_ hok
    rw [plan, Plan.root_ofConditions]
    exact hb.conditions
  cases b with
  | query q =>
    simp only [toSql, Query.toSql, bind_eq_ok, pure_eq_ok] at h
    obtain ⟨filter, hok, order, horder, rfl⟩ := h
    obtain ⟨hvalues, hempty⟩ := hfilter hok
    have hordered := params_orderClause
      (fun x hx => hb.fields x.1 (List.mem_map_of_mem hx)) horder
    simp [params_whereClause _ hempty, params_joinClauses, hvalues, hordered, values, conditions]
  | update u =>
    simp only [toSql, Update.toSql, bind_eq_ok, pure_eq_ok, mapM_eq_ok] at h
    obtain ⟨filter, hok, assignments, hassignments, rfl⟩ := h
    obtain ⟨hvalues, hempty⟩ := hfilter hok
    have hassigned := flatMap_of_forall₂ hassignments fun a ha q hok => by
      refine params_assignmentSql (fun other hother => ?_) hok
      refine hb.fields other (List.mem_flatMap.2 ⟨a, ha, ?_⟩)
      simp [hother]
    rw [params_updateSql _ hempty, hassigned, hvalues]
    rfl
  | delete x =>
    simp only [toSql, Delete.toSql, bind_eq_ok] at h
    obtain ⟨filter, hok, h⟩ := h
    obtain ⟨hvalues, hempty⟩ := hfilter hok
    split at h
    · rw [← pure_eq_ok.1 h, params_updateSql _ hempty, hvalues]
      rfl
    · rw [← pure_eq_ok.1 h, params_deleteSql hempty, hvalues]
      rfl

/-- The parameters of a compiled statement are the values of its tree in reading order, so that they are
the same on every dialect that it compiles on. -/
theorem params_compile (hb : b.Supplied) {s : Statement} (h : b.compile d = .ok s) :
    s.params = b.values ∧ ∀ d' s', b.compile d' = .ok s' → s'.params = s.params := by
  have hvalues {d : Dialect} {s : Statement} (h : b.compile d = .ok s) : s.params = b.values := by
    obtain ⟨q, hq, hs⟩ := compile_eq_ok h
    rw [hs]
    exact params_toSql hb hq
  refine ⟨hvalues h, fun d' s' h' => ?_⟩
  rw [hvalues h', hvalues h]

/-- Renames the sellers whose company a pattern finds. The new name comes from a function of the old
one, and the pattern stands in a test for related rows. -/
def sellersRenamed : Builder :=
  .update ⟨Sample.seller,
    [.join Sample.employer true [.filter (Sample.companyName.between (.text "a") (.text "b"))],
      .filter (.connect .not [.related Sample.employer [Sample.companyName.likeEscape "c" 'd'],
        .and [], .raw "{table}.id IN (?, ?)" [.int 1, .int 2]]),
      .filter ((Sample.sellerName.apply .concat [.text "e"]).compareFields .isDistinct
        [Sample.sellerName.apply .concat [.text "f"]])],
    [Sample.sellerName.assignField (Sample.companyName.apply .concat [.text "g"]),
      Sample.sellerName.assign (.text "h"), Sample.sellerName.assignNull]⟩

theorem supplied_concat {f : Field} (hf : f.functions = []) (v : Value) :
    Requirement.supplied.field (f.apply .concat [v]) := by
  intro call hcall
  have heq : call = ⟨.concat, [v]⟩ := by simpa [Field.apply, hf] using hcall
  rw [heq]
  rfl

theorem supplied_sellersRenamed : sellersRenamed.Supplied where
  typed := by
    refine ⟨⟨rfl, ⟨rfl, rfl, nofun⟩, trivial⟩, ⟨fun _ => by simp, ?_, ⟨nofun, trivial⟩, trivial, trivial⟩,
      ⟨rfl, rfl⟩, trivial⟩
    exact ⟨rfl, by simp, ⟨rfl, rfl, fun _ => rfl⟩, trivial⟩
  conditions := by
    have hplain : Requirement.supplied.field Sample.companyName := nofun
    have hraw : inScope "\x7btable\x7d.id IN (?, ?)" "sellers" ≠ "" := by decide
    refine ⟨⟨trivial, hplain, trivial⟩, ⟨⟨trivial, hplain, trivial⟩, trivial, hraw, trivial⟩,
      ⟨supplied_concat rfl _, fun g hg => ?_⟩, trivial⟩
    rw [Operand.field.inj (List.mem_singleton.1 hg)]
    exact supplied_concat rfl _
  fields := by
    have hplain : Requirement.supplied.field Sample.sellerName := nofun
    have hconcat : Requirement.supplied.field (Sample.companyName.apply .concat [.text "g"]) :=
      supplied_concat rfl _
    simpa [sellersRenamed, fields, Field.assignField, Field.assign, Field.assignNull] using
      ⟨hplain, hconcat, hplain⟩

/-- The values are bound alike, with two ways to join, to concatenate and to tell values apart. -/
theorem params_sellersRenamed : ∃ s s', sellersRenamed.compile .postgres = .ok s ∧
    sellersRenamed.compile .mysql = .ok s' ∧
    s.params = [.text "g", .text "h", .text "a", .text "b", .text "c", .text "d", .int 1, .int 2,
      .text "e", .text "f"] ∧ s'.params = s.params := by
  obtain ⟨s, hs⟩ : ∃ s, sellersRenamed.compile .postgres = .ok s := ⟨_, rfl⟩
  obtain ⟨s', hs'⟩ : ∃ s, sellersRenamed.compile .mysql = .ok s := ⟨_, rfl⟩
  obtain ⟨hvalues, hsame⟩ := params_compile supplied_sellersRenamed hs
  exact ⟨s, s', hs, hs', hvalues, hsame .mysql s' hs'⟩

end Builder
end Joinery
