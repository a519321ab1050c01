import Joinery.Proofs.Builder
import Joinery.Proofs.Placeholder.Selection
import Joinery.Proofs.Samples

/-! Placeholders and parameters of whole statements.
A compiled statement keeps its text only. Scanning that text finds the placeholders that the statement
was built with, so the numbered form names every value by its position. -/
namespace Joinery

open Sql (Plain Aligned plain_toString)

variable {d : Dialect}

structure Plan.Bindable (d : Dialect) (p : Plan) : Prop where
  dialect : p.dialect = d
  root : p.root.Spelled isPlain
  isRoot : p.root = .root p.root.entity
  tables : ∀ t ∈ p.tables, t.Spelled isPlain
  selects : p.Selects
  joins : p.JoinsPlainly

theorem Plan.bindable_ofConditions {root : Entity} (hroot : root.Spelled isPlain)
    {cs : List Condition} (hcs : Condition.AllMeet (.bindable d) (.root root) cs) :
    (ofConditions d root cs).Bindable d where
  dialect := dialect_ofConditions
  root := by
    rw [root_ofConditions]
    exact .root hroot
  isRoot := by
    rw [root_ofConditions]
    rfl
  tables := spelled_tables nameClass_isPlain (Requirement.bindable_spells d) hroot hcs
  selects := selects_ofConditions hroot hcs
  joins := joins_plain hroot hcs

theorem Plan.aligned_filter {p : Plan} (hp : p.Bindable d) {cs : List Condition}
    (hcs : Condition.AllMeet (.bindable d) p.root cs) {q : Sql} (hq : p.filter cs = .ok q) :
    q.Aligned d := by
  simp only [filter, bind_eq_ok, pure_eq_ok, scopeFilters_eq_ok] at hq
  obtain ⟨_, ⟨parts, hparts, rfl⟩, rfl⟩ := hq
  have hall : ∀ q ∈ parts.flatten ++ ((p.root.liveness? fun mark =>
      cs.any (·.affects mark)).toList.map Sql.text), q.Aligned d := by
    intro q hq
    rw [List.mem_append, List.mem_flatten] at hq
    obtain ⟨part, hpart, hq⟩ | hq := hq
    · obtain ⟨c, hc, hok⟩ := exists_mem_left_of_forall₂ hparts hpart
      exact aligned_conditionFilters hp.tables hp.dialect hp.root
        (Condition.allMeet_iff.1 hcs c hc) hok q hq
    · exact aligned_liveness hp.root _ q hq
  split
  · exact .empty
  · exact ((Aligned.plain (by decide)).append (.joined (by decide) hall)).append (.plain (by decide))

section Clauses

variable {p : Plan}

theorem aligned_joinClauses (hp : p.JoinsPlainly) : (joinClauses p.joins).Aligned d := by
  refine .plain (Spelled.join fun s hs => ?_)
  obtain ⟨j, hj, rfl⟩ := List.mem_map.1 hs
  exact Spelled.append (by decide) (hp j hj).1

theorem plain_joinSources (hp : p.JoinsPlainly) : Plain (joinSources p.joins) := by
  refine Spelled.intercalate (by decide) fun s hs => ?_
  obtain ⟨j, hj, rfl⟩ := List.mem_map.1 hs
  exact (hp j hj).2.1

theorem aligned_whereClause {joins : List PlannedJoin} (hjoins : ∀ j ∈ joins, Plain j.on)
    {filter : Sql} (hfilter : filter.Aligned d) : (whereClause joins filter).Aligned d := by
  have hall : ∀ q ∈ joins.map (fun j => Sql.text j.on) ++ (if filter.isEmpty then [] else [filter]),
      q.Aligned d := by
    intro q hq
    rw [List.mem_append, List.mem_map] at hq
    obtain ⟨j, hj, rfl⟩ | hq := hq
    · exact .plain (hjoins j hj)
    · split at hq
      · cases hq
      · rw [List.mem_singleton.1 hq]
        exact hfilter
  simp only [whereClause]
  generalize joins.map (fun j => Sql.text j.on) ++ _ = conditions at hall ⊢
  split
  · exact .empty
  · exact (Aligned.plain (by decide)).append (.joined (by decide) hall)

theorem aligned_filterClause {filter : Sql} (hfilter : filter.Aligned d) :
    (whereClause [] filter).Aligned d :=
  aligned_whereClause (by simp) hfilter

theorem Query.plain_pagination (d : Dialect) (limit offset : Option Nat) (ordered : Bool) :
    Plain (pagination d limit offset ordered) := by
  have hlimit (n : Nat) : Plain (" LIMIT " ++ toString n) := .append (by decide) (plain_toString n)
  unfold pagination
  split
  · decide
  · split
    · refine ((Spelled.append (.append ?_ (by decide)) (plain_toString _)).append (by decide)).append ?_
      · cases ordered <;> decide
      · split
        · exact (Spelled.append (by decide) (plain_toString _)).append (by decide)
        · decide
    · refine Spelled.append ?_ ?_
      · split
        · exact hlimit _
        · exact hlimit _
        · decide
        · decide
      · split
        · exact .append (by decide) (plain_toString _)
        · decide

end Clauses

namespace Builder

/-- The fields that a statement names outside of its conditions. -/
def fields : Builder → List Field
  | .query q => q.order.map Prod.fst
  | .update u => u.assignments.flatMap fun a =>
    match a.value with
    | .field other => [a.field, other]
    | _ => [a.field]
  | .delete _ => []

/-- Whether names are plain and values as many as the functions and the raw SQL of the statement take,
wherever they stand in it. -/
structure Bindable (d : Dialect) (b : Builder) : Prop where
  root : b.root.Spelled isPlain
  conditions : Condition.AllMeet (.bindable d) (.root b.root) b.conditions
  fields : ∀ f ∈ b.fields, (Requirement.bindable d).field f

end Builder

namespace Query

variable {p : Plan}

theorem neutral_selectClause (hp : p.Bindable d) : Sql.Neutral d.backslashEscapes (selectClause p) := by
  have hall : Plain ("SELECT " ++ p.root.aliasName ++ ".*") :=
    ((Spelled.append (by decide) hp.root.aliasName).append (by decide))
  refine (Sql.neutral_of_plain hall).append (Sql.Neutral.join fun s hs => ?_)
  obtain ⟨selection, hmem, rfl⟩ := List.mem_map.1 hs
  rw [hp.dialect]
  exact (Sql.neutral_of_plain (by decide)).append (Selection.neutral_text (hp.selects selection hmem))

theorem aligned_orderColumns (hp : p.Bindable d) {order : List (Field × Order)}
    (h : ∀ x ∈ order, (Requirement.bindable d).field x.1) {columns : List Sql}
    (hok : orderColumns p order = .ok columns) : ∀ q ∈ columns, q.Aligned d := by
  induction order generalizing columns with
  | nil =>
    rw [← pure_eq_ok.1 hok]
    simp
  | cons x rest ih =>
    simp only [orderColumns, bind_eq_ok, pure_eq_ok] at hok
    obtain ⟨column, hcolumn, others, hothers, rfl⟩ := hok
    have hdirection : Plain (" " ++ x.2.text) := by cases x.2 <;> decide
    intro q hq
    obtain rfl | hq := List.mem_cons.1 hq
    · exact (Plan.aligned_reference hp.tables (h x (by simp)) hp.dialect hcolumn).append
        (.plain hdirection)
    · exact ih (fun y hy => h y (by simp [hy])) hothers q hq

theorem aligned_orderClause (hp : p.Bindable d) {order : List (Field × Order)}
    (h : ∀ x ∈ order, (Requirement.bindable d).field x.1) {q : Sql}
    (hok : orderClause p order = .ok q) : q.Aligned d := by
  simp only [orderClause, bind_eq_ok, pure_eq_ok] at hok
  obtain ⟨columns, hcolumns, rfl⟩ := hok
  have hall := aligned_orderColumns hp h hcolumns
  split
  · exact .empty
  · exact (Aligned.plain (by decide)).append (.joined (by decide) hall)

end Query

section Shapes

variable {p : Plan} {filter : Sql}

theorem aligned_updateSql (hp : p.Bindable d) {assignments : List Sql}
    (h : ∀ q ∈ assignments, q.Aligned d) (hfilter : filter.Aligned d) :
    (updateSql p assignments filter).Aligned d := by
  have hsets : (Sql.joined ", " assignments).Aligned d := .joined (by decide) h
  have htable : Plain ("UPDATE " ++ p.root.entity.table) :=
    .append (by decide) hp.root.entity.model.table
  have hset : Aligned d (.text ("UPDATE " ++ p.root.entity.table ++ " SET ")) :=
    .plain (htable.append (by decide))
  have hon : ∀ j ∈ p.joins, Plain j.on := fun j hj => (hp.joins j hj).2.2
  simp only [updateSql]
  split
  · exact (hset.append hsets).append (aligned_filterClause hfilter)
  · split
    · exact ((((Aligned.plain htable).append (aligned_joinClauses hp.joins)).append
        (.plain (by decide))).append hsets).append (aligned_filterClause hfilter)
    · exact ((hset.append hsets).append
        (.plain (.append (by decide) (plain_joinSources hp.joins)))).append
        (aligned_whereClause hon hfilter)

theorem aligned_deleteSql (hp : p.Bindable d) (hfilter : filter.Aligned d) :
    (deleteSql p filter).Aligned d := by
  have htable := hp.root.entity.model.table
  have hon : ∀ j ∈ p.joins, Plain j.on := fun j hj => (hp.joins j hj).2.2
  have hkey : Plain (p.root.column p.root.entity.primaryKey) :=
    hp.root.column nameClass_isPlain hp.root.entity.model.primaryKey
  have hclauses := (aligned_joinClauses hp.joins).append (aligned_filterClause (d := d) hfilter)
  simp only [deleteSql]
  split
  · exact (Aligned.plain (.append (by decide) htable)).append (aligned_filterClause hfilter)
  · split
    · refine (Aligned.plain (((Spelled.append ?_ htable).append ?_).append
        (plain_joinSources hp.joins))).append (aligned_whereClause hon hfilter) <;> decide
    · refine (((Aligned.plain ?_).append (aligned_joinClauses hp.joins)).append
        (aligned_filterClause hfilter)).append (.plain (by decide))
      refine ((((((Spelled.append ?_ htable).append ?_).append hkey).append ?_).append hkey).append
        ?_).append htable <;> decide
    · refine ((Aligned.plain ?_).append (aligned_joinClauses hp.joins)).append
        (aligned_filterClause hfilter)
      exact (((Spelled.append (by decide) htable).append (by decide)).append htable)

end Shapes

namespace Update

variable {p : Plan}

theorem plain_target (hp : p.Bindable d) {qualified : Bool} {f : Field} (hf : f.Spelled isPlain)
    {column : String} (hok : target p qualified f = .ok column) : Plain column := by
  have hcolumn := hf.columnName nameClass_isPlain
  unfold target at hok
  split at hok
  · rw [← Except.ok.inj hok]
    exact hcolumn
  · split at hok
    · rw [← Except.ok.inj hok]
      exact hp.root.column nameClass_isPlain hcolumn
    · simp only [bind_eq_ok, pure_eq_ok] at hok
      obtain ⟨aliasName, halias, rfl⟩ := hok
      exact ((Plan.spelled_aliasFor hp.tables hf.model halias).append (by decide)).append hcolumn

theorem aligned_assignmentSql (hp : p.Bindable d) {qualified : Bool} {a : Assignment}
    (hfield : a.field.Spelled isPlain)
    (hvalue : ∀ other, a.value = .field other → (Requirement.bindable d).field other) {q : Sql}
    (hok : assignmentSql p qualified a = .ok q) : q.Aligned d := by
  simp only [assignmentSql, bind_eq_ok] at hok
  obtain ⟨column, hcolumn, hok⟩ := hok
  have htarget := plain_target hp hfield hcolumn
  have hassigned {value : Sql} (h : value.Aligned d) : (.text (column ++ " = ") ++ value : Sql).Aligned d :=
    (Aligned.plain (htarget.append (by decide))).append h
  split at hok
  · simp only [bind_eq_ok, pure_eq_ok] at hok
    obtain ⟨_, rfl, rfl⟩ := hok
    exact hassigned (.bound _)
  · rename_i other hother
    simp only [bind_eq_ok, pure_eq_ok] at hok
    obtain ⟨value, hreference, rfl⟩ := hok
    exact hassigned (Plan.aligned_reference hp.tables (hvalue other hother) hp.dialect hreference)
  · simp only [bind_eq_ok, pure_eq_ok] at hok
    obtain ⟨_, rfl, rfl⟩ := hok
    exact hassigned (.plain (by decide))

end Update

namespace Builder

variable {b : Builder}

/-- Every bindable statement is built as an aligned fragment. -/
theorem aligned_toSql (hb : b.Bindable d) {q : Sql} (hok : b.toSql d = .ok q) : q.Aligned d := by
  have hp := Plan.bindable_ofConditions hb.root hb.conditions
  have hconditions : Condition.AllMeet (.bindable d) (b.plan d).root b.conditions := by
    rw [plan, Plan.root_ofConditions]
    exact hb.conditions
  cases b with
  | query q =>
    simp only [toSql, Query.toSql, bind_eq_ok, pure_eq_ok] at hok
    obtain ⟨filter, hfilter, order, horder, rfl⟩ := hok
    have hfrom : Plain (" FROM " ++ q.root.table) := .append (by decide) hb.root.model.table
    have hselect := (Query.neutral_selectClause hp).append (Sql.neutral_of_plain hfrom)
    have hfields : ∀ x ∈ q.order, (Requirement.bindable d).field x.1 :=
      fun x hx => hb.fields x.1 (List.mem_map_of_mem hx)
    rw [String.append_assoc]
    exact ((((Aligned.text hselect).append (aligned_joinClauses hp.joins)).append
      (aligned_filterClause (Plan.aligned_filter hp hconditions hfilter))).append
      (Query.aligned_orderClause hp hfields horder)).append (.plain (Query.plain_pagination _ _ _ _))
  | update u =>
    simp only [toSql, Update.toSql, bind_eq_ok, pure_eq_ok, mapM_eq_ok] at hok
    obtain ⟨filter, hfilter, assignments, hassignments, rfl⟩ := hok
    refine aligned_updateSql hp (fun q hq => ?_) (Plan.aligned_filter hp hconditions hfilter)
    obtain ⟨a, ha, hok⟩ := exists_mem_left_of_forall₂ hassignments hq
    have hfields : ∀ f ∈ (match a.value with
        | .field other => [a.field, other]
        | _ => [a.field]), (Requirement.bindable d).field f :=
      fun f hf => hb.fields f (List.mem_flatMap.2 ⟨a, ha, hf⟩)
    refine Update.aligned_assignmentSql hp ?_ ?_ hok
    · refine (hfields a.field ?_).1
      split <;> simp
    · intro other hother
      exact hfields other (by simp [hother])
  | delete x =>
    simp only [toSql, Delete.toSql, bind_eq_ok] at hok
    obtain ⟨filter, hfilter, hok⟩ := hok
    have hfilter := Plan.aligned_filter hp hconditions hfilter
    split at hok
    · rename_i mark hmark
      have hcolumn : Plain mark := hb.root.model.deletedAt mark hmark
      rw [← pure_eq_ok.1 hok]
      refine aligned_updateSql hp (fun q hq => ?_) hfilter
      rw [List.mem_singleton.1 hq]
      refine .plain (Spelled.append ?_ (by decide))
      split
      · exact hp.root.column nameClass_isPlain hcolumn
      · exact hcolumn
    · rw [← pure_eq_ok.1 hok]
      exact aligned_deleteSql hp hfilter

/-- Scanning the text of a compiled statement finds a placeholder for each of its values, and numbering
them gives the fragment that the statement was built from with each value named by its position. -/
theorem placeholders_compile {s : Statement} (hb : b.Bindable d) (hok : b.compile d = .ok s) :
    (Sql.split d.backslashEscapes s.sql).count .param = s.params.length ∧
      ∃ q, b.toSql d = .ok q ∧ s = .ofSql q d s.preloads ∧
        Sql.split d.backslashEscapes s.sql = q.parts ∧ s.nativeSql = q.render d ∧
        ∀ k < s.params.length, ∃ before after, q.parts = before ++ .param :: after ∧
          before.count .param = k ∧
          s.sql = Sql.renderFrom (fun _ => "?") 0 before ++ "?"
            ++ Sql.renderFrom (fun _ => "?") (k + 1) after ∧
          s.nativeSql = Sql.renderFrom d.placeholder 0 before ++ d.placeholder (k + 1)
            ++ Sql.renderFrom d.placeholder (k + 1) after := by
  obtain ⟨q, hq, hs⟩ := compile_eq_ok hok
  have haligned := aligned_toSql hb hq
  have hsql : s.sql = q.toText := by rw [hs]; rfl
  have hparams : s.params = q.params := by rw [hs]; rfl
  have hdialect : s.dialect = d := by rw [hs]; rfl
  have hsplit : Sql.split d.backslashEscapes s.sql = q.parts := by
    rw [hsql]
    exact haligned.split_toText
  have hnative : s.nativeSql = q.render d := by
    rw [Statement.nativeSql, hdialect, Sql.numberPlaceholders, Sql.render, Sql.fragmentFor, hsplit]
    rfl
  have hcount : q.parts.count .param = s.params.length := by
    rw [hparams]
    exact haligned.count
  refine ⟨by rw [hsplit, hcount], q, hq, hs, hsplit, hnative, fun k hk => ?_⟩
  obtain ⟨before, after, hparts, hbefore⟩ := Sql.exists_placeholder (hcount ▸ hk)
  have hrender (placeholder : Nat → String) : Sql.renderFrom placeholder 0 q.parts =
      Sql.renderFrom placeholder 0 before ++ placeholder (k + 1)
        ++ Sql.renderFrom placeholder (k + 1) after := by
    rw [hparts, Sql.renderFrom_append, hbefore, Nat.zero_add, Sql.renderFrom, String.append_assoc]
  exact ⟨before, after, hparts, hbefore, by rw [hsql, Sql.toText, hrender],
    by rw [hnative, Sql.render, hrender]⟩

def sellersByCompany : Builder :=
  .query ((Query.ofConditions Sample.seller
    [.join Sample.employer true [],
      .filter ((Sample.sellerName.apply .concat [.text "!"]).eq (.text "a!")),
      .filter (.raw "\x7btable\x7d.name <> 'a?b' AND \x7btable\x7d.id < ?" [.int 3])]).orderedBy
    (Sample.companyName.apply .concat [.text "?"]) .descending)

theorem bindable_sellersByCompany : sellersByCompany.Bindable .postgres := by
  have hnames : ∀ s ∈ Sample.names, Plain s := by decide
  have hseller := Sample.spelled_sellerModel hnames
  have hcompany := Sample.spelled_companyModel hnames
  have hfilter : (Requirement.bindable .postgres).field (Sample.sellerName.apply .concat [.text "!"]) :=
    ⟨Sample.spelled_field hseller _ _, by decide⟩
  refine ⟨Sample.spelled_seller hnames,
    ⟨⟨Sample.spelled_employer hnames, trivial⟩, hfilter, ⟨by decide, by decide⟩, trivial⟩, ?_⟩
  intro f hf
  rw [List.mem_singleton.1 hf]
  exact ⟨Sample.spelled_field hcompany _ _, by decide⟩

/-- Each of four values of the sellers is found at its place. -/
theorem placeholders_sellersByCompany : ∃ s, sellersByCompany.compile .postgres = .ok s ∧
    s.params.length = 4 ∧ (Sql.split false s.sql).count .param = 4 ∧
      ∃ q, sellersByCompany.toSql .postgres = .ok q ∧ s.nativeSql = q.render .postgres := by
  obtain ⟨s, hs⟩ : ∃ s, sellersByCompany.compile .postgres = .ok s := ⟨_, rfl⟩
  have hlength : s.params.length = 4 := by
    cases hs
    rfl
  obtain ⟨hcount, q, hq, -, -, hnative, -⟩ := placeholders_compile bindable_sellersByCompany hs
  exact ⟨s, hs, hlength, hcount.trans hlength, q, hq, hnative⟩

end Builder
end Joinery
