import Joinery.Proofs.Guards
import Joinery.Proofs.Neutral
import Joinery.Proofs.Parameters
import Joinery.Proofs.PlannedAlike
import Mathlib.Data.List.Perm.Basic

/-! Predicates in another order.
Joins, and what is loaded, are planned before any predicate is written, and hang on predicates only by
whether there are some and which columns they compare. Predicates may therefore stand in any order among
themselves and among the joins of their scope: the statement is the same but for the order of its
conjuncts. -/
namespace Joinery

namespace Condition

def others (cs : List Condition) : List Condition :=
  cs.filter fun c => !c.isFilter

/-- Predicates moved within the lists of their scopes. All other conditions keep their order. -/
inductive Rearranged : List Condition → List Condition → Prop where
  | moved {cs cs' : List Condition} :
      (own cs).Perm (own cs') → others cs = others cs' → Rearranged cs cs'
  | joined (before : List Condition) (r : Relation) (load : Bool) (after : List Condition)
      {cs cs' : List Condition} :
      Rearranged cs cs' → Rearranged (before ++ .join r load cs :: after) (before ++ .join r load cs' :: after)
  | trans {cs cs' cs'' : List Condition} : Rearranged cs cs' → Rearranged cs' cs'' → Rearranged cs cs''

variable {cs cs' : List Condition}

theorem Rearranged.symm (h : Rearranged cs cs') : Rearranged cs' cs := by
  induction h with
  | moved hown hothers => exact .moved hown.symm hothers.symm
  | joined before r load after _ ih => exact ih.joined before r load after
  | trans _ _ ih ih' => exact ih'.trans ih

theorem filter_isFilter (cs : List Condition) : cs.filter isFilter = (own cs).map filter := by
  induction cs with
  | nil => rfl
  | cons c rest ih =>
    cases c with
    | filter p => exact congrArg (filter p :: ·) ih
    | join r load cs => exact ih
    | preload m fields => exact ih
    | collection r nested => exact ih

theorem perm_own_others (cs : List Condition) : cs.Perm ((own cs).map filter ++ others cs) := by
  rw [← filter_isFilter]
  exact (List.filter_append_perm isFilter cs).symm

theorem perm_of_moved (hown : (own cs).Perm (own cs')) (hothers : others cs = others cs') :
    cs.Perm cs' := by
  refine (perm_own_others cs).trans (.trans ?_ (perm_own_others cs').symm)
  rw [hothers]
  exact (hown.map filter).append_right _

end Condition

namespace Plan

open Condition

/-! Predicates have no part in what is planned. -/

theorem loadNamed_others (t : Table) (p : Plan) (cs : List Condition) :
    loadNamed t p (others cs) = loadNamed t p cs := by
  induction cs generalizing p with
  | nil => rfl
  | cons c rest ih => cases c <;> exact ih _

theorem addConditions_others (parent : Table) (path : String) (p : Plan) (cs : List Condition) :
    addConditions parent path p (others cs) = addConditions parent path p cs := by
  induction cs generalizing p with
  | nil => rfl
  | cons c rest ih => cases c <;> exact ih _

variable {cs cs' : List Condition}

theorem plannedAlike_moved (hown : (own cs).Perm (own cs')) (hothers : others cs = others cs') :
    PlannedAlike cs cs' where
  adds parent path p := by
    rw [← addConditions_others, ← addConditions_others parent path p cs', hothers]
  loadsNamed t p := by
    rw [← loadNamed_others, ← loadNamed_others t p cs', hothers]
  loads := (perm_of_moved hown hothers).any_eq
  filters := (perm_of_moved hown hothers).any_eq
  affects _ := (perm_of_moved hown hothers).any_eq

/-- The order of predicates makes no difference to a plan. -/
theorem plannedAlike_rearranged (h : Rearranged cs cs') : PlannedAlike cs cs' := by
  induction h with
  | moved hown hothers => exact plannedAlike_moved hown hothers
  | joined before r load after _ ih => exact (ih.join r load).around before after
  | trans _ _ ih ih' => exact ih.trans ih'

/-! What is written is moved with its predicate. -/

variable {p : Plan} {t : Table} {written : List Sql}

theorem exists_perm_scopeFilters (h : cs.Perm cs') (hwritten : p.scopeFilters t cs = .ok written) :
    ∃ written', p.scopeFilters t cs' = .ok written' ∧ written.Perm written' := by
  -- conditions write their parts one by one, so that the parts move along
  obtain ⟨parts, hparts, rfl⟩ := scopeFilters_eq_ok.1 hwritten
  obtain ⟨parts', hparts', hperm⟩ := List.perm_comp_forall₂ h.symm hparts
  exact ⟨parts'.flatten, scopeFilters_eq_ok.2 ⟨parts', hparts', rfl⟩, hperm.symm.flatten⟩

theorem exists_rearranged_scopeFilters (h : Rearranged cs cs')
    (hwritten : p.scopeFilters t cs = .ok written) :
    ∃ written', p.scopeFilters t cs' = .ok written' ∧ written.Perm written' := by
  induction h generalizing t written with
  | moved hown hothers => exact exists_perm_scopeFilters (perm_of_moved hown hothers) hwritten
  | joined before r load after _ ih =>
    obtain ⟨first, hfirst, rest, hrest, rfl⟩ := scopeFilters_append_eq_ok.1 hwritten
    simp only [scopeFilters, conditionFilters, bind_eq_ok, pure_eq_ok] at hrest
    obtain ⟨inner, hinner, last, hlast, rfl⟩ := hrest
    obtain ⟨inner', hinner', hperm⟩ := ih hinner
    refine ⟨first ++ (inner' ++ last), scopeFilters_append_eq_ok.2 ⟨first, hfirst, _, ?_, rfl⟩,
      (hperm.append_right last).append_left first⟩
    simp only [scopeFilters, conditionFilters, bind_eq_ok, pure_eq_ok]
    exact ⟨inner', hinner', last, hlast, rfl⟩
  | trans _ _ ih ih' =>
    obtain ⟨written', hwritten', hperm⟩ := ih hwritten
    obtain ⟨written'', hwritten'', hperm'⟩ := ih' hwritten'
    exact ⟨written'', hwritten'', hperm.trans hperm'⟩

def conjoined (qs : List Sql) : Sql :=
  if qs.isEmpty then .empty else .text "(" ++ Sql.joined " AND " qs ++ .text ")"

/-- The conjuncts of a filter are what the predicates write, and at the end the guard of the root. -/
theorem filter_eq_ok {q : Sql} : p.filter cs = .ok q ↔ ∃ written, p.scopeFilters p.root cs = .ok written ∧
    conjoined (written ++ (p.root.guards (own cs)).map Sql.text) = q := by
  simp only [filter, bind_eq_ok, pure_eq_ok, Table.toList_liveness?_own, conjoined]

theorem guards_rearranged (h : Rearranged cs cs') (t : Table) : t.guards (own cs) = t.guards (own cs') :=
  Table.guards_congr (plannedAlike_rearranged h).affects

theorem params_conjoined (qs : List Sql) : (conjoined qs).params = qs.flatMap Sql.params := by
  rw [conjoined]
  split
  · rename_i hnone
    rw [List.isEmpty_iff.1 hnone]
    rfl
  · simp

theorem params_conjoined_of_isEmpty {qs : List Sql} (h : (conjoined qs).isEmpty = true) :
    (conjoined qs).params = [] := by
  rw [conjoined] at h ⊢
  split at h
  · rename_i hnone
    rw [if_pos hnone]
    rfl
  · simp at h

end Plan

namespace Query

open Condition

theorem params_assembled (q : Query) (p : Plan) (written : List Sql) (guards : List String) (order : Sql) :
    (q.assembled p (Plan.conjoined (written ++ guards.map Sql.text)) order).params =
      written.flatMap Sql.params ++ order.params := by
  have hguards : (guards.map Sql.text).flatMap Sql.params = [] := by
    simp [List.flatMap_map]
  simp [assembled, Statement.ofSql, params_joinClauses, params_whereClause _ Plan.params_conjoined_of_isEmpty,
    Plan.params_conjoined, hguards]

variable {q : Query} {cs' : List Condition} {d : Dialect}

theorem compile_eq_ok {s : Statement} : q.compile d = .ok s ↔
    ∃ written, (Plan.ofConditions d q.root q.conditions).scopeFilters (.root q.root) q.conditions =
        .ok written ∧
      ∃ order, orderClause (Plan.ofConditions d q.root q.conditions) q.order = .ok order ∧
        q.assembled (Plan.ofConditions d q.root q.conditions)
          (Plan.conjoined (written ++ ((Table.root q.root).guards (own q.conditions)).map Sql.text)) order = s := by
  rw [compile_eq]
  simp only [bind_eq_ok, pure_eq_ok, Plan.filter_eq_ok, Plan.root_ofConditions]
  constructor
  · rintro ⟨filter, ⟨written, hwritten, rfl⟩, order, horder, rfl⟩
    exact ⟨written, hwritten, order, horder, rfl⟩
  · rintro ⟨written, hwritten, order, horder, rfl⟩
    exact ⟨_, ⟨written, hwritten, rfl⟩, order, horder, rfl⟩

/-- With its predicates in another order a query is assembled from the same plan, guard and order, and
from the same conjuncts in another order. -/
theorem exists_compile_rearranged (h : Rearranged q.conditions cs') {s : Statement}
    (hs : q.compile d = .ok s) :
    let p := Plan.ofConditions d q.root q.conditions
    let guards := ((Table.root q.root).guards (own q.conditions)).map Sql.text
    ∃ written written' order,
      { q with conditions := cs' }.compile d =
        .ok (q.assembled p (Plan.conjoined (written' ++ guards)) order) ∧
      s = q.assembled p (Plan.conjoined (written ++ guards)) order ∧
      p.scopeFilters (.root q.root) q.conditions = .ok written ∧
      p.scopeFilters (.root q.root) cs' = .ok written' ∧
      written.Perm written' ∧ orderClause p q.order = .ok order := by
  intro p guards
  obtain ⟨written, hwritten, order, horder, rfl⟩ := compile_eq_ok.1 hs
  obtain ⟨written', hwritten', hperm⟩ := Plan.exists_rearranged_scopeFilters h hwritten
  refine ⟨written, written', order, compile_eq_ok.2 ?_, rfl, hwritten, hwritten', hperm, horder⟩
  simp only [← (Plan.plannedAlike_rearranged h).ofConditions, ← Plan.guards_rearranged h]
  exact ⟨written', hwritten', order, horder, rfl⟩

/-- The predicates of a query may stand in any order in the lists of their scopes, before or after the joins
whose tables they refer to. The plan, with its joins, selected columns and preloads, is the same, and the
query compiles in one order just if it does in the other. The two statements differ in the order of their
conjuncts alone, each of which keeps its parameters; the guard of the root comes after them. -/
theorem compile_rearranged (q : Query) {cs' : List Condition} (h : Rearranged q.conditions cs') (d : Dialect) :
    let p := Plan.ofConditions d q.root q.conditions
    let guards := ((Table.root q.root).guards (own q.conditions)).map Sql.text
    Plan.ofConditions d q.root cs' = p ∧
    ((∃ s, q.compile d = .ok s) ↔ ∃ s', { q with conditions := cs' }.compile d = .ok s') ∧
    ∀ s s', q.compile d = .ok s → { q with conditions := cs' }.compile d = .ok s' →
      ∃ written written' order,
        p.scopeFilters p.root q.conditions = .ok written ∧ p.scopeFilters p.root cs' = .ok written' ∧
        written.Perm written' ∧ orderClause p q.order = .ok order ∧
        s = q.assembled p (Plan.conjoined (written ++ guards)) order ∧
        s' = q.assembled p (Plan.conjoined (written' ++ guards)) order ∧
        s.params = written.flatMap Sql.params ++ order.params ∧
        s'.params = written'.flatMap Sql.params ++ order.params := by
  intro p guards
  refine ⟨((Plan.plannedAlike_rearranged h).ofConditions d q.root).symm, ⟨?_, ?_⟩, ?_⟩
  · rintro ⟨s, hs⟩
    obtain ⟨written, written', order, hs', -⟩ := exists_compile_rearranged h hs
    exact ⟨_, hs'⟩
  · rintro ⟨s', hs'⟩
    obtain ⟨written, written', order, hs, -⟩ :=
      exists_compile_rearranged (q := { q with conditions := cs' }) h.symm hs'
    exact ⟨_, hs⟩
  · intro s s' hs hs'
    obtain ⟨written, written', order, hcompiled, rfl, hwritten, hwritten', hperm, horder⟩ :=
      exists_compile_rearranged h hs
    obtain rfl := Except.ok.inj (hs'.symm.trans hcompiled)
    have hroot : p.root = .root q.root := Plan.root_ofConditions
    exact ⟨written, written', order, hroot ▸ hwritten, hroot ▸ hwritten', hperm, horder, rfl, rfl,
      q.params_assembled p written _ order, q.params_assembled p written' _ order⟩

def namesakes : Query :=
  .ofConditions Sample.seller [
    .join Sample.employer true [preloadAll Sample.company,
      .filter (.compare Sample.companyName .notEq [.text "b"] none)],
    .filter (Sample.sellerName.compareFields .eq [Sample.companyName]),
    .filter (.compare Sample.sellerName .eq [.text "a"] none)]

def namesakesMoved : List Condition :=
  [.filter (.compare Sample.sellerName .eq [.text "a"] none),
    .filter (Sample.sellerName.compareFields .eq [Sample.companyName]),
    .join Sample.employer true [.filter (.compare Sample.companyName .notEq [.text "b"] none),
      preloadAll Sample.company]]

theorem rearranged_namesakes : Rearranged namesakes.conditions namesakesMoved := by
  have hwithin : Rearranged [preloadAll Sample.company,
      .filter (.compare Sample.companyName .notEq [.text "b"] none)]
      [.filter (.compare Sample.companyName .notEq [.text "b"] none), preloadAll Sample.company] :=
    .moved (.refl _) rfl
  exact (hwithin.joined [] Sample.employer true _).trans (.moved (.swap ..) rfl)

/-- The predicate on the company's name goes by the table of the join also where it stands before the join. -/
theorem compile_namesakes :
    (namesakes.compile .postgres).toOption.map (fun s => (s.sql, s.params.length)) = some
      ("SELECT sellers.*, company.id AS \"company__id\", company.name AS \"company__name\" FROM sellers"
        ++ " INNER JOIN companies company ON company.id = sellers.company_id AND company.deleted_at IS NULL"
        ++ " WHERE (company.name <> ? AND sellers.name = company.name AND sellers.name = ?)", 2) ∧
    (∃ s', { namesakes with conditions := namesakesMoved }.compile .postgres = .ok s') ∧
    Plan.ofConditions .postgres Sample.seller namesakesMoved =
      Plan.ofConditions .postgres Sample.seller namesakes.conditions := by
  obtain ⟨hplan, hiff, -⟩ := compile_rearranged namesakes rearranged_namesakes .postgres
  refine ⟨by decide +kernel, hiff.1 ⟨_, rfl⟩, hplan⟩

end Query
end Joinery
