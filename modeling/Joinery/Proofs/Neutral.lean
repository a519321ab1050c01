import Joinery.Proofs.Fragment
import Joinery.Proofs.Positions
import Joinery.Proofs.Samples

/-! Conjunctions and disjunctions of nothing, put into the conditions of a query.
They write nothing, and the query stays as it is but for one place: in the own list of a join that loads
and does not filter they count as a filter, and the `LEFT JOIN` becomes an `INNER JOIN`. -/
namespace Joinery

namespace Predicate

/-- A tree of conjunctions and disjunctions without leaves. -/
inductive Leafless : Predicate → Prop where
  | connect {c : Connective} {ps : List Predicate} (hc : c.mayVanish = true)
      (hps : ∀ p ∈ ps, Leafless p) : Leafless (.connect c ps)

theorem Leafless.affects {x : Predicate} (h : x.Leafless) (column : String) :
    x.affects column = false := by
  induction h with
  | @connect c ps hc hps ih =>
    rw [Predicate.affects, anyAffects_eq_any, List.any_eq_false]
    intro p hp
    simp [ih p hp]

/-- A tree without leaves compares no column, as if it were not there. -/
theorem Leafless.anyAffects {x : Predicate} (h : x.Leafless) (column : String) :
    Predicate.anyAffects column [x] = Predicate.anyAffects column [] := by
  simp only [Predicate.anyAffects, h.affects column]
  rfl

end Predicate

theorem Connective.resolve_of_mayVanish {c : Connective} (hc : c.mayVanish = true) (d : Dialect) :
    ∃ token, c.operator.resolve d = .ok token := by
  cases c with
  | and => cases d <;> exact ⟨_, rfl⟩
  | or => cases d <;> exact ⟨_, rfl⟩
  | not => cases hc
  | xor => cases hc

namespace Plan

variable {p : Plan} {t : Table}

theorem predicate_leafless {x : Predicate} (h : x.Leafless) : p.predicate t x = .ok .empty := by
  induction h with
  | @connect c ps hc hps ih =>
    obtain ⟨token, htoken⟩ := Connective.resolve_of_mayVanish hc p.dialect
    have hnone : p.predicates t ps = .ok [] := by
      refine predicates_eq_ok.2 ⟨ps.map fun _ => .empty, ?_, ?_⟩
      · rw [List.forall₂_map_right_iff, List.forall₂_same]
        exact ih
      · rw [List.filter_eq_nil_iff]
        intro q hq
        obtain ⟨x, -, rfl⟩ := List.mem_map.1 hq
        exact Bool.false_ne_true
    refine predicate_connect_eq_ok.2 ⟨token, htoken, [], hnone, ?_⟩
    simp only [connected, List.isEmpty_nil, hc, if_true]

theorem predicates_leafless {x : Predicate} (h : x.Leafless) :
    p.predicates t [x] = p.predicates t [] := by
  simp only [predicates, predicate_leafless h]
  rfl

end Plan

namespace Condition.Position

/-- Whether a position is in the own list of a join that keeps rows without a match. -/
def InLeftJoin : Position → Prop
  | .direct place => ∃ j, place.owner? [] = some j ∧ Plan.joinKind j = .left
  | .within _ _ _ => False

/-- What a tree without leaves does to the joins of a plan. -/
theorem planned_leafless {x : Predicate} (hx : x.Leafless) (π : Position) (parent : Table) :
    (¬ π.InLeftJoin ∧ (allLinks parent (π.fill [x])).map Link.planned =
      (allLinks parent (π.fill [])).map Link.planned) ∨
    (π.InLeftJoin ∧ ∃ (js : List PlannedJoin) (j : PlannedJoin) (js' : List PlannedJoin),
      (allLinks parent (π.fill [])).map Link.planned = js ++ { j with kind := .left } :: js' ∧
      (allLinks parent (π.fill [x])).map Link.planned = js ++ { j with kind := .inner } :: js') := by
  cases π with
  | within place node inner =>
    refine .inl ⟨id, place.planned_fill (fun column => ?_) parent⟩
    exact node.affects_holding (inner.anyAffects_fill (hx.anyAffects column))
  | direct place =>
    cases place with
    | here before after =>
      have hlinks := allLinks_filters parent [x]
      refine .inl ⟨?_, ?_⟩
      · rintro ⟨j, hj, -⟩
        cases hj
      · change (allLinks parent (before ++ [x].map filter ++ after)).map Link.planned =
          (allLinks parent (before ++ [] ++ after)).map Link.planned
        simp only [allLinks_append, hlinks]
        rfl
    | joined before r load inner after =>
      obtain ⟨js, j, js', hall⟩ := inner.exists_planned_fill before r load after parent []
      have hwith := hall [x] hx.anyAffects
      have hwithout := hall [] fun _ => rfl
      rw [(Place.joined before r load inner after).joinKind_owner x [] rfl] at hwith
      -- the kind of the join without the tree tells the two cases apart
      cases hkind : Plan.joinKind ((inner.owner? []).getD ⟨r, load, inner.fill []⟩) with
      | left =>
        simp only [List.map_nil, hkind] at hwithout
        exact .inr ⟨⟨_, rfl, hkind⟩, js, j, js', hwithout, hwith⟩
      | inner =>
        simp only [List.map_nil, hkind] at hwithout
        refine .inl ⟨?_, hwith.trans hwithout.symm⟩
        rintro ⟨o, ho, hleft⟩
        rw [← Option.some.inj ho, hkind] at hleft
        cases hleft

end Condition.Position

theorem exists_toText_joinClauses (js : List PlannedJoin) (j : PlannedJoin) (js' : List PlannedJoin) :
    ∃ before after, ∀ kind, (joinClauses (js ++ { j with kind := kind } :: js')).toText =
      before ++ kind.text ++ after := by
  refine ⟨(joinClauses js).toText ++ " ",
    " " ++ j.table ++ " " ++ j.aliasName ++ " ON " ++ j.on ++ (joinClauses js').toText, fun kind => ?_⟩
  simp only [joinClauses, Sql.toText_text, ← String.toList_inj]
  simp [PlannedJoin.clause]

namespace Query

def assembled (q : Query) (p : Plan) (filter order : Sql) : Statement :=
  .ofSql (.text (selectClause p ++ " FROM " ++ q.root.table) ++ joinClauses p.joins
    ++ whereClause [] filter ++ order
    ++ .text (pagination p.dialect q.limit q.offset (!q.order.isEmpty))) p.dialect p.preloads

theorem compile_eq (q : Query) (d : Dialect) :
    q.compile d = do
      let filter ← (Plan.ofConditions d q.root q.conditions).filter q.conditions
      let order ← orderClause (Plan.ofConditions d q.root q.conditions) q.order
      return q.assembled (Plan.ofConditions d q.root q.conditions) filter order := by
  simp only [compile, toSql, bind_assoc, pure_bind, assembled, Plan.dialect_ofConditions]

/-- The joins of a plan stand in one place of the statement. -/
theorem exists_assembled (q : Query) (p : Plan) (filter order : Sql) :
    ∃ before after params, ∀ joins, q.assembled { p with joins := joins } filter order =
      ⟨before ++ (joinClauses joins).toText ++ after, params, p.preloads, p.dialect⟩ := by
  refine ⟨selectClause p ++ " FROM " ++ q.root.table, (whereClause [] filter).toText ++ order.toText ++
    pagination p.dialect q.limit q.offset (!q.order.isEmpty),
    (whereClause [] filter).params ++ order.params, fun joins => ?_⟩
  have hparams : (joinClauses joins).params = [] := rfl
  simp only [assembled, Statement.ofSql, Sql.toText_append, Sql.toText_text, Sql.params_append,
    Sql.params_text, hparams, List.nil_append, List.append_nil, String.append_assoc]
  rfl

variable {q : Query} {x : Predicate} {π : Condition.Position} {d : Dialect}

theorem compile_leafless_cases (hx : x.Leafless) (hq : q.conditions = π.fill []) :
    (∃ e, q.compile d = .error e ∧ { q with conditions := π.fill [x] }.compile d = .error e) ∨
    ∃ filter order, q.compile d = .ok (q.assembled (.ofConditions d q.root (π.fill [])) filter order) ∧
      { q with conditions := π.fill [x] }.compile d =
        .ok (q.assembled (.ofConditions d q.root (π.fill [x])) filter order) := by
  have hplan : (Plan.ofConditions d q.root (π.fill [])).Rejoined (.ofConditions d q.root (π.fill [x])) :=
    (Plan.Rejoined.refl (.start d q.root)).fill _ _ π.place _ _
  have hfilter : (Plan.ofConditions d q.root (π.fill [x])).filter (π.fill [x]) =
      (Plan.ofConditions d q.root (π.fill [])).filter (π.fill []) := by
    rw [(hplan.named _).filter hplan.root]
    exact Plan.filter_fill hx.anyAffects (Plan.predicates_leafless hx)
  have horder : orderClause (.ofConditions d q.root (π.fill [x])) q.order =
      orderClause (.ofConditions d q.root (π.fill [])) q.order := by
    simp only [orderClause, (hplan.named _).orderColumns]
  rw [compile_eq, compile_eq, hq, hfilter, horder]
  cases (Plan.ofConditions d q.root (π.fill [])).filter (π.fill []) with
  | error e => exact .inl ⟨e, rfl, rfl⟩
  | ok filter =>
    cases orderClause (.ofConditions d q.root (π.fill [])) q.order with
    | error e => exact .inl ⟨e, rfl, rfl⟩
    | ok order => exact .inr ⟨filter, order, rfl, rfl⟩

theorem exists_assembled_fill (q : Query) (d : Dialect) (π : Condition.Position) (filter order : Sql) :
    ∃ before after params preloads, ∀ xs,
      q.assembled (.ofConditions d q.root (π.fill xs)) filter order =
        ⟨before ++ (joinClauses ((Condition.allLinks (.root q.root) (π.fill xs)).map Link.planned)).toText
          ++ after, params, preloads, d⟩ := by
  obtain ⟨before, after, params, h⟩ :=
    exists_assembled q (.ofConditions d q.root (π.fill [])) filter order
  refine ⟨before, after, params, (Plan.ofConditions d q.root (π.fill [])).preloads, fun xs => ?_⟩
  obtain ⟨joins, hjoins⟩ : (Plan.ofConditions d q.root (π.fill [])).Rejoined
      (.ofConditions d q.root (π.fill xs)) :=
    (Plan.Rejoined.refl (.start d q.root)).fill _ _ π.place _ _
  have hplanned : (Plan.ofConditions d q.root (π.fill xs)).joins =
      (Condition.allLinks (.root q.root) (π.fill xs)).map Link.planned := Plan.joins_ofConditions
  rw [hjoins] at hplanned
  rw [hjoins, h, ← hplanned, Plan.dialect_ofConditions]

/-- A query with a tree without leaves among its conditions compiles to the same result as without it,
unless the tree is in the own list of a left join, which then becomes an inner join. -/
theorem compile_leafless (hx : x.Leafless) (hq : q.conditions = π.fill []) (d : Dialect) :
    ({ q with conditions := π.fill [x] }.compile d = q.compile d ↔
      ¬ π.InLeftJoin ∨ ∃ e, q.compile d = .error e) ∧
    ∀ s, π.InLeftJoin → q.compile d = .ok s → ∃ before after,
      s.sql = before ++ "LEFT JOIN" ++ after ∧
      { q with conditions := π.fill [x] }.compile d =
        .ok { s with sql := before ++ "INNER JOIN" ++ after } := by
  obtain ⟨e, hwithout, hwith⟩ | ⟨filter, order, hwithout, hwith⟩ :=
    compile_leafless_cases (d := d) hx hq
  · rw [hwithout, hwith]
    exact ⟨⟨fun _ => .inr ⟨e, rfl⟩, fun _ => rfl⟩, nofun⟩
  · rw [hwithout, hwith]
    obtain ⟨before, after, params, preloads, hall⟩ := exists_assembled_fill q d π filter order
    rw [hall, hall]
    obtain ⟨hleft, hjoins⟩ | ⟨hleft, js, j, js', hjoins, hjoins'⟩ := π.planned_leafless hx (.root q.root)
    · rw [hjoins]
      exact ⟨⟨fun _ => .inl hleft, fun _ => rfl⟩, fun _ h => absurd h hleft⟩
    · obtain ⟨first, last, hclauses⟩ := exists_toText_joinClauses js j js'
      rw [hjoins, hjoins', hclauses, hclauses]
      refine ⟨⟨fun h => ?_, ?_⟩, fun s _ hs => ⟨before ++ first, last ++ after, ?_, ?_⟩⟩
      · have htext := congrArg (fun r => r.toOption.map fun s => s.sql.length) h
        simp only [JoinKind.text, Except.toOption, Option.map_some, Option.some.injEq,
          String.length_append, Nat.add_left_cancel_iff, Nat.add_right_cancel_iff] at htext
        exact absurd htext (by decide)
      · rintro (h | ⟨e, he⟩)
        · exact absurd hleft h
        · cases he
      · rw [← Except.ok.inj hs]
        simp [JoinKind.text, String.append_assoc]
      · rw [← Except.ok.inj hs]
        simp [JoinKind.text, String.append_assoc]

def sellersLoaded : Query :=
  .ofConditions Sample.seller [.join Sample.employer true []]

def besideEmployer : Condition.Position :=
  .direct (.here [.join Sample.employer true []] [])

def employerList : Condition.Position :=
  .direct (.joined [] Sample.employer true (.here [] []) [])

/-- Beside the join a tree without leaves changes nothing, and in its list it makes sellers without a
company go. -/
theorem compile_leafless_sellersLoaded :
    { sellersLoaded with conditions := [.join Sample.employer true [], .filter (.and [.or []])] }.compile
      .mysql = sellersLoaded.compile .mysql ∧
    ∃ s s' before after, sellersLoaded.compile .mysql = .ok s ∧ s.sql = before ++ "LEFT JOIN" ++ after ∧
      { sellersLoaded with conditions := [.join Sample.employer true [.filter (.and [.or []])]] }.compile
        .mysql = .ok s' ∧ s'.sql = before ++ "INNER JOIN" ++ after := by
  have hx : (Predicate.and [.or []]).Leafless :=
    .connect rfl (List.forall_mem_singleton.2 (.connect rfl nofun))
  have hbeside : ¬ besideEmployer.InLeftJoin := by
    rintro ⟨j, hj, -⟩
    cases hj
  have hwithin : employerList.InLeftJoin := ⟨_, rfl, rfl⟩
  have hconditions : sellersLoaded.conditions = besideEmployer.fill [] := rfl
  have hconditions' : sellersLoaded.conditions = employerList.fill [] := rfl
  obtain ⟨s, hs⟩ : ∃ s, sellersLoaded.compile .mysql = .ok s := ⟨_, rfl⟩
  refine ⟨(compile_leafless hx hconditions .mysql).1.2 (.inl hbeside), s, ?_⟩
  obtain ⟨before, after, htext, hs'⟩ := (compile_leafless hx hconditions' .mysql).2 s hwithin hs
  exact ⟨_, before, after, hs, htext, hs', rfl⟩

/-- A conjunction of nothing below a join that only loads is not neutral. -/
theorem leafless_not_neutral :
    (sellersLoaded.compile .postgres).toOption.map Statement.sql = some
      ("SELECT sellers.*, company.id AS \"company__id\", company.name AS \"company__name\" FROM sellers"
        ++ " LEFT JOIN companies company ON company.id = sellers.company_id AND company.deleted_at IS NULL") ∧
    ({ sellersLoaded with conditions := [.join Sample.employer true [.filter (.and [])]] }.compile
      .postgres).toOption.map Statement.sql = some
      ("SELECT sellers.*, company.id AS \"company__id\", company.name AS \"company__name\" FROM sellers"
        ++ " INNER JOIN companies company ON company.id = sellers.company_id AND company.deleted_at IS NULL") ∧
    ¬ ∀ (q : Query) (x : Predicate) (π : Condition.Position) (d : Dialect), x.Leafless →
      q.conditions = π.fill [] → { q with conditions := π.fill [x] }.compile d = q.compile d := by
  refine ⟨by decide +kernel, by decide +kernel, fun h => ?_⟩
  have hsame := h sellersLoaded (.and []) employerList .postgres (.connect rfl nofun) rfl
  have htext := congrArg (fun r => r.toOption.map Statement.sql) hsame
  revert htext
  decide +kernel

end Query
end Joinery
