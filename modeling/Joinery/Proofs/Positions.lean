import Joinery.Proofs.JoinSafety.References

/-! Positions in conditions, at which predicates can be inserted: in the list of a scope, or in the list of
a connective or of a test for related rows, at any depth.
What a plan holds apart from the kinds of its joins hangs on no predicate, and neither does what is written
outside of a position hang on more than what is written there. -/
namespace Joinery

/-- A node with predicates below it. -/
inductive Branch where
  | connect (connective : Connective)
  | related (relation : Relation)
deriving Repr

namespace Branch

def holding : Branch → List Predicate → Predicate
  | .connect c, ps => .connect c ps
  | .related r, ps => .related r ps

/-- The table of the predicates below a node that itself is about a table. -/
def scope (t : Table) : Branch → Table
  | .connect _ => t
  | .related r => t.reach r

theorem affects_holding {column : String} {ps qs : List Predicate}
    (h : Predicate.anyAffects column ps = Predicate.anyAffects column qs) (node : Branch) :
    (node.holding ps).affects column = (node.holding qs).affects column := by
  cases node with
  | connect c => exact h
  | related r => rfl

end Branch

namespace Predicate

theorem anyAffects_append (column : String) (ps qs : List Predicate) :
    anyAffects column (ps ++ qs) = (anyAffects column ps || anyAffects column qs) := by
  simp only [anyAffects_eq_any, List.any_append]

/-- A position in a list of predicates, or in a list below them. -/
inductive Position where
  | here (before after : List Predicate)
  | under (before : List Predicate) (node : Branch) (inner : Position) (after : List Predicate)
deriving Repr

namespace Position

def fill (inserted : List Predicate) : Position → List Predicate
  | .here before after => before ++ inserted ++ after
  | .under before node inner after => before ++ node.holding (inner.fill inserted) :: after

def scope (t : Table) : Position → Table
  | .here _ _ => t
  | .under _ node inner _ => inner.scope (node.scope t)

theorem anyAffects_fill {column : String} {xs ys : List Predicate}
    (h : anyAffects column xs = anyAffects column ys) (π : Position) :
    anyAffects column (π.fill xs) = anyAffects column (π.fill ys) := by
  induction π with
  | here before after => simp only [fill, anyAffects_append, h]
  | under before node inner after ih =>
    simp only [fill, anyAffects_append, anyAffects, node.affects_holding ih]

end Position
end Predicate

namespace Condition

/-- A place in a list of conditions, or in the list of a join below them. -/
inductive Place where
  | here (before after : List Condition)
  | joined (before : List Condition) (relation : Relation) (load : Bool) (inner : Place)
    (after : List Condition)
deriving Repr

namespace Place

def fill (inserted : List Condition) : Place → List Condition
  | .here before after => before ++ inserted ++ after
  | .joined before r load inner after => before ++ .join r load (inner.fill inserted) :: after

def scope (t : Table) : Place → Table
  | .here _ _ => t
  | .joined _ r _ inner _ => inner.scope (t.reach r)

/-- The join in whose own list a place is, with conditions inserted there. -/
def owner? (inserted : List Condition) : Place → Option Join
  | .here _ _ => none
  | .joined _ r load inner _ => some ((inner.owner? inserted).getD ⟨r, load, inner.fill inserted⟩)

end Place

/-- A position for predicates in conditions: in the list of a scope, or below one of its predicates. -/
inductive Position where
  | direct (place : Place)
  | within (place : Place) (node : Branch) (inner : Predicate.Position)
deriving Repr

namespace Position

def place : Position → Place
  | .direct place => place
  | .within place _ _ => place

def inner : Position → Predicate.Position
  | .direct _ => .here [] []
  | .within _ node inner => .under [] node inner []

def fill (inserted : List Predicate) (π : Position) : List Condition :=
  π.place.fill ((π.inner.fill inserted).map .filter)

def scope (t : Table) (π : Position) : Table :=
  π.inner.scope (π.place.scope t)

end Position

theorem any_affects_filters (column : String) (xs : List Predicate) :
    (xs.map filter).any (·.affects column) = Predicate.anyAffects column xs := by
  rw [Predicate.anyAffects_eq_any, List.any_map]
  rfl

theorem anyLoads_filters (xs : List Predicate) : anyLoads (xs.map filter) = false := by
  induction xs with
  | nil => rfl
  | cons x rest ih => exact ih

theorem allLinks_append (parent : Table) (cs cs' : List Condition) :
    allLinks parent (cs ++ cs') = allLinks parent cs ++ allLinks parent cs' := by
  simp only [allLinks_eq_flatMap, List.flatMap_append]

theorem allLinks_filters (parent : Table) (xs : List Predicate) :
    allLinks parent (xs.map filter) = [] := by
  induction xs with
  | nil => rfl
  | cons x rest ih => exact ih

namespace Place

variable (place : Place) (xs ys : List Predicate)

theorem anyLoads_fill :
    anyLoads (place.fill (xs.map .filter)) = anyLoads (place.fill (ys.map .filter)) := by
  have hxs := anyLoads_filters xs
  have hys := anyLoads_filters ys
  rw [anyLoads_eq_any] at hxs hys
  induction place with
  | here before after => simp only [fill, anyLoads_eq_any, List.any_append, hxs, hys]
  | joined before r load inner after ih =>
    simp only [fill, anyLoads_eq_any, List.any_append, List.any_cons, loads] at ih ⊢
    rw [ih]

variable {xs ys}

theorem any_affects_fill {column : String} {cs cs' : List Condition}
    (h : cs.any (·.affects column) = cs'.any (·.affects column)) :
    (place.fill cs).any (·.affects column) = (place.fill cs').any (·.affects column) := by
  cases place with
  | here before after => simp only [fill, List.any_append, h]
  | joined before r load inner after => simp only [fill, List.any_append, List.any_cons, affects]

theorem plannedJoin_fill
    (h : ∀ column, Predicate.anyAffects column xs = Predicate.anyAffects column ys) (parent : Table)
    (r : Relation) (load : Bool) :
    Plan.plannedJoin parent ⟨r, load, place.fill (xs.map .filter)⟩ =
      { Plan.plannedJoin parent ⟨r, load, place.fill (ys.map .filter)⟩ with
        kind := Plan.joinKind ⟨r, load, place.fill (xs.map .filter)⟩ } := by
  have haffects : (fun mark => (place.fill (xs.map .filter)).any (·.affects mark)) =
      fun mark => (place.fill (ys.map .filter)).any (·.affects mark) :=
    funext fun mark => place.any_affects_fill (by simpa only [any_affects_filters] using h mark)
  simp only [Plan.plannedJoin, haffects]

/-- The join that a predicate is put into is no left one. -/
theorem joinKind_owner (x : Predicate) (xs : List Predicate) {j : Join}
    (h : place.owner? ((x :: xs).map .filter) = some j) : Plan.joinKind j = .inner := by
  induction place generalizing j with
  | here before after => cases h
  | joined before r load inner after ih =>
    have hj := Option.some.inj h
    cases inner with
    | here b a =>
      have hfilter : j.hasFilter = true := by
        rw [← hj]
        simp [owner?, fill, Join.hasFilter, isFilter]
      simp [Plan.joinKind, hfilter]
    | joined b r' load' inner a => exact ih (congrArg some hj)

/-- Of the joins that are planned, predicates change at most the kind of the one in whose own list they
are put. -/
theorem exists_planned_fill (before : List Condition) (r : Relation) (load : Bool)
    (after : List Condition) (parent : Table) (xs : List Predicate) :
    ∃ (js : List PlannedJoin) (j : PlannedJoin) (js' : List PlannedJoin), ∀ ys,
      (∀ column, Predicate.anyAffects column ys = Predicate.anyAffects column xs) →
        (allLinks parent ((joined before r load place after).fill (ys.map .filter))).map Link.planned =
          js ++ { j with kind := Plan.joinKind ((place.owner? (ys.map .filter)).getD
            ⟨r, load, place.fill (ys.map .filter)⟩) } :: js' := by
  induction place generalizing before r load after parent with
  | here b a =>
    refine ⟨(allLinks parent before).map Link.planned,
      Plan.plannedJoin parent ⟨r, load, (here b a).fill (xs.map .filter)⟩,
      (allLinks (parent.reach r) b ++ (allLinks (parent.reach r) a ++ allLinks parent after)).map
        Link.planned, fun ys h => ?_⟩
    have hplanned := (here b a).plannedJoin_fill h parent r load
    simp only [fill, owner?, allLinks_append, allLinks, links, allLinks_filters, Link.planned,
      List.append_assoc, List.nil_append, List.cons_append, List.map_append, List.map_cons,
      Option.getD_none, List.append_cancel_left_eq, List.cons.injEq, and_true] at hplanned ⊢
    rw [hplanned]
  | joined b r' load' inner a ih =>
    obtain ⟨js, j, js', hinner⟩ := ih b r' load' a (parent.reach r)
    refine ⟨(allLinks parent before).map Link.planned ++
      Plan.plannedJoin parent ⟨r, load, (joined b r' load' inner a).fill (xs.map .filter)⟩ :: js, j,
      js' ++ (allLinks parent after).map Link.planned, fun ys h => ?_⟩
    -- the predicates are below another join of this list, so that this one keeps its kind
    have hkind : Plan.joinKind ⟨r, load, (joined b r' load' inner a).fill (ys.map .filter)⟩ =
        Plan.joinKind ⟨r, load, (joined b r' load' inner a).fill (xs.map .filter)⟩ := by
      have hloads := (joined b r' load' inner a).anyLoads_fill ys xs
      simp only [Plan.joinKind, Join.loads, Join.toCondition, loads, hloads]
      simp only [Join.hasFilter, fill, List.any_append, List.any_cons, isFilter]
    have hplanned := (joined b r' load' inner a).plannedJoin_fill h parent r load
    rw [hkind] at hplanned
    rw [fill, allLinks_append, allLinks, links, List.map_append, List.map_append, List.map_cons,
      hinner ys h, Link.planned, hplanned]
    simp [owner?, Plan.plannedJoin]

theorem planned_fill {x y : Predicate} (h : ∀ column, x.affects column = y.affects column)
    (parent : Table) :
    (allLinks parent (place.fill [.filter x])).map Link.planned =
      (allLinks parent (place.fill [.filter y])).map Link.planned := by
  cases place with
  | here before after =>
    have hx := allLinks_filters parent [x]
    have hy := allLinks_filters parent [y]
    simp only [List.map_cons, List.map_nil] at hx hy
    simp only [fill, allLinks_append, hx, hy]
  | joined before r load inner after =>
    obtain ⟨js, j, js', hall⟩ := inner.exists_planned_fill before r load after parent [x]
    have hx := (joined before r load inner after).joinKind_owner x [] rfl
    have hy := (joined before r load inner after).joinKind_owner y [] rfl
    have hfillx := hall [x] fun _ => rfl
    have hfilly := hall [y] fun column => by simp only [Predicate.anyAffects, h column]
    rw [hx] at hfillx
    rw [hy] at hfilly
    exact hfillx.trans hfilly.symm

end Place

end Condition

namespace Plan

def Rejoined (p p' : Plan) : Prop :=
  ∃ joins, p' = { p with joins := joins }

theorem loadNamed_append (t : Table) (p : Plan) (cs cs' : List Condition) :
    loadNamed t p (cs ++ cs') = loadNamed t (loadNamed t p cs) cs' := by
  fun_induction loadNamed t p cs with
  | case1 p => rfl
  | case2 p m fields rest ih => exact ih
  | case3 p c rest h ih => rw [List.cons_append, loadNamed, ih]; exact h

theorem loadNamed_filters (t : Table) (p : Plan) (xs : List Predicate) :
    loadNamed t p (xs.map .filter) = p := by
  induction xs with
  | nil => rfl
  | cons x rest ih => exact ih

theorem addConditions_append (parent : Table) (path : String) (p : Plan) (cs cs' : List Condition) :
    addConditions parent path p (cs ++ cs') =
      addConditions parent path (addConditions parent path p cs) cs' := by
  induction cs generalizing p with
  | nil => rfl
  | cons c rest ih => exact ih _

theorem addConditions_filters (parent : Table) (path : String) (p : Plan) (xs : List Predicate) :
    addConditions parent path p (xs.map .filter) = p := by
  induction xs with
  | nil => rfl
  | cons x rest ih => exact ih

theorem loadNamed_fill (t : Table) (p : Plan) (place : Condition.Place) (xs ys : List Predicate) :
    loadNamed t p (place.fill (xs.map .filter)) = loadNamed t p (place.fill (ys.map .filter)) := by
  cases place with
  | here before after => simp only [Condition.Place.fill, loadNamed_append, loadNamed_filters]
  | joined before r load inner after => simp only [Condition.Place.fill, loadNamed_append, loadNamed]

namespace Rejoined

variable {p p' : Plan}

theorem refl (p : Plan) : p.Rejoined p :=
  ⟨p.joins, rfl⟩

theorem named (h : p.Rejoined p') (fields : List Field) : p.Named p' fields := by
  obtain ⟨joins, rfl⟩ := h
  exact ⟨rfl, fun _ _ => rfl⟩

theorem root (h : p.Rejoined p') : p'.root = p.root := by
  obtain ⟨joins, rfl⟩ := h
  rfl

theorem step (h : p.Rejoined p') (s : Step) : (p.step s).Rejoined (p'.step s) := by
  obtain ⟨joins, rfl⟩ := h
  cases s <;> exact ⟨_, rfl⟩

theorem follow (h : p.Rejoined p') (ss : List Step) : (p.follow ss).Rejoined (p'.follow ss) := by
  induction ss generalizing p p' with
  | nil => exact h
  | cons s rest ih => exact ih (h.step s)

theorem loadIf (h : p.Rejoined p') (b : Bool) (t : Table) (fields : List Field) :
    (if b then p.load t fields else p).Rejoined (if b then p'.load t fields else p') := by
  cases b with
  | false => exact h
  | true => exact h.step (.load ⟨t, fields⟩)

theorem loadNamed (h : p.Rejoined p') (t : Table) (cs : List Condition) :
    (Plan.loadNamed t p cs).Rejoined (Plan.loadNamed t p' cs) := by
  rw [loadNamed_eq_follow, loadNamed_eq_follow]
  exact h.follow _

theorem addConditions (h : p.Rejoined p') (parent : Table) (path : String) (cs : List Condition) :
    (Plan.addConditions parent path p cs).Rejoined (Plan.addConditions parent path p' cs) := by
  rw [addConditions_eq_follow, addConditions_eq_follow]
  exact h.follow _

theorem addJoin (h : p.Rejoined p') (parent : Table) (j j' : Join)
    (hrelation : j'.relation = j.relation) (hload : j'.load = j.load) (hloads : j'.loads = j.loads)
    (hnamed : ∀ t p, Plan.loadNamed t p j'.conditions = Plan.loadNamed t p j.conditions) :
    (p.addJoin parent j).Rejoined (p'.addJoin parent j') := by
  have hjoined : Rejoined
      { p with
        joins := p.joins ++ [plannedJoin parent j], tables := p.tables ++ [parent.reach j.relation] }
      { p' with
        joins := p'.joins ++ [plannedJoin parent j'],
        tables := p'.tables ++ [parent.reach j.relation] } := by
    obtain ⟨joins, rfl⟩ := h
    exact ⟨_, rfl⟩
  simp only [Plan.addJoin, hrelation, hload, hloads, hnamed]
  exact ((hjoined.loadIf _ _ _).loadIf _ _ _).loadNamed _ _

/-- Predicates of a place change nothing in a plan but its joins. -/
theorem fill (h : p.Rejoined p') (parent : Table) (path : String) (place : Condition.Place)
    (xs ys : List Predicate) :
    (Plan.addConditions parent path p (place.fill (xs.map .filter))).Rejoined
      (Plan.addConditions parent path p' (place.fill (ys.map .filter))) := by
  induction place generalizing parent path p p' with
  | here before after =>
    simp only [Condition.Place.fill, addConditions_append, addConditions_filters]
    exact (h.addConditions _ _ before).addConditions _ _ after
  | joined before r load inner after ih =>
    have hbefore := h.addConditions parent path before
    have hloads : (Join.mk r load (inner.fill (ys.map .filter))).loads =
        (Join.mk r load (inner.fill (xs.map .filter))).loads := by
      simp only [Join.loads, Join.toCondition, Condition.loads, inner.anyLoads_fill ys xs]
    have hjoined := hbefore.addJoin parent ⟨r, load, inner.fill (xs.map .filter)⟩
      ⟨r, load, inner.fill (ys.map .filter)⟩ rfl rfl hloads fun t p => loadNamed_fill t p inner ys xs
    simp only [Condition.Place.fill, addConditions_append, Plan.addConditions, Plan.addCondition]
    exact (ih hjoined _ _).addConditions _ _ after

end Rejoined

/-! What is written at a position, and around it. -/

theorem predicates_append (p : Plan) (t : Table) (ps qs : List Predicate) :
    p.predicates t (ps ++ qs) = do
      let first ← p.predicates t ps
      let others ← p.predicates t qs
      return first ++ others := by
  induction ps with
  | nil => simp only [List.nil_append, predicates, pure_bind, bind_pure]
  | cons c rest ih =>
    rw [List.cons_append, predicates, ih, predicates]
    simp only [bind_assoc, pure_bind]
    refine bind_congr fun q => bind_congr fun written => bind_congr fun others => ?_
    cases q.isEmpty <;> rfl

theorem scopeFilters_append (p : Plan) (t : Table) (cs cs' : List Condition) :
    p.scopeFilters t (cs ++ cs') = do
      let first ← p.scopeFilters t cs
      let others ← p.scopeFilters t cs'
      return first ++ others := by
  induction cs with
  | nil => simp only [List.nil_append, scopeFilters, pure_bind, bind_pure]
  | cons c rest ih =>
    rw [List.cons_append, scopeFilters, ih, scopeFilters]
    simp only [bind_assoc, pure_bind, List.append_assoc]

theorem scopeFilters_filters (p : Plan) (t : Table) (xs : List Predicate) :
    p.scopeFilters t (xs.map .filter) = p.predicates t xs := by
  induction xs with
  | nil => rfl
  | cons x rest ih =>
    simp only [List.map_cons, scopeFilters, conditionFilters, ih, predicates, bind_assoc, pure_bind]
    refine bind_congr fun q => bind_congr fun written => ?_
    cases q.isEmpty <;> rfl

variable {p : Plan} {t : Table} {xs ys : List Predicate}

theorem predicates_fill
    (haffects : ∀ column, Predicate.anyAffects column xs = Predicate.anyAffects column ys)
    {π : Predicate.Position} (h : p.predicates (π.scope t) xs = p.predicates (π.scope t) ys) :
    p.predicates t (π.fill xs) = p.predicates t (π.fill ys) := by
  induction π generalizing t with
  | here before after =>
    rw [Predicate.Position.scope] at h
    simp only [Predicate.Position.fill, predicates_append, h]
  | under before node inner after ih =>
    have hinner := ih h
    have hnode : p.predicate t (node.holding (inner.fill xs)) =
        p.predicate t (node.holding (inner.fill ys)) := by
      cases node with
      | connect c => simp only [Branch.holding, predicate, Branch.scope] at hinner ⊢; rw [hinner]
      | related r =>
        have hlive := fun mark => inner.anyAffects_fill (haffects mark)
        simp only [Predicate.anyAffects_eq_any] at hlive
        simp only [Branch.holding, predicate, Branch.scope, hlive] at hinner ⊢
        rw [hinner]
    simp only [Predicate.Position.fill, predicates_append, predicates, hnode]

theorem scopeFilters_fill {place : Condition.Place} {cs cs' : List Condition}
    (h : p.scopeFilters (place.scope t) cs = p.scopeFilters (place.scope t) cs') :
    p.scopeFilters t (place.fill cs) = p.scopeFilters t (place.fill cs') := by
  induction place generalizing t with
  | here before after =>
    rw [Condition.Place.scope] at h
    simp only [Condition.Place.fill, scopeFilters_append, h]
  | joined before r load inner after ih =>
    simp only [Condition.Place.fill, scopeFilters_append, scopeFilters, conditionFilters, ih h]

theorem filter_place {place : Condition.Place} {cs cs' : List Condition}
    (haffects : ∀ column, cs.any (·.affects column) = cs'.any (·.affects column))
    (h : p.scopeFilters (place.scope p.root) cs = p.scopeFilters (place.scope p.root) cs') :
    p.filter (place.fill cs) = p.filter (place.fill cs') := by
  have hlive : (p.root.liveness? fun mark => (place.fill cs).any (·.affects mark)) =
      p.root.liveness? fun mark => (place.fill cs').any (·.affects mark) :=
    congrArg p.root.liveness? (funext fun mark => place.any_affects_fill (haffects mark))
  rw [filter, filter, scopeFilters_fill h, hlive]

/-- A filter hangs on the predicates of a position by what these write. -/
theorem filter_fill
    (haffects : ∀ column, Predicate.anyAffects column xs = Predicate.anyAffects column ys)
    {π : Condition.Position} (h : p.predicates (π.scope p.root) xs = p.predicates (π.scope p.root) ys) :
    p.filter (π.fill xs) = p.filter (π.fill ys) := by
  refine filter_place (fun column => ?_) ?_
  · simpa only [Condition.any_affects_filters] using π.inner.anyAffects_fill (haffects column)
  · rw [scopeFilters_filters, scopeFilters_filters, predicates_fill haffects h]

end Plan
end Joinery
