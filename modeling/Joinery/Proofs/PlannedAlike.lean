import Joinery.Proofs.Positions

/-! Conditions that a plan takes for the same.
A plan reads off the conditions of a scope what they add to it, which fields of the scope they name to load,
whether they load and whether they filter, and which columns they compare. Conditions that agree on these
may stand for one another, at any place. -/
namespace Joinery

/-- Two lists of conditions of one scope that make no difference to a plan. -/
structure Condition.PlannedAlike (cs cs' : List Condition) : Prop where
  adds : ∀ parent path p, Plan.addConditions parent path p cs = Plan.addConditions parent path p cs'
  loadsNamed : ∀ t p, Plan.loadNamed t p cs = Plan.loadNamed t p cs'
  loads : cs.any Condition.loads = cs'.any Condition.loads
  filters : cs.any Condition.isFilter = cs'.any Condition.isFilter
  affects : ∀ column, cs.any (·.affects column) = cs'.any (·.affects column)

namespace Condition.PlannedAlike

variable {cs cs' cs'' : List Condition}

theorem trans (h : PlannedAlike cs cs') (h' : PlannedAlike cs' cs'') : PlannedAlike cs cs'' where
  adds parent path p := (h.adds parent path p).trans (h'.adds parent path p)
  loadsNamed t p := (h.loadsNamed t p).trans (h'.loadsNamed t p)
  loads := h.loads.trans h'.loads
  filters := h.filters.trans h'.filters
  affects column := (h.affects column).trans (h'.affects column)

theorem addJoin (h : PlannedAlike cs cs') (p : Plan) (parent : Table) (r : Relation) (load : Bool) :
    p.addJoin parent ⟨r, load, cs⟩ = p.addJoin parent ⟨r, load, cs'⟩ := by
  have hloads : (Join.mk r load cs).loads = (Join.mk r load cs').loads := by
    simp only [Join.loads, Join.toCondition, Condition.loads, anyLoads_eq_any, h.loads]
  have hfilter : (Join.mk r load cs).hasFilter = (Join.mk r load cs').hasFilter := h.filters
  have hkind : Plan.joinKind ⟨r, load, cs⟩ = Plan.joinKind ⟨r, load, cs'⟩ := by
    rw [Plan.joinKind, Plan.joinKind, hloads, hfilter]
  have haffects : (fun mark => cs.any (·.affects mark)) = fun mark => cs'.any (·.affects mark) :=
    funext h.affects
  have hplanned : Plan.plannedJoin parent ⟨r, load, cs⟩ = Plan.plannedJoin parent ⟨r, load, cs'⟩ := by
    simp only [Plan.plannedJoin, hkind, haffects]
  simp only [Plan.addJoin, hplanned, hloads, h.loadsNamed]

theorem join (h : PlannedAlike cs cs') (r : Relation) (load : Bool) :
    PlannedAlike [.join r load cs] [.join r load cs'] where
  adds parent path p := by
    simp only [Plan.addConditions, Plan.addCondition, h.addJoin, h.adds]
  loadsNamed _ _ := rfl
  loads := by
    simp only [List.any_cons, Condition.loads, anyLoads_eq_any, h.loads]
  filters := rfl
  affects _ := rfl

theorem collection (h : ∀ p path, Plan.addCollections p path cs = Plan.addCollections p path cs')
    (r : Relation) : PlannedAlike [.collection r cs] [.collection r cs'] where
  adds _ _ _ := h _ _
  loadsNamed _ _ := rfl
  loads := rfl
  filters := rfl
  affects _ := rfl

theorem around (h : PlannedAlike cs cs') (before after : List Condition) :
    PlannedAlike (before ++ (cs ++ after)) (before ++ (cs' ++ after)) where
  adds parent path p := by
    simp only [Plan.addConditions_append, h.adds]
  loadsNamed t p := by
    simp only [Plan.loadNamed_append, h.loadsNamed]
  loads := by
    simp only [List.any_append, h.loads]
  filters := by
    simp only [List.any_append, h.filters]
  affects column := by
    simp only [List.any_append, h.affects]

/-- Conditions that are planned alike may stand for one another at any place. -/
theorem fill (h : PlannedAlike cs cs') (place : Place) : PlannedAlike (place.fill cs) (place.fill cs') := by
  induction place with
  | here before after =>
    simp only [Place.fill, List.append_assoc]
    exact h.around before after
  | joined before r load inner after ih => exact (ih.join r load).around before after

theorem ofConditions (h : PlannedAlike cs cs') (d : Dialect) (root : Entity) :
    Plan.ofConditions d root cs = Plan.ofConditions d root cs' :=
  h.adds _ _ _

end Condition.PlannedAlike
end Joinery
