import Joinery.Proofs.Reading.Comparison

/-! The formula that a tree of conditions stands for, over the atoms that it is written with, and its truth
by the connectives of the tree itself. -/
namespace Joinery

open Reading

def Connective.formula? : Connective → List Formula → Option Formula
  | .and, [] => none
  | .and, fs => some (.collect .all fs)
  | .or, [] => none
  | .or, fs => some (.collect .any fs)
  | .not, fs => some (.not (.collect .all fs))
  | .xor, fs => some (.collect .xor fs)

def Connective.truth? : Connective → List Bool → Option Bool
  | .and, [] => none
  | .and, bs => some (bs.all id)
  | .or, [] => none
  | .or, bs => some (bs.any id)
  | .not, bs => some (!bs.all id)
  | .xor, bs => some (bs.count true % 2 == 1)

namespace Plan

def itemsOf? (p : Plan) (t : Table) (c : Predicate) : Option (List Item) :=
  match p.predicate t c with
  | .ok q => items p.dialect.backslashEscapes q.toText
  | .error _ => none

mutual

/-- The formula of a predicate, if it writes anything: comparisons and tests for related rows are atoms,
and what MySQL writes with a `NOT` is a negated atom. -/
def formula? (p : Plan) (t : Table) : Predicate → Option Formula
  | .compare f o values escape =>
    if o.negatedOn p.dialect then
      (p.itemsOf? t (.compare f .nullSafeEq values escape)).map fun xs => .not (.atom xs)
    else (p.itemsOf? t (.compare f o values escape)).map .atom
  | .compareFields f o operands =>
    if o.negatedOn p.dialect then
      (p.itemsOf? t (.compareFields f .nullSafeEq operands)).map fun xs => .not (.atom xs)
    else (p.itemsOf? t (.compareFields f o operands)).map .atom
  | .connect c ps => c.formula? (formulas p t ps)
  | .related r ps => (p.itemsOf? t (.related r ps)).map .atom
  | .raw sql _ =>
    if inScope sql t.aliasName = "" then none
    else readSql p.dialect.backslashEscapes (inScope sql t.aliasName)

def formulas (p : Plan) (t : Table) : List Predicate → List Formula
  | [] => []
  | c :: rest => (formula? p t c).toList ++ formulas p t rest

end

mutual

/-- The truth of a predicate under a truth of the atoms, by its own connectives. -/
def truth? (p : Plan) (v : List Item → Bool) (t : Table) : Predicate → Option Bool
  | .compare f o values escape =>
    if o.negatedOn p.dialect then
      (p.itemsOf? t (.compare f .nullSafeEq values escape)).map fun xs => !v xs
    else (p.itemsOf? t (.compare f o values escape)).map v
  | .compareFields f o operands =>
    if o.negatedOn p.dialect then
      (p.itemsOf? t (.compareFields f .nullSafeEq operands)).map fun xs => !v xs
    else (p.itemsOf? t (.compareFields f o operands)).map v
  | .connect c ps => c.truth? (truths p v t ps)
  | .related r ps => (p.itemsOf? t (.related r ps)).map v
  | .raw sql _ =>
    if inScope sql t.aliasName = "" then none
    else (readSql p.dialect.backslashEscapes (inScope sql t.aliasName)).map (Formula.eval v)

def truths (p : Plan) (v : List Item → Bool) (t : Table) : List Predicate → List Bool
  | [] => []
  | c :: rest => (truth? p v t c).toList ++ truths p v t rest

end

mutual

/-- The formulas of the predicates of a condition and of the joins below it, depth first. -/
def conditionFormulas (p : Plan) (t : Table) : Condition → List Formula
  | .filter c => (p.formula? t c).toList
  | .join r _ cs => scopeFormulas p (t.reach r) cs
  | .preload _ _ => []
  | .collection _ _ => []

def scopeFormulas (p : Plan) (t : Table) : List Condition → List Formula
  | [] => []
  | c :: rest => conditionFormulas p t c ++ scopeFormulas p t rest

end

mutual

def conditionTruths (p : Plan) (v : List Item → Bool) (t : Table) : Condition → List Bool
  | .filter c => (p.truth? v t c).toList
  | .join r _ cs => scopeTruths p v (t.reach r) cs
  | .preload _ _ => []
  | .collection _ _ => []

def scopeTruths (p : Plan) (v : List Item → Bool) (t : Table) : List Condition → List Bool
  | [] => []
  | c :: rest => conditionTruths p v t c ++ scopeTruths p v t rest

end

def guardItems (p : Plan) (cs : List Condition) : List (List Item) :=
  (p.root.liveness? fun mark => cs.any (·.affects mark)).toList.filterMap
    (items p.dialect.backslashEscapes)

variable {p : Plan} {v : List Item → Bool}

theorem count_true_mod_two (bs : List Bool) :
    (bs.count true % 2 == 1) = bs.foldr Bool.xor false := by
  induction bs with
  | nil => rfl
  | cons b rest ih =>
    rw [List.foldr_cons, ← ih]
    cases b with
    | false => simp
    | true =>
      rw [List.count_cons_self]
      obtain h | h := Nat.mod_two_eq_zero_or_one (rest.count true)
      · simp [Nat.add_mod, h]
      · simp [Nat.add_mod, h]

theorem truth?_connective (c : Connective) (fs : List Formula) :
    c.truth? (fs.map (Formula.eval v)) = (c.formula? fs).map (Formula.eval v) := by
  cases c with
  | and =>
    cases fs with
    | nil => rfl
    | cons f rest => exact congrArg some (Formula.eval_collect_all (f :: rest)).symm
  | or =>
    cases fs with
    | nil => rfl
    | cons f rest => exact congrArg some (Formula.eval_collect_any (f :: rest)).symm
  | not =>
    rw [Connective.truth?, ← Formula.eval_collect_all]
    rfl
  | xor =>
    rw [Connective.truth?, count_true_mod_two, ← Formula.eval_collect_xor]
    rfl

mutual

/-- The tree and its formula have the same truth. -/
theorem truth?_eq_map (t : Table) :
    (c : Predicate) → p.truth? v t c = (p.formula? t c).map (Formula.eval v)
  | .compare f o values escape => by
    rw [truth?, formula?]
    split <;> simp [Function.comp_def, Formula.eval]
  | .compareFields f o operands => by
    rw [truth?, formula?]
    split <;> simp [Function.comp_def, Formula.eval]
  | .connect c ps => by
    rw [truth?, formula?, truths_eq_map t ps, truth?_connective]
  | .related r ps => by
    rw [truth?, formula?]
    simp [Function.comp_def, Formula.eval]
  | .raw sql values => by
    rw [truth?, formula?]
    split <;> simp

theorem truths_eq_map (t : Table) :
    (ps : List Predicate) → p.truths v t ps = (p.formulas t ps).map (Formula.eval v)
  | [] => rfl
  | c :: rest => by
    rw [truths, formulas, truth?_eq_map t c, truths_eq_map t rest, List.map_append]
    cases p.formula? t c <;> rfl

end

mutual

theorem conditionTruths_eq_map (t : Table) :
    (c : Condition) → p.conditionTruths v t c = (p.conditionFormulas t c).map (Formula.eval v)
  | .filter c => by
    rw [conditionTruths, conditionFormulas, truth?_eq_map]
    cases p.formula? t c <;> rfl
  | .join r _ cs => scopeTruths_eq_map (t.reach r) cs
  | .preload _ _ => rfl
  | .collection _ _ => rfl

theorem scopeTruths_eq_map (t : Table) :
    (cs : List Condition) → p.scopeTruths v t cs = (p.scopeFormulas t cs).map (Formula.eval v)
  | [] => rfl
  | c :: rest => by
    rw [scopeTruths, scopeFormulas, conditionTruths_eq_map t c, scopeTruths_eq_map t rest,
      List.map_append]

end

end Plan
end Joinery
