import Joinery.Proofs.Guards
import Joinery.Proofs.Scoping.Pieces

/-! Scopes by their numbers.
The scope of the root has the number 0, and that of every join the number of its table among the tables of
the plan. The tables of the plan are those that the second pass reaches over the relations again. -/
namespace Joinery

namespace Condition

def join? : Condition → Option Join
  | .join r load cs => some ⟨r, load, cs⟩
  | _ => none

mutual

def joinCount : Condition → Nat
  | .filter _ => 0
  | .join _ _ cs => joinCounts cs + 1
  | .preload _ _ => 0
  | .collection _ _ => 0

def joinCounts : List Condition → Nat
  | [] => 0
  | c :: rest => joinCount c + joinCounts rest

end

/-- A condition with the number of its scope. -/
structure Numbered where
  scope : Nat
  condition : Condition
deriving Repr

mutual

/-- The condition and those below it, depth first; `next` is the number of the first join. -/
def numbered (scope next : Nat) : Condition → List Numbered
  | .join r load cs => ⟨scope, .join r load cs⟩ :: allNumbered next (next + 1) cs
  | c => [⟨scope, c⟩]

def allNumbered (scope next : Nat) : List Condition → List Numbered
  | [] => []
  | c :: rest => numbered scope next c ++ allNumbered scope (next + joinCount c) rest

end

mutual

/-- The condition and those below it, depth first, with the tables that their scopes reach. -/
def located (t : Table) : Condition → List (Table × Condition)
  | .join r load cs => (t, .join r load cs) :: allLocated (t.reach r) cs
  | c => [(t, c)]

def allLocated (t : Table) : List Condition → List (Table × Condition)
  | [] => []
  | c :: rest => located t c ++ allLocated t rest

end

namespace Numbered

def join? (o : Numbered) : Option (Nat × Join) :=
  o.condition.join?.map (o.scope, ·)

/-- A predicate with the number of its scope. -/
def filter? (o : Numbered) : Option (Nat × Predicate) :=
  o.condition.filter?.map (o.scope, ·)

end Numbered

def numberedJoins (cs : List Condition) : List (Nat × Join) :=
  (allNumbered 0 1 cs).filterMap Numbered.join?

def numberedFilters (cs : List Condition) : List (Nat × Predicate) :=
  (allNumbered 0 1 cs).filterMap Numbered.filter?

mutual

theorem length_links (t : Table) : (c : Condition) → (c.links t).length = c.joinCount
  | .filter _ => rfl
  | .join r _ cs => by simp [links, joinCount, length_allLinks (t.reach r) cs]
  | .preload _ _ => rfl
  | .collection _ _ => rfl

theorem length_allLinks (t : Table) : (cs : List Condition) → (allLinks t cs).length = joinCounts cs
  | [] => rfl
  | c :: rest => by simp [allLinks, joinCounts, length_links t c, length_allLinks t rest]

end

/-! The numbers. -/

mutual

/-- The scopes within a condition are its own, and those of its joins. -/
theorem scope_of_mem_numbered {scope next : Nat} :
    (c : Condition) → ∀ o ∈ c.numbered scope next,
      o.scope = scope ∨ next ≤ o.scope ∧ o.scope < next + c.joinCount
  | .join r load cs => by
    intro o ho
    rw [joinCount]
    obtain rfl | ho := List.mem_cons.1 ho
    · exact .inl rfl
    · have hinner := scope_of_mem_allNumbered cs o ho
      omega
  | .filter _ => by simp [numbered]
  | .preload _ _ => by simp [numbered]
  | .collection _ _ => by simp [numbered]

theorem scope_of_mem_allNumbered {scope next : Nat} :
    (cs : List Condition) → ∀ o ∈ allNumbered scope next cs,
      o.scope = scope ∨ next ≤ o.scope ∧ o.scope < next + joinCounts cs
  | [] => by simp [allNumbered]
  | c :: rest => by
    intro o ho
    rw [joinCounts]
    obtain ho | ho := List.mem_append.1 ho
    · have hfirst := scope_of_mem_numbered c o ho
      omega
    · have hrest := scope_of_mem_allNumbered rest o ho
      omega

end

mutual

theorem length_filterMap_join? (scope next : Nat) :
    (c : Condition) → ((c.numbered scope next).filterMap Numbered.join?).length = c.joinCount
  | .join r load cs => by
    simp [numbered, Numbered.join?, join?, joinCount, length_allFilterMap_join? next (next + 1) cs]
  | .filter _ => rfl
  | .preload _ _ => rfl
  | .collection _ _ => rfl

theorem length_allFilterMap_join? (scope next : Nat) : (cs : List Condition) →
    ((allNumbered scope next cs).filterMap Numbered.join?).length = joinCounts cs
  | [] => rfl
  | c :: rest => by
    simp [allNumbered, joinCounts, length_filterMap_join? scope next c,
      length_allFilterMap_join? scope (next + c.joinCount) rest]

end

mutual

theorem scope_lt_of_getElem? {scope next : Nat} (h : scope < next) :
    (c : Condition) → ∀ i k j,
      ((c.numbered scope next).filterMap Numbered.join?)[i]? = some (k, j) → k < next + i
  | .join r load cs => by
    intro i k j hi
    simp only [numbered, List.filterMap_cons, Numbered.join?, join?, Option.map_some] at hi
    cases i with
    | zero =>
      cases hi
      exact h
    | succ i =>
      have hinner := scope_lt_of_getElem?_all (Nat.lt_succ_self next) cs i k j hi
      omega
  | .filter _ => fun _ _ _ hi => by cases hi
  | .preload _ _ => fun _ _ _ hi => by cases hi
  | .collection _ _ => fun _ _ _ hi => by cases hi

theorem scope_lt_of_getElem?_all {scope next : Nat} (h : scope < next) :
    (cs : List Condition) → ∀ i k j,
      ((allNumbered scope next cs).filterMap Numbered.join?)[i]? = some (k, j) → k < next + i
  | [] => by simp [allNumbered]
  | c :: rest => by
    intro i k j hi
    rw [allNumbered, List.filterMap_append, List.getElem?_append, length_filterMap_join?] at hi
    split at hi
    · exact scope_lt_of_getElem? h c i k j hi
    · have hrest := scope_lt_of_getElem?_all (Nat.lt_add_right c.joinCount h) rest _ k j hi
      omega

end

/-! The tables of the scopes. -/

mutual

/-- If the tables of the joins have the numbers of the joins, every scope reaches the table that has its
number. -/
theorem located_eq {table : Nat → Table} {scope next : Nat} {t : Table} (ht : table scope = t) :
    (c : Condition) → (∀ i l, (c.links t)[i]? = some l → table (next + i) = l.table) →
      c.located t = (c.numbered scope next).map fun o => (table o.scope, o.condition)
  | .join r load cs => by
    intro hlinks
    have hinner := allLocated_eq (hlinks 0 _ rfl) cs fun i l hi => by
      have hnext := hlinks (i + 1) l (by simpa [links, Link.table] using hi)
      rwa [Nat.add_comm i 1, ← Nat.add_assoc] at hnext
    rw [located, numbered, List.map_cons, ht]
    exact congrArg _ hinner
  | .filter _ => fun _ => by simp [located, numbered, ht]
  | .preload _ _ => fun _ => by simp [located, numbered, ht]
  | .collection _ _ => fun _ => by simp [located, numbered, ht]

theorem allLocated_eq {table : Nat → Table} {scope next : Nat} {t : Table} (ht : table scope = t) :
    (cs : List Condition) → (∀ i l, (allLinks t cs)[i]? = some l → table (next + i) = l.table) →
      allLocated t cs = (allNumbered scope next cs).map fun o => (table o.scope, o.condition)
  | [] => fun _ => rfl
  | c :: rest => by
    intro hlinks
    have hfirst := located_eq ht c fun i l hi => hlinks i l (by
      rw [allLinks, List.getElem?_append_left (List.getElem?_eq_some_iff.1 hi).1, hi])
    have hrest := allLocated_eq ht rest fun i l hi => by
      have hnext := hlinks (c.joinCount + i) l (by
        rw [allLinks, List.getElem?_append_right (by simp [length_links]), length_links,
          Nat.add_sub_cancel_left, hi])
      rwa [← Nat.add_assoc] at hnext
    rw [allLocated, allNumbered, List.map_append, hfirst, hrest]

end

def linkOf? (s : Table × Condition) : Option Link :=
  s.2.join?.map (⟨s.1, ·⟩)

def filterOf? (s : Table × Condition) : Option (Table × Predicate) :=
  s.2.filter?.map (s.1, ·)

mutual

theorem links_eq_filterMap (t : Table) :
    (c : Condition) → c.links t = (c.located t).filterMap linkOf?
  | .join r load cs => by
    simp [links, located, linkOf?, join?, allLinks_eq_filterMap (t.reach r) cs]
  | .filter _ => rfl
  | .preload _ _ => rfl
  | .collection _ _ => rfl

theorem allLinks_eq_filterMap (t : Table) :
    (cs : List Condition) → allLinks t cs = (allLocated t cs).filterMap linkOf?
  | [] => rfl
  | c :: rest => by
    simp [allLinks, allLocated, links_eq_filterMap t c, allLinks_eq_filterMap t rest]

end

end Condition

namespace Plan

open Condition

def filtersAt (p : Plan) (cs : List (Table × Condition)) : Except QueryError (List Sql) :=
  ((cs.filterMap filterOf?).mapM fun s => p.predicate s.1 s.2).map (List.filter fun q => !q.isEmpty)

theorem filtersAt_append (p : Plan) (cs cs' : List (Table × Condition)) :
    p.filtersAt (cs ++ cs') = do
      let first ← p.filtersAt cs
      let others ← p.filtersAt cs'
      return first ++ others := by
  simp only [filtersAt, List.filterMap_append, List.mapM_append]
  cases (cs.filterMap filterOf?).mapM fun s => p.predicate s.1 s.2 with
  | error e => rfl
  | ok qs =>
    cases (cs'.filterMap filterOf?).mapM fun s => p.predicate s.1 s.2 with
    | error e => rfl
    | ok qs' => simp [Except.map, bind, Except.bind, pure, Except.pure]

mutual

/-- The second pass writes every predicate in the scope of the table that it reaches. -/
theorem conditionFilters_eq (p : Plan) (t : Table) :
    (c : Condition) → p.conditionFilters t c = p.filtersAt (c.located t)
  | .join r load cs => scopeFilters_eq p (t.reach r) cs
  | .filter c => by
    simp only [conditionFilters, located, filtersAt, List.filterMap_cons, filterOf?, filter?,
      Option.map_some, List.filterMap_nil, List.mapM_cons, List.mapM_nil]
    cases p.predicate t c with
    | error e => rfl
    | ok q => cases h : q.isEmpty <;> simp [Except.map, bind, Except.bind, pure, Except.pure, h]
  | .preload _ _ => rfl
  | .collection _ _ => rfl

theorem scopeFilters_eq (p : Plan) (t : Table) :
    (cs : List Condition) → p.scopeFilters t cs = p.filtersAt (allLocated t cs)
  | [] => rfl
  | c :: rest => by
    rw [scopeFilters, allLocated, filtersAt_append, conditionFilters_eq p t c, scopeFilters_eq p t rest]

end

/-- The table with a number; the root, if there is no such table. -/
def table (p : Plan) (k : Nat) : Table :=
  p.tables[k]?.getD p.root

variable {d : Dialect} {root : Entity} {cs : List Condition}

/-- The scopes of a statement reach the tables that are planned for them. -/
theorem allLocated_ofConditions : allLocated (.root root) cs =
    (allNumbered 0 1 cs).map fun o => ((ofConditions d root cs).table o.scope, o.condition) := by
  refine allLocated_eq ?_ cs fun i l hi => ?_
  · simp [table, tables_ofConditions]
  · rw [table, tables_ofConditions, Nat.add_comm, List.getElem?_cons_succ, List.getElem?_map, hi]
    rfl

theorem allLinks_ofConditions : allLinks (.root root) cs =
    (numberedJoins cs).map fun s => ⟨(ofConditions d root cs).table s.1, s.2⟩ := by
  rw [allLinks_eq_filterMap, allLocated_ofConditions (d := d), numberedJoins, List.filterMap_map,
    List.map_filterMap]
  refine List.filterMap_congr fun o _ => ?_
  simp [linkOf?, Numbered.join?, Function.comp_def]

theorem getElem?_tables {p : Plan} {k : Nat} (h : k < p.tables.length) : p.tables[k]? = some (p.table k) := by
  rw [table, List.getElem?_eq_getElem h]
  rfl

theorem length_tables_ofConditions :
    (ofConditions d root cs).tables.length = (numberedJoins cs).length + 1 := by
  rw [tables_ofConditions, List.length_cons, List.length_map, allLinks_ofConditions (d := d),
    List.length_map]

theorem join_ofConditions (d : Dialect) (root : Entity) {i k : Nat} {j : Join}
    (h : (numberedJoins cs)[i]? = some (k, j)) :
    let p := ofConditions d root cs
    k ≤ i ∧ p.tables[k]? = some (p.table k) ∧ p.tables[i + 1]? = some ((p.table k).reach j.relation) ∧
      p.joins[i]? = some (Link.planned ⟨p.table k, j⟩) := by
  intro p
  have hscope := scope_lt_of_getElem?_all Nat.zero_lt_one cs i k j h
  have hi := (List.getElem?_eq_some_iff.1 h).1
  have hlink : (allLinks (.root root) cs)[i]? = some ⟨p.table k, j⟩ := by
    rw [allLinks_ofConditions (d := d), List.getElem?_map, h]
    rfl
  refine ⟨by omega, getElem?_tables ?_, ?_, ?_⟩
  · rw [length_tables_ofConditions]
    omega
  · rw [tables_ofConditions, List.getElem?_cons_succ, List.getElem?_map, hlink]
    rfl
  · rw [joins_ofConditions, List.getElem?_map, hlink]
    rfl

/-- The filter of a statement writes every predicate in the scope of the table that is planned for it. -/
theorem scopeFilters_ofConditions :
    let p := ofConditions d root cs
    p.scopeFilters p.root cs = ((numberedFilters cs).mapM fun s => p.predicate (p.table s.1) s.2).map
      (List.filter fun q => !q.isEmpty) := by
  intro p
  have hfilters : (allLocated p.root cs).filterMap filterOf? =
      (numberedFilters cs).map fun s => (p.table s.1, s.2) := by
    rw [root_ofConditions, allLocated_ofConditions (d := d), numberedFilters, List.filterMap_map,
      List.map_filterMap]
    refine List.filterMap_congr fun o _ => ?_
    simp [filterOf?, Numbered.filter?, Function.comp_def, p]
  rw [scopeFilters_eq, filtersAt, hfilters, List.mapM_map]
  rfl

def filterPieces (p : Plan) (cs : List Condition) : Except QueryError (List Piece) := do
  let parts ← (numberedFilters cs).mapM fun s => p.predicatePieces [] (p.table s.1) s.2
  let written := parts.filter fun part => !(Piece.textOf part).isEmpty
  let conjuncts := written ++ guardPieces [] p.root fun mark => cs.any (·.affects mark)
  return if conjuncts.isEmpty then []
    else .text "(" :: Piece.separated " AND " conjuncts ++ [.text ")"]

theorem map_filter_textOf {parts : List (List Piece)} {qs : List Sql}
    (htexts : parts.map Piece.textOf = qs.map Sql.toText) (hqs : ∀ q ∈ qs, q.toText.isEmpty = q.isEmpty) :
    (parts.filter fun part => !(Piece.textOf part).isEmpty).map Piece.textOf =
      (qs.filter fun q => !q.isEmpty).map Sql.toText := by
  have hshown : (qs.filter fun q => !q.isEmpty) = qs.filter fun q => !q.toText.isEmpty :=
    List.filter_congr fun q hq => by rw [hqs q hq]
  have hparts := List.filter_map (f := Piece.textOf) (p := fun s => !s.isEmpty) (l := parts)
  have hwritten := List.filter_map (f := Sql.toText) (p := fun s => !s.isEmpty) (l := qs)
  rw [hshown]
  exact hparts.symm.trans ((congrArg _ htexts).trans hwritten)

theorem textOf_filterPieces : ((ofConditions d root cs).filterPieces cs).map Piece.textOf =
    ((ofConditions d root cs).filter cs).map Sql.toText := by
  let p := ofConditions d root cs
  let k (s : Nat × Predicate) := p.predicate (p.table s.1) s.2
  have hfilter : (p.filter cs).map Sql.toText = ((numberedFilters cs).mapM k >>= fun qs =>
      pure (filterText ((qs.filter fun q => !q.isEmpty).map Sql.toText ++
        p.root.guards (Condition.own cs)))).map id := by
    rw [toText_filter, scopeFilters_ofConditions]
    cases (numberedFilters cs).mapM k <;> rfl
  rw [hfilter]
  refine map_bind_congr (map_mapM_congr fun s _ => textOf_predicatePieces [] (p.table s.1) s.2) ?_
  intro parts qs hqs htexts
  have hwritten := map_filter_textOf htexts fun q hq => by
    obtain ⟨s, -, hs⟩ := exists_mem_left_of_forall₂ (mapM_eq_ok.1 hqs) hq
    exact toText_isEmpty_predicate hs
  have hguards := (textOf_guardPieces [] p.root fun mark => cs.any (·.affects mark)).trans
    (p.root.toList_liveness?_own cs)
  simp only [← hwritten, ← hguards, ← List.map_append, filterText, List.isEmpty_map]
  split <;> simp [Except.map, pure, Except.pure, Piece.written, String.append_assoc, p,
    -root_ofConditions]

end Plan
end Joinery
