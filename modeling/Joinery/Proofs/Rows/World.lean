import Joinery.Proofs.Plans

/-! What join clauses and lists of tables mean.
A combination of rows gives a row to each table of a statement by its name. A join clause extends a
combination by the rows that fulfil its condition, and a `LEFT JOIN` without such a row by nulls. A list
of tables combines all their rows, and a filter with the conditions of the joins chooses among them. -/
namespace Joinery

/-- The equality of SQL, which holds for no null. -/
def Value.equals (a b : Value) : Bool :=
  !a.isNull && a == b

theorem Value.isNull_of_equals {a b : Value} (h : a.equals b = true) :
    a.isNull = false ∧ b.isNull = false := by
  simp only [equals, Bool.and_eq_true, Bool.not_eq_true'] at h
  refine ⟨h.1, ?_⟩
  cases b with
  | null => cases a <;> cases h.1 <;> cases h.2
  | _ => rfl

abbrev Row := String → Value

/-- A row without values, as outer joins give it. -/
def Row.nulls : Row := fun _ => .null

/-- Rows by the names of their tables; of two tables of one name the first is meant. -/
abbrev Combination := List (String × Row)

def Combination.value (e : Combination) (table column : String) : Value :=
  match e.lookup table with
  | some row => row column
  | none => .null

inductive JoinTest where
  | equal (table column other otherColumn : String)
  | isNull (table column : String)
deriving DecidableEq, Repr

namespace JoinTest

def text : JoinTest → String
  | .equal table column other otherColumn =>
    table ++ "." ++ column ++ " = " ++ (other ++ "." ++ otherColumn)
  | .isNull table column => table ++ "." ++ column ++ " IS NULL"

def holds (e : Combination) : JoinTest → Bool
  | .equal table column other otherColumn => (e.value table column).equals (e.value other otherColumn)
  | .isNull table column => (e.value table column).isNull

def tables : JoinTest → List String
  | .equal table _ other _ => [table, other]
  | .isNull table _ => [table]

end JoinTest

namespace Combination

variable {e more : Combination}

theorem value_append {table : String} (h : (e.lookup table).isSome) (column : String) :
    value (e ++ more) table column = e.value table column := by
  obtain ⟨row, hrow⟩ := Option.isSome_iff_exists.1 h
  simp [value, List.lookup_append, hrow]

theorem holds_append {c : JoinTest} (h : ∀ table ∈ c.tables, (e.lookup table).isSome) :
    c.holds (e ++ more) = c.holds e := by
  cases c with
  | equal table column other otherColumn =>
    have htable : (e.lookup table).isSome := h table (by simp [JoinTest.tables])
    have hother : (e.lookup other).isSome := h other (by simp [JoinTest.tables])
    simp only [JoinTest.holds, value_append htable, value_append hother]
  | isNull table column =>
    have htable : (e.lookup table).isSome := h table (by simp [JoinTest.tables])
    simp only [JoinTest.holds, value_append htable]

theorem lookup_isSome {table : String} (h : table ∈ e.map Prod.fst) : (e.lookup table).isSome := by
  induction e with
  | nil => cases h
  | cons x rest ih =>
    obtain ⟨name, row⟩ := x
    rw [List.lookup_cons]
    by_cases hname : table = name
    · simp [hname]
    · have hrest : table ∈ rest.map Prod.fst := by simpa [hname] using h
      rw [beq_false_of_ne hname]
      exact ih hrest

end Combination

namespace Table

/-- The deletion mark to guard against, if the conditions do not speak of it. -/
def guardedMark? (t : Table) (affected : String → Bool) : Option String :=
  t.entity.deletedAt.filter fun mark => !affected mark

theorem liveness?_eq (t : Table) (affected : String → Bool) :
    t.liveness? affected = (t.guardedMark? affected).map fun mark => t.column mark ++ " IS NULL" := by
  unfold liveness? guardedMark?
  cases t.entity.deletedAt with
  | none => rfl
  | some mark => cases h : affected mark <;> simp [Option.filter, h]

def keyTest (parent : Table) (r : Relation) : JoinTest :=
  .equal (parent.reach r).aliasName r.foreignColumn parent.aliasName r.localColumn

def markTests (t : Table) (mark : Option String) : List JoinTest :=
  mark.toList.map (.isNull t.aliasName)

theorem text_keyTest (parent : Table) (r : Relation) :
    (parent.keyTest r).text = parent.keyEquality r := rfl

theorem text_markTests (t : Table) (mark : Option String) :
    (t.markTests mark).map JoinTest.text =
      (mark.map fun mark => t.column mark ++ " IS NULL").toList := by
  cases mark <;> rfl

end Table

namespace Link

def name (l : Link) : String := l.table.aliasName

def kind (l : Link) : JoinKind := l.planned.kind

/-- The condition of the join: the keys agree, and the row is not marked as deleted. -/
def tests (l : Link) : List JoinTest :=
  let mark := l.table.guardedMark? fun mark => l.join.conditions.any (·.affects mark)
  .equal l.name l.join.relation.foreignColumn l.parent.aliasName l.join.relation.localColumn
    :: mark.toList.map (.isNull l.name)

theorem tests_eq (l : Link) : l.tests =
    l.parent.keyTest l.join.relation ::
      l.table.markTests (l.table.guardedMark? fun mark => l.join.conditions.any (·.affects mark)) := rfl

/-- A planned join is written with these tests. -/
theorem on_planned (l : Link) :
    l.planned.on = String.intercalate " AND " (l.tests.map JoinTest.text) := by
  rw [l.on_eq (l.table.liveness?_eq _), tests_eq, List.map_cons, Table.text_keyTest,
    Table.text_markTests]

def holds (l : Link) (e : Combination) : Bool :=
  l.tests.all (·.holds e)

theorem tables_tests (l : Link) : ∀ c ∈ l.tests, ∀ t ∈ c.tables, t = l.name ∨ t = l.parent.aliasName := by
  intro c hc t ht
  obtain rfl | hc := List.mem_cons.1 hc
  · simpa [JoinTest.tables] using ht
  · obtain ⟨mark, _, rfl⟩ := List.mem_map.1 hc
    exact .inl (by simpa [JoinTest.tables] using ht)

theorem holds_append {l : Link} {e more : Combination} (hname : l.name ∈ e.map Prod.fst)
    (hparent : l.parent.aliasName ∈ e.map Prod.fst) : l.holds (e ++ more) = l.holds e := by
  have htests : ∀ c ∈ l.tests, c.holds (e ++ more) = c.holds e := by
    intro c hc
    refine Combination.holds_append fun t ht => ?_
    obtain rfl | rfl := l.tables_tests c hc t ht
    · exact Combination.lookup_isSome hname
    · exact Combination.lookup_isSome hparent
  rw [Bool.eq_iff_iff, holds, holds, List.all_eq_true, List.all_eq_true]
  exact forall₂_congr fun c hc => by rw [htests c hc]

theorem holds_joined {l : Link} {e more : Combination} {row : Row}
    (hparent : l.parent.aliasName ∈ e.map Prod.fst) :
    l.holds (e ++ [(l.name, row)] ++ more) = l.holds (e ++ [(l.name, row)]) := by
  have hname : l.name ∈ (e ++ [(l.name, row)]).map Prod.fst := by simp
  have hparent' : l.parent.aliasName ∈ (e ++ [(l.name, row)]).map Prod.fst := by
    rw [List.map_append]
    exact List.mem_append_left _ hparent
  exact holds_append hname hparent'

end Link

/-- The rows of every table, and which filters hold of a combination of rows. -/
structure World where
  rows : String → List Row
  holds : Sql → Combination → Bool

namespace World

variable (w : World)

def joinedRows (l : Link) : List Row :=
  w.rows l.join.relation.target.table

/-- The combination with the rows that fulfil a join. -/
def matched (l : Link) (e : Combination) : List Combination :=
  ((w.joinedRows l).map fun row => e ++ [(l.name, row)]).filter l.holds

/-- A join clause; the left join keeps a combination that no row fulfils it with. -/
def joined (l : Link) (e : Combination) : List Combination :=
  match l.kind, w.matched l e with
  | .left, [] => [e ++ [(l.name, .nulls)]]
  | _, es => es

def joinAll : List Link → Combination → List Combination
  | [], e => [e]
  | l :: ls, e => (w.joined l e).flatMap (joinAll ls)

/-- The combinations with any rows of the listed tables. -/
def listAll : List Link → Combination → List Combination
  | [], e => [e]
  | l :: ls, e => (w.joinedRows l).flatMap fun row => listAll ls (e ++ [(l.name, row)])

def satisfies (filter : Sql) (e : Combination) : Bool :=
  filter.isEmpty || w.holds filter e

variable {w} {l : Link} {ls : List Link} {e e' : Combination}

theorem mem_matched : e' ∈ w.matched l e ↔
    ∃ row ∈ w.joinedRows l, e' = e ++ [(l.name, row)] ∧ l.holds e' = true := by
  simp only [matched, List.mem_filter, List.mem_map]
  constructor
  · rintro ⟨⟨row, hrow, rfl⟩, hholds⟩
    exact ⟨row, hrow, rfl, hholds⟩
  · rintro ⟨row, hrow, rfl, hholds⟩
    exact ⟨⟨row, hrow, rfl⟩, hholds⟩

theorem matched_subset_joined : w.matched l e ⊆ w.joined l e := by
  intro e' he'
  unfold joined
  split
  · rename_i hnone
    rw [hnone] at he'
    cases he'
  · exact he'

theorem joined_of_inner (h : l.kind = .inner) : w.joined l e = w.matched l e := by
  unfold joined
  rw [h]

theorem joined_of_unmatched (hkind : l.kind = .left) (h : w.matched l e = []) :
    w.joined l e = [e ++ [(l.name, .nulls)]] := by
  unfold joined
  rw [hkind, h]

theorem exists_mem_joinAll (hleft : ∀ l ∈ ls, l.kind = .left) (e : Combination) :
    ∃ e', e' ∈ w.joinAll ls e := by
  induction ls generalizing e with
  | nil => exact ⟨e, by simp [joinAll]⟩
  | cons l ls ih =>
    have hjoined : ∃ e₁, e₁ ∈ w.joined l e := by
      cases h : w.matched l e with
      | nil => exact ⟨_, joined_of_unmatched (hleft l (by simp)) h ▸ List.mem_singleton_self _⟩
      | cons e₁ es => exact ⟨e₁, matched_subset_joined (by simp [h])⟩
    obtain ⟨e₁, he₁⟩ := hjoined
    obtain ⟨e', he'⟩ := ih (fun l' hl' => hleft l' (by simp [hl'])) e₁
    exact ⟨e', List.mem_flatMap.2 ⟨e₁, he₁, he'⟩⟩

theorem exists_append_of_mem_listAll (h : e' ∈ w.listAll ls e) : ∃ more, e' = e ++ more := by
  induction ls generalizing e with
  | nil => exact ⟨[], by simpa [listAll] using h⟩
  | cons l ls ih =>
    obtain ⟨row, _, hrest⟩ := List.mem_flatMap.1 h
    obtain ⟨more, rfl⟩ := ih hrest
    exact ⟨(l.name, row) :: more, by simp⟩

/-- Whether every join starts from a table that is named before it. -/
def Rooted (names : List String) : List Link → Prop
  | [] => True
  | l :: ls => l.parent.aliasName ∈ names ∧ Rooted (names ++ [l.name]) ls

theorem Rooted.mono {names names' : List String} (hsub : names ⊆ names') (h : Rooted names ls) :
    Rooted names' ls := by
  induction ls generalizing names names' with
  | nil => trivial
  | cons l ls ih =>
    refine ⟨hsub h.1, ih ?_ h.2⟩
    have hleft : names ⊆ names' ++ [l.name] :=
      List.Subset.trans hsub (List.subset_append_left _ _)
    exact List.append_subset.2 ⟨hleft, List.subset_append_right _ _⟩

theorem Rooted.append {names : List String} {ls' : List Link} (h : Rooted names ls)
    (h' : Rooted names ls') : Rooted names (ls ++ ls') := by
  induction ls generalizing names with
  | nil => exact h'
  | cons l ls ih => exact ⟨h.1, ih h.2 (h'.mono (List.subset_append_left _ _))⟩

mutual

theorem rooted_links {t : Table} {names : List String} (ht : t.aliasName ∈ names) :
    (c : Condition) → Rooted names (c.links t)
  | .join r _ cs => ⟨ht, rooted_allLinks (by simp [Link.name, Link.table]) cs⟩
  | .filter _ => trivial
  | .preload _ _ => trivial
  | .collection _ _ => trivial

/-- The joins of conditions start from the table of their scope, or from one another. -/
theorem rooted_allLinks {t : Table} {names : List String} (ht : t.aliasName ∈ names) :
    (cs : List Condition) → Rooted names (Condition.allLinks t cs)
  | [] => trivial
  | c :: rest => (rooted_links ht c).append (rooted_allLinks ht rest)

end

/-- A combination of listed rows that fulfils every join is one of the join clauses too. -/
theorem mem_joinAll_of_holds (hrooted : Rooted (e.map Prod.fst) ls) (h : e' ∈ w.listAll ls e)
    (hholds : ∀ l ∈ ls, l.holds e' = true) : e' ∈ w.joinAll ls e := by
  induction ls generalizing e with
  | nil => exact h
  | cons l ls ih =>
    obtain ⟨row, hrow, hrest⟩ := List.mem_flatMap.1 h
    obtain ⟨more, rfl⟩ := exists_append_of_mem_listAll hrest
    have hl : l.holds (e ++ [(l.name, row)]) = true :=
      Link.holds_joined hrooted.1 ▸ hholds l (by simp)
    have hjoined : e ++ [(l.name, row)] ∈ w.joined l e :=
      matched_subset_joined (mem_matched.2 ⟨row, hrow, rfl, hl⟩)
    refine List.mem_flatMap.2 ⟨_, hjoined, ih ?_ hrest fun l' hl' => hholds l' (by simp [hl'])⟩
    simpa using hrooted.2

/-- Without left joins, the join clauses choose among the listed rows by their conditions. -/
theorem mem_listAll_of_inner (hinner : ∀ l ∈ ls, l.kind = .inner)
    (hrooted : Rooted (e.map Prod.fst) ls) (h : e' ∈ w.joinAll ls e) :
    e' ∈ w.listAll ls e ∧ ∀ l ∈ ls, l.holds e' = true := by
  induction ls generalizing e with
  | nil => exact ⟨h, by simp⟩
  | cons l ls ih =>
    obtain ⟨e₁, he₁, hrest⟩ := List.mem_flatMap.1 h
    rw [joined_of_inner (hinner l (by simp)), mem_matched] at he₁
    obtain ⟨row, hrow, rfl, hl⟩ := he₁
    obtain ⟨hlist, hholds⟩ := ih (fun l' hl' => hinner l' (by simp [hl']))
      (by simpa using hrooted.2) hrest
    refine ⟨List.mem_flatMap.2 ⟨row, hrow, hlist⟩, ?_⟩
    obtain ⟨more, rfl⟩ := exists_append_of_mem_listAll hlist
    intro l' hl'
    obtain rfl | hl' := List.mem_cons.1 hl'
    · exact (Link.holds_joined hrooted.1).trans hl
    · exact hholds l' hl'

end World
end Joinery
