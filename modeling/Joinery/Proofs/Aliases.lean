import Joinery.Proofs.Guards
import Joinery.Proofs.Names

/-! The names of tables, and what they mean inside a test for related rows.
A table that is reached over a relation is named by the path of relations to it, so that two of them have
the same name only if they are reached over relations of the same name, from tables of the same name. The
root keeps the name of its table, which may be the name of a relation as well. Inside a subquery a name
means the table of the subquery, if that has the name, and else what it means around. -/
namespace Joinery

namespace Text

theorem not_isChain_apart {before after : List Char} :
    ¬ List.IsChain Apart (before ++ '_' :: '_' :: after) := by
  intro h
  have hunderscores := List.isChain_cons_cons.1 h.right_of_append
  simpa [Apart] using hunderscores.1

theorem snakeCase_ne_append (s first last : String) : snakeCase s ≠ first ++ "__" ++ last := by
  intro h
  have hlist : (snakeCase s).toList = first.toList ++ '_' :: '_' :: last.toList := by
    simp [h]
  have hchain := isChain_apart_snakeCase s
  rw [hlist, ← List.cons_append] at hchain
  exact not_isChain_apart hchain

/-- What follows the last two underscores in a row is told from what stands before them. -/
theorem append_underscores_inj {as bs xs ys : List Char} (hxs : List.IsChain Apart ('_' :: xs))
    (hys : List.IsChain Apart ('_' :: ys)) (h : as ++ '_' :: '_' :: xs = bs ++ '_' :: '_' :: ys) :
    as = bs ∧ xs = ys := by
  obtain ⟨cs, hbs, hcs⟩ | ⟨cs, has, hcs⟩ := List.append_eq_append_iff.1 h
  · cases cs with
    | nil => simpa [hbs] using hcs
    | cons c cs =>
      rw [(List.cons.inj hcs).2] at hxs
      exact absurd hxs not_isChain_apart
  · cases cs with
    | nil => simpa [has, eq_comm] using hcs
    | cons c cs =>
      rw [(List.cons.inj hcs).2] at hys
      exact absurd hys not_isChain_apart

theorem append_snakeCase_inj {first first' s s' : String} :
    first ++ "__" ++ snakeCase s = first' ++ "__" ++ snakeCase s' ↔
      first = first' ∧ snakeCase s = snakeCase s' := by
  constructor
  · intro h
    have hlists : first.toList ++ '_' :: '_' :: (snakeCase s).toList =
        first'.toList ++ '_' :: '_' :: (snakeCase s').toList := by
      simpa using congrArg String.toList h
    have hsame := append_underscores_inj (isChain_apart_snakeCase s) (isChain_apart_snakeCase s') hlists
    exact ⟨String.toList_inj.1 hsame.1, String.toList_inj.1 hsame.2⟩
  · rintro ⟨rfl, hs⟩
    rw [hs]

end Text

namespace Table

variable {t t' : Table} {r r' : Relation}

theorem aliasName_reach_root (h : t.isRoot = true) :
    (t.reach r).aliasName = Text.snakeCase r.name := by
  simp [reach, h]

theorem aliasName_reach (h : t.isRoot = false) :
    (t.reach r).aliasName = t.aliasName ++ "__" ++ Text.snakeCase r.name := by
  simp [reach, h]

theorem length_lt_reach (h : t.isRoot = false) : t.aliasName.length < (t.reach r).aliasName.length := by
  have hline : "__".length = 2 := rfl
  rw [aliasName_reach h, String.length_append, String.length_append]
  omega

/-- Two tables are named alike if they are reached over relations named alike, both from the root or
both from tables named alike. -/
theorem aliasName_reach_eq_iff : (t.reach r).aliasName = (t'.reach r').aliasName ↔
    t.isRoot = t'.isRoot ∧ (t.isRoot = false → t.aliasName = t'.aliasName) ∧
      Text.snakeCase r.name = Text.snakeCase r'.name := by
  cases ht : t.isRoot with
  | true =>
    cases ht' : t'.isRoot with
    | true => simp [aliasName_reach_root ht, aliasName_reach_root ht']
    | false =>
      rw [aliasName_reach_root ht, aliasName_reach ht']
      simp [Text.snakeCase_ne_append]
  | false =>
    cases ht' : t'.isRoot with
    | true =>
      rw [aliasName_reach ht, aliasName_reach_root ht']
      simpa using (Text.snakeCase_ne_append r'.name t.aliasName _).symm
    | false =>
      rw [aliasName_reach ht, aliasName_reach ht', Text.append_snakeCase_inj]
      simp

theorem aliasName_reach_eq_self_iff : (t.reach r).aliasName = t.aliasName ↔
    t.isRoot = true ∧ Text.snakeCase r.name = t.aliasName := by
  cases ht : t.isRoot with
  | true => simp [aliasName_reach_root ht]
  | false =>
    have hlength := t.length_lt_reach (r := r) ht
    simp only [Bool.false_eq_true, false_and, iff_false]
    intro h
    rw [h] at hlength
    exact Nat.lt_irrefl _ hlength

end Table

namespace Predicate.Position

/-- The tables of the tests for related rows around a position, the outermost first. -/
def enclosing (t : Table) : Predicate.Position → List Table
  | .here _ _ => []
  | .under _ node inner _ =>
    match node with
    | .connect _ => inner.enclosing t
    | .related r => t.reach r :: inner.enclosing (t.reach r)

theorem length_le_scope {t : Table} (h : t.isRoot = false) (π : Predicate.Position) :
    (π.scope t).isRoot = false ∧ t.aliasName.length ≤ (π.scope t).aliasName.length := by
  induction π generalizing t with
  | here before after => exact ⟨h, Nat.le_refl _⟩
  | under before node inner after ih =>
    cases node with
    | connect c => exact ih h
    | related r =>
      have hinner := ih (t.isRoot_reach r)
      have hstep := t.length_lt_reach (r := r) h
      simp only [scope, Branch.scope]
      exact ⟨hinner.1, by omega⟩

theorem scope_of_isRoot {t : Table} {π : Predicate.Position} (h : (π.scope t).isRoot = true) :
    π.scope t = t := by
  induction π generalizing t with
  | here before after => rfl
  | under before node inner after ih =>
    cases node with
    | connect c => exact ih h
    | related r =>
      have hinner : ((inner.scope (t.reach r)).isRoot = false) :=
        (inner.length_le_scope (t.isRoot_reach r)).1
      simp [scope, Branch.scope, hinner] at h

theorem length_le_of_mem_enclosing {t e : Table} {π : Predicate.Position} (h : e ∈ π.enclosing t) :
    (π.scope t).isRoot = false ∧ e.aliasName.length ≤ (π.scope t).aliasName.length := by
  induction π generalizing t with
  | here before after => cases h
  | under before node inner after ih =>
    cases node with
    | connect c => exact ih h
    | related r =>
      obtain rfl | h := List.mem_cons.1 h
      · exact inner.length_le_scope (t.isRoot_reach r)
      · exact ih h

end Predicate.Position

theorem Condition.Place.isRoot_scope {t : Table} (h : t.isRoot = false) (place : Condition.Place) :
    (place.scope t).isRoot = false := by
  induction place generalizing t with
  | here before after => exact h
  | joined before r load inner after ih => exact ih (t.isRoot_reach r)

theorem Condition.Place.scope_of_isRoot {t : Table} {place : Condition.Place}
    (h : (place.scope t).isRoot = true) : place.scope t = t := by
  cases place with
  | here before after => rfl
  | joined before r load inner after =>
    have hinner : (inner.scope (t.reach r)).isRoot = false := inner.isRoot_scope (t.isRoot_reach r)
    simp [scope, hinner] at h

theorem Condition.Position.scope_of_isRoot {t : Table} {π : Condition.Position}
    (h : (π.scope t).isRoot = true) : π.scope t = t := by
  have hinner := Predicate.Position.scope_of_isRoot h
  rw [scope, hinner] at h
  exact hinner.trans (Condition.Place.scope_of_isRoot h)

def Condition.Position.enclosing (t : Table) (π : Condition.Position) : List Table :=
  π.inner.enclosing (π.place.scope t)

/-- A table of a subquery has another name than those of the subqueries around it. -/
theorem Condition.Position.aliasName_ne_enclosing {t e : Table} {π : Condition.Position}
    (h : e ∈ π.enclosing t) (r : Relation) : ((π.scope t).reach r).aliasName ≠ e.aliasName := by
  have hscope := Predicate.Position.length_le_of_mem_enclosing h
  have hlength := Table.length_lt_reach (r := r) hscope.1
  intro hname
  rw [← hname] at hscope
  have hle : ((π.scope t).reach r).aliasName.length ≤ (π.scope t).aliasName.length := hscope.2
  have hlt : (π.scope t).aliasName.length < ((π.scope t).reach r).aliasName.length := hlength
  omega

/-- What a name means at the levels of a query, the innermost first: the table of the innermost level
that has a table of the name, and how many levels are around that. -/
def meaning (name : String) : List (List Table) → Option (Nat × Table)
  | [] => none
  | level :: outer =>
    match level.find? (·.aliasName == name) with
    | some t => some (outer.length, t)
    | none => meaning name outer

theorem lt_of_meaning {name : String} {levels : List (List Table)} {n : Nat} {t : Table}
    (h : meaning name levels = some (n, t)) : n < levels.length := by
  induction levels with
  | nil => cases h
  | cons level outer ih =>
    rw [meaning] at h
    split at h
    · cases h
      simp
    · have hn := ih h
      simp only [List.length_cons]
      omega

/-- Inside a subquery of one table a name means what it means around, unless it is the name of that
table. -/
theorem meaning_subquery_iff {name : String} {t : Table} {outer : List (List Table)} :
    meaning name ([t] :: outer) = meaning name outer ↔ t.aliasName ≠ name := by
  by_cases h : t.aliasName = name
  · have hinner : meaning name ([t] :: outer) = some (outer.length, t) := by simp [meaning, h]
    refine iff_of_false (fun hsame => ?_) (fun hne => hne h)
    have hlt := lt_of_meaning (hsame.symm.trans hinner)
    exact Nat.lt_irrefl _ hlt
  · exact iff_of_true (by simp [meaning, h]) h

namespace Builder

variable {b : Builder} {d : Dialect}

/-- The tables that can be named at a position: each subquery around it, and the statement, has its own
level. -/
def levels (b : Builder) (d : Dialect) (π : Condition.Position) : List (List Table) :=
  (π.enclosing (.root b.root)).reverse.map (fun t => [t]) ++ [(b.plan d).tables]

/-- The text of a test for related rows names the tables of the test and of its parent. Inside of it the
names of the subqueries around keep their meaning. That of the parent keeps its meaning, so that the keys
relate a row of the test to one of the parent, unless the parent is the root and its table is called like
the relation; that of the root keeps its meaning unless its table is called like the path to the test; and
that of a join keeps its meaning unless the join follows a relation of the same name from a table of the
same name. -/
theorem names_compile {s : Statement} (h : b.compile d = .ok s) {π : Condition.Position} {r : Relation}
    {ps : List Predicate} (hπ : b.conditions = π.fill [.related r ps]) :
    let parent := π.scope (.root b.root)
    let t := parent.reach r
    let outer := b.levels d π
    (∃ before conjuncts after, (Condition.filterOf d b.root b.conditions).map Sql.toText =
      .ok (before ++ existsText parent r conjuncts ++ after)) ∧
    (∀ e ∈ π.enclosing (.root b.root),
      meaning e.aliasName ([t] :: outer) = meaning e.aliasName outer) ∧
    (meaning parent.aliasName ([t] :: outer) = meaning parent.aliasName outer ↔
      ¬ (parent.isRoot = true ∧ Text.snakeCase r.name = b.root.table)) ∧
    (meaning b.root.table ([t] :: outer) = meaning b.root.table outer ↔
      ¬ (parent.isRoot = true ∧ Text.snakeCase r.name = b.root.table ∨ parent.isRoot = false ∧
        parent.aliasName ++ "__" ++ Text.snakeCase r.name = b.root.table)) ∧
    ∀ l ∈ b.links, meaning l.table.aliasName ([t] :: outer) = meaning l.table.aliasName outer ↔
      ¬ (l.parent.isRoot = parent.isRoot ∧
        (parent.isRoot = false → l.parent.aliasName = parent.aliasName) ∧
        Text.snakeCase l.join.relation.name = Text.snakeCase r.name) := by
  intro parent t outer
  refine ⟨?_, fun e he => ?_, ?_, ?_, fun l _ => ?_⟩
  · obtain ⟨filter, hfilter, -⟩ := exists_choice h
    rw [plan, hπ] at hfilter
    obtain ⟨written, -, before, after, hmarked⟩ := Plan.filterOf_related hfilter
    rw [hπ]
    exact ⟨before, _, after, hmarked r.target.deletedAt⟩
  · exact meaning_subquery_iff.2 (Condition.Position.aliasName_ne_enclosing he r)
  · rw [meaning_subquery_iff, ne_eq, Table.aliasName_reach_eq_self_iff]
    have hroot (hparent : parent.isRoot = true) : parent.aliasName = b.root.table := by
      rw [show parent = .root b.root from Condition.Position.scope_of_isRoot hparent]
      rfl
    refine not_congr (and_congr_right fun hparent => ?_)
    rw [hroot hparent]
  · rw [meaning_subquery_iff, ne_eq]
    refine not_congr ?_
    by_cases hparent : parent.isRoot = true
    · simp [t, Table.aliasName_reach_root hparent, hparent]
    · have hdeeper : parent.isRoot = false := by simpa using hparent
      simp [t, Table.aliasName_reach hdeeper, hdeeper]
  · rw [meaning_subquery_iff, ne_comm, ne_eq, Link.table, Table.aliasName_reach_eq_iff]
    refine not_congr (and_congr_right fun hsame => ?_)
    rw [hsame]

def sellersOfCompany : Builder :=
  .query (.ofConditions Sample.seller
    [.join Sample.employer false [], .filter (.related Sample.employer [Sample.companyName.eq (.text "a")])])

/-- Inside the test the name of the sellers keeps its meaning, and that of the joined companies does not. -/
theorem names_sellersOfCompany : ∃ s π t outer, sellersOfCompany.compile .postgres = .ok s ∧
    outer = sellersOfCompany.levels .postgres π ∧ t.aliasName = "company" ∧
    meaning "sellers" ([t] :: outer) = meaning "sellers" outer ∧
    meaning "company" ([t] :: outer) ≠ meaning "company" outer := by
  obtain ⟨s, hs⟩ : ∃ s, sellersOfCompany.compile .postgres = .ok s := ⟨_, rfl⟩
  let π : Condition.Position := .direct (.here [.join Sample.employer false []] [])
  have hπ : sellersOfCompany.conditions =
    π.fill [.related Sample.employer [Sample.companyName.eq (.text "a")]] := rfl
  obtain ⟨-, -, hparent, -, hjoins⟩ := names_compile hs hπ
  have hname : ((Table.root Sample.seller).reach Sample.employer).aliasName = "company" := by
    decide +kernel
  have hkept : Text.snakeCase Sample.employer.name ≠ sellersOfCompany.root.table := by decide +kernel
  refine ⟨s, π, _, _, hs, rfl, hname, hparent.2 fun h => hkept h.2, ?_⟩
  have hjoined := hjoins ⟨.root Sample.seller, Sample.employer, false, []⟩ (by
    simp [links, sellersOfCompany, root, conditions, Query.ofConditions, Condition.allLinks,
      Condition.links])
  rw [Link.table, hname] at hjoined
  exact fun hsame => hjoined.1 hsame ⟨rfl, fun _ => rfl, rfl⟩

def managed : Relation :=
  ⟨Sample.sellerModel, "Sellers", Sample.seller, "id", "manager_id"⟩

def managersOfNamed : Builder :=
  .query (.ofConditions Sample.seller [.filter (.related managed [Sample.sellerName.eq (.text "a")])])

/-- The keys of a test may relate a row to itself. -/
theorem managersOfNamed_captured :
    (managersOfNamed.compile .postgres).toOption.map Statement.sql = some
      ("SELECT sellers.* FROM sellers WHERE (EXISTS (SELECT 1 FROM sellers sellers"
        ++ " WHERE sellers.manager_id = sellers.id AND sellers.name = ?))") ∧
    ¬ ∀ (b : Builder) (d : Dialect) (s : Statement) (π : Condition.Position) (r : Relation)
      (ps : List Predicate), b.compile d = .ok s → b.conditions = π.fill [.related r ps] →
      ((π.scope (.root b.root)).reach r).aliasName ≠ (Table.root b.root).aliasName := by
  refine ⟨by decide +kernel, fun h => ?_⟩
  have hne := h managersOfNamed .postgres _ (.direct (.here [] [])) managed _ rfl rfl
  revert hne
  decide +kernel

end Builder
end Joinery
