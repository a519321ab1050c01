import Joinery.Proofs.Rows.Choice
import Joinery.Proofs.Samples

/-! Whether updates and deletes change the rows that a query returns.
They change no others, and all of them where the joins stay join clauses. In a list of tables the
condition of a `LEFT JOIN` filters like any other, and a row without a match is left out. -/
namespace Joinery

namespace World

variable (w : World) (root : Entity)

/-- Whether rows of all joined tables fulfil every join together with a row of the root. -/
def Fulfils (links : List Link) (filter : Sql) (row : Row) : Prop :=
  ∃ e ∈ w.listAll links [(root.table, row)],
    (∀ l ∈ links, l.holds e = true) ∧ w.satisfies filter e = true

/-- Whether join clauses keep a row of the root. -/
def Joins (links : List Link) (filter : Sql) (row : Row) : Prop :=
  ∃ e ∈ w.joinAll links [(root.table, row)], w.satisfies filter e = true

/-- The rows of the root that a statement returns or changes. -/
def Chooses (row : Row) : Choice → Prop
  | .alone filter => w.satisfies filter [(root.table, row)] = true
  | .joined links filter => w.Joins root links filter row
  | .listed links filter => w.Fulfils root links filter row
  | .keyed links filter =>
    ∃ other ∈ w.rows root.table,
      (row root.primaryKey).equals (other root.primaryKey) = true ∧ w.Joins root links filter other

/-- Whether the primary key tells the rows of the root apart. -/
structure Keyed : Prop where
  unique : ∀ row ∈ w.rows root.table, ∀ other ∈ w.rows root.table,
    (row root.primaryKey).equals (other root.primaryKey) = true → row = other
  equals : ∀ row ∈ w.rows root.table, (row root.primaryKey).equals (row root.primaryKey) = true

/-- Whether two choices are of the same rows. -/
def Agree (c c' : Choice) : Prop :=
  ∀ row ∈ w.rows root.table, w.Chooses root row c ↔ w.Chooses root row c'

variable {w root} {links : List Link} {filter : Sql} {row : Row} {cs : List Condition}

theorem rooted_root (cs : List Condition) (row : Row) :
    Rooted ([(root.table, row)].map Prod.fst) (Condition.allLinks (.root root) cs) :=
  rooted_allLinks (by simp [Table.root]) cs

theorem joins_of_fulfils (h : w.Fulfils root (Condition.allLinks (.root root) cs) filter row) :
    w.Joins root (Condition.allLinks (.root root) cs) filter row := by
  obtain ⟨e, he, hholds, hfilter⟩ := h
  exact ⟨e, mem_joinAll_of_holds (rooted_root cs row) he hholds, hfilter⟩

theorem fulfils_of_joins (hinner : ∀ l ∈ Condition.allLinks (.root root) cs, l.kind = .inner)
    (h : w.Joins root (Condition.allLinks (.root root) cs) filter row) :
    w.Fulfils root (Condition.allLinks (.root root) cs) filter row := by
  obtain ⟨e, he, hfilter⟩ := h
  obtain ⟨hlist, hholds⟩ := mem_listAll_of_inner hinner (rooted_root cs row) he
  exact ⟨e, hlist, hholds, hfilter⟩

/-- A subquery for the keys finds the rows that its own join clauses keep. -/
theorem chooses_keyed (hw : w.Keyed root) (hrow : row ∈ w.rows root.table) :
    w.Chooses root row (.keyed links filter) ↔ w.Joins root links filter row := by
  constructor
  · rintro ⟨other, hother, hkey, hjoins⟩
    rwa [hw.unique row hrow other hother hkey]
  · exact fun hjoins => ⟨row, hrow, hw.equals row hrow, hjoins⟩

/-- Whether a join leads from the rows of the root to themselves, by their keys. -/
def Identical (root : Entity) (l : Link) : Prop :=
  l.join.relation.target.table = root.table ∧ l.join.relation.foreignColumn = root.primaryKey ∧
    l.join.relation.localColumn = root.primaryKey

def keyRow (root : Entity) : Row := fun column =>
  if column = root.primaryKey then .int 1 else .null

/-- The root has a single row, which leads nowhere, and no other table has rows. -/
def lonely (root : Entity) : World where
  rows table := if table = root.table then [keyRow root] else []
  holds _ _ := true

theorem mem_lonely {table : String} :
    row ∈ (lonely root).rows table ↔ table = root.table ∧ row = keyRow root := by
  by_cases h : table = root.table <;> simp [lonely, h]

theorem keyed_lonely : (lonely root).Keyed root where
  unique row hrow other hother _ := by
    rw [(mem_lonely.1 hrow).2, (mem_lonely.1 hother).2]
  equals row hrow := by
    rw [(mem_lonely.1 hrow).2, keyRow, if_pos rfl]
    rfl

theorem eq_primaryKey {e : Combination} (he : ∀ x ∈ e, x.2 = keyRow root) {table column : String}
    (h : (e.value table column).isNull = false) : column = root.primaryKey := by
  by_contra hcolumn
  unfold Combination.value at h
  cases hlookup : e.lookup table with
  | none => simp [hlookup, Value.isNull] at h
  | some row =>
    obtain ⟨before, after, rfl, -⟩ := List.lookup_eq_some_iff.1 hlookup
    obtain rfl : row = keyRow root := he (table, row) (by simp)
    simp [hlookup, keyRow, hcolumn, Value.isNull] at h

theorem mem_listAll_lonely {e e' : Combination} (he : ∀ x ∈ e, x.2 = keyRow root)
    (h : e' ∈ (lonely root).listAll links e) :
    (∀ x ∈ e', x.2 = keyRow root) ∧ ∀ l ∈ links, l.join.relation.target.table = root.table := by
  induction links generalizing e with
  | nil =>
    rw [List.mem_singleton.1 h]
    exact ⟨he, by simp⟩
  | cons l ls ih =>
    obtain ⟨row, hrow, hrest⟩ := List.mem_flatMap.1 h
    obtain ⟨htable, rfl⟩ := mem_lonely.1 hrow
    have he' : ∀ x ∈ e ++ [(l.name, keyRow root)], x.2 = keyRow root := by
      intro x hx
      obtain hx | hx := List.mem_append.1 hx
      · exact he x hx
      · rw [List.mem_singleton.1 hx]
    obtain ⟨hrows, htables⟩ := ih he' hrest
    exact ⟨hrows, by simpa using ⟨htable, htables⟩⟩

/-- The single row fulfils no join but those that lead to itself. -/
theorem identical_of_fulfils (h : (lonely root).Fulfils root links filter (keyRow root)) :
    ∀ l ∈ links, Identical root l := by
  obtain ⟨e, he, hholds, -⟩ := h
  obtain ⟨hrows, htables⟩ := mem_listAll_lonely (by simp) he
  intro l hl
  have hkeys : ((e.value l.name l.join.relation.foreignColumn).equals
      (e.value l.parent.aliasName l.join.relation.localColumn)) = true :=
    List.all_eq_true.1 (hholds l hl) _ List.mem_cons_self
  obtain ⟨hforeign, hlocal⟩ := Value.isNull_of_equals hkeys
  exact ⟨htables l hl, eq_primaryKey hrows hforeign, eq_primaryKey hrows hlocal⟩

theorem joins_lonely (hleft : ∀ l ∈ links, l.kind = .left) :
    (lonely root).Joins root links filter (keyRow root) := by
  obtain ⟨e, he⟩ := exists_mem_joinAll (w := lonely root) hleft [(root.table, keyRow root)]
  exact ⟨e, he, Bool.or_true _⟩

/-- Statements that list tables choose the rows that fulfil every join, and all others choose the rows
that the join clauses keep. -/
def Picks (w : World) (root : Entity) (lists : Bool) (links : List Link) (filter : Sql) (row : Row) :
    Prop :=
  if lists then w.Fulfils root links filter row else w.Joins root links filter row

theorem chooses_alone (hnone : links = []) (lists : Bool) :
    w.Chooses root row (.alone filter) ↔ w.Picks root lists links filter row := by
  cases lists <;> simp [hnone, Picks, Chooses, Joins, Fulfils, joinAll, listAll]

theorem chooses_ofUpdate (d : Dialect) :
    w.Chooses root row (.ofUpdate d links filter) ↔ w.Picks root (d != .mysql) links filter row := by
  unfold Choice.ofUpdate
  by_cases hempty : links.isEmpty = true
  · rw [if_pos hempty]
    exact chooses_alone (List.isEmpty_iff.1 hempty) _
  · rw [if_neg hempty]
    cases d <;> rfl

theorem chooses_ofDelete (hw : w.Keyed root) (hrow : row ∈ w.rows root.table) (d : Dialect) :
    w.Chooses root row (.ofDelete d links filter) ↔
      w.Picks root (d == .postgres) links filter row := by
  unfold Choice.ofDelete
  by_cases hempty : links.isEmpty = true
  · rw [if_pos hempty]
    exact chooses_alone (List.isEmpty_iff.1 hempty) _
  · rw [if_neg hempty]
    cases d with
    | sqlite => exact chooses_keyed hw hrow
    | _ => rfl

end World

namespace Builder

variable {b : Builder} {d : Dialect} {s : Statement}

theorem chooses_choice {w : World} (hw : w.Keyed b.root) {row : Row}
    (hrow : row ∈ w.rows b.root.table) {filter : Sql} :
    w.Chooses b.root row (b.choice d filter) ↔
      w.Picks b.root (b.listsTables d) b.links filter row := by
  cases b with
  | query q => rfl
  | update u => exact World.chooses_ofUpdate d
  | delete x =>
    simp only [choice, listsTables]
    cases x.root.deletedAt with
    | some mark => exact World.chooses_ofUpdate d
    | none => exact World.chooses_ofDelete hw hrow d

theorem joins_of_chooses {w : World} (hw : w.Keyed b.root) {row : Row}
    (hrow : row ∈ w.rows b.root.table) {filter : Sql}
    (h : w.Chooses b.root row (b.choice d filter)) : w.Joins b.root b.links filter row := by
  have hpicked := (chooses_choice hw hrow).1 h
  rw [World.Picks] at hpicked
  split at hpicked
  · exact World.joins_of_fulfils hpicked
  · exact hpicked

/-- The rows agree exactly when a list of tables keeps every row that the join clauses keep. -/
theorem agree_choice_iff {w : World} (hw : w.Keyed b.root) {filter : Sql} :
    w.Agree b.root (b.choice d filter) (.joined b.links filter) ↔
      (b.listsTables d = true → ∀ row ∈ w.rows b.root.table,
        w.Joins b.root b.links filter row → w.Fulfils b.root b.links filter row) := by
  constructor
  · intro hboth hlists row hrow hjoins
    have hchosen := (chooses_choice hw hrow).1 ((hboth row hrow).2 hjoins)
    rwa [World.Picks, if_pos hlists] at hchosen
  · intro hfulfils row hrow
    refine ⟨joins_of_chooses hw hrow, fun hjoins => (chooses_choice hw hrow).2 ?_⟩
    by_cases hlists : b.listsTables d = true
    · rw [World.Picks, if_pos hlists]
      exact hfulfils hlists row hrow hjoins
    · rw [World.Picks, if_neg hlists]
      exact hjoins

/-- Left joins alone, in a list of tables, leave out a row that leads nowhere. -/
theorem not_agree_lonely (hlists : b.listsTables d = true) (hleft : ∀ l ∈ b.links, l.kind = .left)
    {l : Link} (hl : l ∈ b.links) (hother : ¬ World.Identical b.root l) (filter : Sql) :
    ¬ (World.lonely b.root).Agree b.root (b.choice d filter) (.joined b.links filter) := by
  intro hboth
  have hrow : World.keyRow b.root ∈ (World.lonely b.root).rows b.root.table :=
    World.mem_lonely.2 ⟨rfl, rfl⟩
  have hfulfils := (agree_choice_iff World.keyed_lonely).1 hboth hlists _ hrow
    (World.joins_lonely hleft)
  exact hother (World.identical_of_fulfils hfulfils l hl)

/-- Updates and deletes change no row that the query of their conditions does not return. They change
all that it returns exactly when, if they list tables, each of these rows goes with rows of every joined
table. This is so in every world if no join is a left one. If all joins are, there is a world where it
is not, unless each of them leads from a row of the root to itself. Whether rows fulfil a join is told by
the tests that are written for it in both statements. -/
theorem rows_agree_iff {root : Entity} {cs : List Condition} (hroot : b.root = root)
    (hconditions : b.conditions = cs) (h : b.compile d = .ok s) {s' : Statement}
    (hquery : (Builder.query (.ofConditions root cs)).compile d = .ok s') :
    ∃ filter, (b.plan d).filter cs = .ok filter ∧
      (b.textOf d (b.choice d filter)).map Sql.toText = .ok s.sql ∧
      ((Builder.query (.ofConditions root cs)).textOf d (.joined b.links filter)).map Sql.toText =
        .ok s'.sql ∧
      (∀ l ∈ b.links, l.planned.on = String.intercalate " AND " (l.tests.map JoinTest.text)) ∧
      (∀ w : World, w.Keyed root →
        (∀ row ∈ w.rows root.table,
          w.Chooses root row (b.choice d filter) → w.Chooses root row (.joined b.links filter)) ∧
        (w.Agree root (b.choice d filter) (.joined b.links filter) ↔
          (b.listsTables d = true → ∀ row ∈ w.rows root.table,
            w.Joins root b.links filter row → w.Fulfils root b.links filter row)) ∧
        ((∀ l ∈ b.links, l.kind = .inner) →
          w.Agree root (b.choice d filter) (.joined b.links filter))) ∧
      (b.listsTables d = true → (∀ l ∈ b.links, l.kind = .left) →
        (∃ l ∈ b.links, ¬ World.Identical root l) →
          ∃ w : World, w.Keyed root ∧ ¬ w.Agree root (b.choice d filter) (.joined b.links filter)) := by
  subst hroot hconditions
  obtain ⟨filter, hfilter, htext⟩ := exists_choice h
  obtain ⟨filter', hfilter', htext'⟩ := exists_choice hquery
  obtain rfl : filter = filter' := Except.ok.inj (hfilter.symm.trans hfilter')
  refine ⟨filter, hfilter, htext, htext', fun l _ => l.on_planned, fun w hw =>
    ⟨fun row hrow => joins_of_chooses hw hrow, agree_choice_iff hw, fun hinner => ?_⟩,
    fun hlists hleft hother => ?_⟩
  · exact (agree_choice_iff hw).2 fun _ row _ hjoins => World.fulfils_of_joins hinner hjoins
  · obtain ⟨l, hl, hnot⟩ := hother
    exact ⟨.lonely b.root, World.keyed_lonely, not_agree_lonely hlists hleft hl hnot filter⟩

end Builder

namespace Sample

def plainEmployer : Relation :=
  { employer with target := { company with deletedAt := none } }

def sellersNamed : Builder :=
  .update ⟨seller, [.join plainEmployer true []], [sellerName.assign (.text "x")]⟩

def employerLink : Link :=
  ⟨.root seller, plainEmployer, true, []⟩

theorem name_employerLink : employerLink.name = "company" := by
  decide +kernel

theorem tests_employerLink :
    employerLink.tests = [.equal "company" "id" "sellers" "company_id"] := by
  decide +kernel

def sellerRow (companyId : Value) : Row := fun column =>
  if column = "id" then .int 1 else if column = "company_id" then companyId else .null

def companyRow : Row := fun column =>
  if column = "id" then .int 7 else .null

def smallWorld (companyId : Value) : World where
  rows table :=
    if table = "sellers" then [sellerRow companyId]
    else if table = "companies" then [companyRow]
    else []
  holds _ _ := true

def sellerWithCompany (companyId : Value) : Combination :=
  [("sellers", sellerRow companyId), ("company", companyRow)]

theorem listAll_smallWorld (companyId : Value) :
    (smallWorld companyId).listAll [employerLink] [("sellers", sellerRow companyId)] =
      [sellerWithCompany companyId] := by
  change [[("sellers", sellerRow companyId), (employerLink.name, companyRow)]] = _
  rw [name_employerLink]
  rfl

theorem holds_sellerWithCompany : employerLink.holds (sellerWithCompany (.int 7)) = true := by
  rw [Link.holds, tests_employerLink]
  decide

theorem not_holds_sellerWithCompany : employerLink.holds (sellerWithCompany .null) = false := by
  rw [Link.holds, tests_employerLink]
  decide

theorem matched_smallWorld :
    (smallWorld .null).matched employerLink [("sellers", sellerRow .null)] = [] := by
  change List.filter _ [[("sellers", sellerRow .null), (employerLink.name, companyRow)]] = []
  rw [name_employerLink]
  simpa [sellerWithCompany] using not_holds_sellerWithCompany

theorem keyed_smallWorld (companyId : Value) : (smallWorld companyId).Keyed seller where
  unique row hrow other hother _ := by
    rw [List.mem_singleton.1 (show row ∈ [sellerRow companyId] from hrow),
      List.mem_singleton.1 (show other ∈ [sellerRow companyId] from hother)]
  equals row hrow := by
    rw [List.mem_singleton.1 (show row ∈ [sellerRow companyId] from hrow)]
    rfl

end Sample

namespace Builder

/-- Where the seller has a company, the update changes what the query returns. -/
theorem rows_agree_smallWorld : ∃ filter,
    (Sample.smallWorld (.int 7)).Keyed Sample.seller ∧
      (Sample.smallWorld (.int 7)).Agree Sample.seller
        (Sample.sellersNamed.choice .postgres filter) (.joined Sample.sellersNamed.links filter) := by
  obtain ⟨s, hs⟩ : ∃ s, Sample.sellersNamed.compile .postgres = .ok s := ⟨_, rfl⟩
  obtain ⟨s', hs'⟩ : ∃ s, (Builder.query (.ofConditions Sample.seller
      [.join Sample.plainEmployer true []])).compile .postgres = .ok s := ⟨_, rfl⟩
  obtain ⟨filter, -, -, -, -, hworlds, -⟩ := rows_agree_iff rfl rfl hs hs'
  have hkeyed := Sample.keyed_smallWorld (.int 7)
  refine ⟨filter, hkeyed, (hworlds _ hkeyed).2.1.2 fun _ row hrow _ => ?_⟩
  rw [List.mem_singleton.1 (show row ∈ [Sample.sellerRow (.int 7)] from hrow)]
  refine ⟨Sample.sellerWithCompany (.int 7), ?_, ?_, Bool.or_true _⟩
  · exact Sample.listAll_smallWorld (.int 7) ▸ List.mem_singleton_self _
  · intro l hl
    rw [List.mem_singleton.1 (show l ∈ [Sample.employerLink] from hl)]
    exact Sample.holds_sellerWithCompany

/-- A left join of an update on PostgreSQL leaves out the seller that the query returns. -/
theorem rows_differ_smallWorld :
    (Sample.sellersNamed.compile .postgres).toOption.map Statement.sql = some
      "UPDATE sellers SET name = ? FROM companies company WHERE company.id = sellers.company_id" ∧
    (Sample.sellersNamed.plan .postgres).filter Sample.sellersNamed.conditions = .ok .empty ∧
    ¬ ∀ w : World, w.Keyed Sample.seller → w.Agree Sample.seller
      (Sample.sellersNamed.choice .postgres .empty) (.joined Sample.sellersNamed.links .empty) := by
  refine ⟨by decide +kernel, rfl, fun h => ?_⟩
  have hagree := h _ (Sample.keyed_smallWorld .null) (Sample.sellerRow .null) (List.mem_singleton.2 rfl)
  have hreturned : (Sample.smallWorld .null).Joins Sample.seller [Sample.employerLink] .empty
      (Sample.sellerRow .null) := by
    have hjoined := World.joined_of_unmatched (l := Sample.employerLink) rfl Sample.matched_smallWorld
    have hkept : _ ∈ (Sample.smallWorld .null).joined Sample.employerLink _ :=
      hjoined ▸ List.mem_singleton_self _
    exact ⟨_, List.mem_flatMap.2 ⟨_, hkept, List.mem_singleton_self _⟩, rfl⟩
  obtain ⟨e, he, hholds, -⟩ := hagree.2 hreturned
  have hcombination : e = Sample.sellerWithCompany .null :=
    List.mem_singleton.1 (Sample.listAll_smallWorld .null ▸ he)
  have hemployer := hholds Sample.employerLink List.mem_cons_self
  rw [hcombination, Sample.not_holds_sellerWithCompany] at hemployer
  cases hemployer

end Builder
end Joinery
