import Joinery.Proofs.Rows.World
import Joinery.Proofs.Vanishing

/-! What a predicate means in the logic of SQL, where comparisons with nulls are neither true nor false.
The text of a predicate consists of fragments, connectives in parentheses and tests for related rows, its
clauses. A test keeps a row only if all that it asks of the row is true, and is itself never unknown. -/
namespace Joinery

inductive Truth where
  | false
  | unknown
  | true
deriving DecidableEq, Repr

namespace Truth

def ofBool (b : Bool) : Truth :=
  if b then .true else .false

def not : Truth → Truth
  | .false => .true
  | .unknown => .unknown
  | .true => .false

def and : Truth → Truth → Truth
  | .false, _ => .false
  | _, .false => .false
  | .true, .true => .true
  | _, _ => .unknown

def or : Truth → Truth → Truth
  | .true, _ => .true
  | _, .true => .true
  | .false, .false => .false
  | _, _ => .unknown

def xor : Truth → Truth → Truth
  | .unknown, _ => .unknown
  | _, .unknown => .unknown
  | a, b => ofBool (a != b)

def all (ts : List Truth) : Truth :=
  ts.foldr and .true

def any (ts : List Truth) : Truth :=
  ts.foldr or .false

def odd (ts : List Truth) : Truth :=
  ts.foldr xor .false

@[simp] theorem ofBool_eq_true_iff {b : Bool} : ofBool b = .true ↔ b = Bool.true := by
  cases b <;> decide

@[simp] theorem ofBool_eq_false_iff {b : Bool} : ofBool b = .false ↔ b = Bool.false := by
  cases b <;> decide

@[simp] theorem not_eq_true_iff {a : Truth} : a.not = .true ↔ a = .false := by
  cases a <;> decide

@[simp] theorem and_eq_true_iff {a b : Truth} : a.and b = .true ↔ a = .true ∧ b = .true := by
  cases a <;> cases b <;> decide

@[simp] theorem and_eq_false_iff {a b : Truth} : a.and b = .false ↔ a = .false ∨ b = .false := by
  cases a <;> cases b <;> decide

theorem all_eq_true_iff {ts : List Truth} : all ts = .true ↔ ∀ a ∈ ts, a = .true := by
  induction ts with
  | nil => simp [all]
  | cons a rest ih => rw [all, List.foldr_cons, and_eq_true_iff, ← all, ih, List.forall_mem_cons]

theorem all_eq_false_iff {ts : List Truth} : all ts = .false ↔ ∃ a ∈ ts, a = .false := by
  induction ts with
  | nil => simp [all]
  | cons a rest ih => rw [all, List.foldr_cons, and_eq_false_iff, ← all, ih, List.exists_mem_cons_iff]

end Truth

def Connective.written : Connective → List Sql → Sql
  | .and, qs => .text "(" ++ Sql.joined " AND " qs ++ .text ")"
  | .or, qs => .text "(" ++ Sql.joined " OR " qs ++ .text ")"
  | .not, qs => .text "(NOT (" ++ Sql.joined " AND " qs ++ .text "))"
  | .xor, qs => .text "(" ++ Sql.joined " XOR " qs ++ .text ")"

def Connective.truth : Connective → List Truth → Truth
  | .and, ts => .all ts
  | .or, ts => .any ts
  | .not, ts => (Truth.all ts).not
  | .xor, ts => .odd ts

/-- A part of the text of a filter. -/
inductive Clause where
  /-- A comparison, or SQL given as text. -/
  | fragment (q : Sql)
  | connect (connective : Connective) (clauses : List Clause)
  /-- A test for related rows; those with a value in the mark do not count. -/
  | related (parent : Table) (relation : Relation) (mark : Option String) (clauses : List Clause)
deriving Repr

namespace Clause

mutual

def toSql : Clause → Sql
  | .fragment q => q
  | .connect c ks => c.written (toSqls ks)
  | .related parent r mark ks =>
    let table := parent.reach r
    .text ("EXISTS (SELECT 1 FROM " ++ r.target.table ++ " " ++ table.aliasName ++ " WHERE ")
      ++ Sql.joined " AND " (.text (parent.keyTest r).text :: toSqls ks ++
        (table.markTests mark).map fun test => .text test.text)
      ++ .text ")"

def toSqls : List Clause → List Sql
  | [] => []
  | k :: rest => toSql k :: toSqls rest

end

end Clause

/-- The rows of every table, and the truth of fragments of a combination of rows. -/
structure Database where
  rows : String → List Row
  truth : Sql → Combination → Truth

/-- A combination in a test for related rows; the name of the tested row hides others like it. -/
def Combination.within (e : Combination) (t : Table) (row : Row) : Combination :=
  (t.aliasName, row) :: e

/-- The rows that a relation leads to: their keys are that of the parent row, and they are not marked as
deleted. -/
def Database.related (db : Database) (parent : Table) (r : Relation) (mark : Option String)
    (e : Combination) : List Row :=
  (db.rows r.target.table).filter fun row =>
    (parent.keyTest r :: (parent.reach r).markTests mark).all (·.holds (e.within (parent.reach r) row))

namespace Clause

mutual

def truth (db : Database) (e : Combination) : Clause → Truth
  | .fragment q => db.truth q e
  | .connect c ks => c.truth (truths db e ks)
  | .related parent r mark ks =>
    .ofBool ((db.related parent r mark e).any fun row =>
      Truth.all (truths db (e.within (parent.reach r) row) ks) == .true)

def truths (db : Database) (e : Combination) : List Clause → List Truth
  | [] => []
  | k :: rest => truth db e k :: truths db e rest

end

variable {db : Database} {e : Combination}

theorem toSqls_eq_map (ks : List Clause) : toSqls ks = ks.map toSql := by
  induction ks with
  | nil => rfl
  | cons k rest ih => simp [toSqls, ih]

theorem truths_eq_map (ks : List Clause) : truths db e ks = ks.map (truth db e) := by
  induction ks with
  | nil => rfl
  | cons k rest ih => simp [truths, ih]

theorem truth_related_eq_true_iff {parent : Table} {r : Relation} {mark : Option String}
    {ks : List Clause} : (related parent r mark ks).truth db e = .true ↔
      ∃ row ∈ db.related parent r mark e, ∀ k ∈ ks,
        k.truth db (e.within (parent.reach r) row) = .true := by
  simp [truth, truths_eq_map, Truth.all_eq_true_iff]

theorem truth_related_eq_false_iff {parent : Table} {r : Relation} {mark : Option String}
    {ks : List Clause} : (related parent r mark ks).truth db e = .false ↔
      ¬ ∃ row ∈ db.related parent r mark e, ∀ k ∈ ks,
        k.truth db (e.within (parent.reach r) row) = .true := by
  rw [← truth_related_eq_true_iff, truth, Truth.ofBool_eq_false_iff, Truth.ofBool_eq_true_iff,
    Bool.not_eq_true]

theorem truth_not_eq_true_iff {ks : List Clause} : (connect .not ks).truth db e = .true ↔
    ∃ k ∈ ks, k.truth db e = .false := by
  simp [truth, truths_eq_map, Connective.truth, Truth.all_eq_false_iff]

theorem truth_none_eq_true_iff {parent : Table} {r : Relation} {mark : Option String}
    {ks : List Clause} : (connect .not [related parent r mark ks]).truth db e = .true ↔
      ¬ ∃ row ∈ db.related parent r mark e, ∀ k ∈ ks,
        k.truth db (e.within (parent.reach r) row) = .true := by
  simp only [truth_not_eq_true_iff, List.mem_singleton, exists_eq_left, truth_related_eq_false_iff]

/-- No related row is a counterexample if nothing is false of any; what is unknown makes none. -/
theorem truth_all_eq_true_iff {parent : Table} {r : Relation} {mark : Option String}
    {ks : List Clause} : (connect .not [related parent r mark [connect .not ks]]).truth db e = .true ↔
      ∀ row ∈ db.related parent r mark e, ∀ k ∈ ks,
        k.truth db (e.within (parent.reach r) row) ≠ .false := by
  rw [truth_none_eq_true_iff]
  simp only [List.mem_singleton, forall_eq, truth_not_eq_true_iff, not_exists, not_and, ne_eq]

end Clause

/-- Nothing false means everything true exactly if something is false or nothing is unknown. -/
theorem Truth.never_false_iff_always_true {α β : Type} {rows : List α} {ks : List β}
    {truth : α → β → Truth} :
    ((∀ row ∈ rows, ∀ k ∈ ks, truth row k ≠ .false) ↔ ∀ row ∈ rows, ∀ k ∈ ks, truth row k = .true) ↔
      (∃ row ∈ rows, ∃ k ∈ ks, truth row k = .false) ∨
        ∀ row ∈ rows, ∀ k ∈ ks, truth row k ≠ .unknown := by
  constructor
  · intro h
    by_cases hfalse : ∃ row ∈ rows, ∃ k ∈ ks, truth row k = .false
    · exact .inl hfalse
    · have htrue := h.1 fun row hrow k hk hf => hfalse ⟨row, hrow, k, hk, hf⟩
      refine .inr fun row hrow k hk => ?_
      rw [htrue row hrow k hk]
      decide
  · rintro (⟨row, hrow, k, hk, hfalse⟩ | hknown)
    · refine iff_of_false (fun h => h row hrow k hk hfalse) fun h => ?_
      have htrue := h row hrow k hk
      rw [hfalse] at htrue
      cases htrue
    · have htwo (a : Truth) (ha : a ≠ .unknown) : a ≠ .false ↔ a = .true := by
        cases a <;> simp_all
      exact forall₂_congr fun row hrow => forall₂_congr fun k hk => htwo _ (hknown row hrow k hk)

end Joinery
