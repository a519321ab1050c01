import Joinery.Proofs.Samples
import Joinery.Proofs.Trees
import Joinery.Statement

/-! Updates that are accepted.
The calls that add assignments check them one by one. A null is assigned by name, or it is a value like any
other, such as that of an option with nothing in it; for a field without nulls they refuse the first, and take
the second. -/
namespace Joinery

def Value.ofOption {α : Type} (convert : α → Value) : Option α → Value
  | none => .null
  | some x => convert x

theorem Value.isNull_iff {v : Value} : v.isNull = true ↔ v = .null := by
  cases v <;> simp [isNull]

namespace Assignment

/-- Whether a field is certainly set to null. -/
def writesNull (a : Assignment) : Bool :=
  match a.value with
  | .value v => v.isNull
  | .field _ => false
  | .null => true

theorem writesNull_iff {a : Assignment} :
    a.writesNull = true ↔ a.value = .null ∨ a.value = .value .null := by
  rw [writesNull]
  cases a.value <;> simp [Value.isNull_iff]

/-- A null is seen where it is assigned by name, and not among the values. -/
theorem validate_eq_ok_iff {a : Assignment} : a.validate = .ok () ↔
    a.field.updatable = true ∧ (a.value = .null → a.field.nullable = true) := by
  rw [validate]
  cases hupdatable : a.field.updatable with
  | false => simp
  | true => cases a.value <;> simp

end Assignment

namespace Update

variable {u u' : Update} {as : List Assignment} {e : QueryError}

inductive Call where
  | set (f : Field) (v : Value)
  | setField (f other : Field)
  | setNull (f : Field)
  | setMultiple (assignments : List Assignment)

def Call.assignments : Call → List Assignment
  | .set f v => [f.assign v]
  | .setField f other => [f.assignField other]
  | .setNull f => [f.assignNull]
  | .setMultiple assignments => assignments

def call (u : Update) : Call → Except QueryError Update
  | .set f v => u.set f v
  | .setField f other => u.setField f other
  | .setNull f => u.setNull f
  | .setMultiple assignments => u.setMultiple assignments

/-- Calls one after the other, up to the first that is refused. -/
def run (u : Update) (calls : List Call) : Except QueryError Update :=
  calls.foldlM call u

/-! One assignment, and several of them. -/

theorem push_eq_ok_iff {a : Assignment} : u.push a = .ok u' ↔
    u' = { u with assignments := u.assignments ++ [a] } ∧ a.validate = .ok () := by
  simp only [push, bind_eq_ok, pure_eq_ok]
  constructor
  · rintro ⟨_, ha, rfl⟩
    exact ⟨rfl, ha⟩
  · rintro ⟨rfl, ha⟩
    exact ⟨(), ha, rfl⟩

theorem setMultiple_cons_of_ok {a : Assignment} (h : a.validate = .ok ()) :
    u.setMultiple (a :: as) = setMultiple { u with assignments := u.assignments ++ [a] } as := by
  rw [setMultiple, List.foldlM_cons, push_eq_ok_iff.2 ⟨rfl, h⟩]
  rfl

theorem setMultiple_cons_of_error {a : Assignment} (h : a.validate = .error e) :
    u.setMultiple (a :: as) = .error e := by
  rw [setMultiple, List.foldlM_cons, push, h]
  rfl

theorem setMultiple_eq_ok_iff : u.setMultiple as = .ok u' ↔
    u' = { u with assignments := u.assignments ++ as } ∧ ∀ a ∈ as, a.validate = .ok () := by
  induction as generalizing u with
  | nil => simpa [setMultiple, pure_eq_ok] using eq_comm
  | cons a as ih =>
    cases ha : a.validate with
    | error e => simp [setMultiple_cons_of_error ha, ha]
    | ok =>
      rw [setMultiple_cons_of_ok ha, ih]
      simp [ha]

theorem setMultiple_eq_error_iff : u.setMultiple as = .error e ↔
    ∃ before a after, as = before ++ a :: after ∧ (∀ b ∈ before, b.validate = .ok ()) ∧
      a.validate = .error e := by
  constructor
  · intro h
    induction as generalizing u with
    | nil => cases h
    | cons a as ih =>
      cases ha : a.validate with
      | error e' =>
        rw [setMultiple_cons_of_error ha] at h
        exact ⟨[], a, as, rfl, by simp, ha.trans (congrArg _ (Except.error.inj h))⟩
      | ok =>
        rw [setMultiple_cons_of_ok ha] at h
        obtain ⟨before, b, after, rfl, hbefore, hb⟩ := ih h
        exact ⟨a :: before, b, after, rfl, by simpa using ⟨ha, hbefore⟩, hb⟩
  · rintro ⟨before, a, after, rfl, hbefore, ha⟩
    induction before generalizing u with
    | nil => exact setMultiple_cons_of_error ha
    | cons b before ih =>
      rw [List.cons_append, setMultiple_cons_of_ok (hbefore b List.mem_cons_self)]
      exact ih fun c hc => hbefore c (List.mem_cons_of_mem _ hc)

/-! Calls, as the assignments that they add. -/

theorem setMultiple_singleton (u : Update) (a : Assignment) : u.setMultiple [a] = u.push a := by
  simp [setMultiple]

theorem call_eq_setMultiple (u : Update) (c : Call) : u.call c = u.setMultiple c.assignments := by
  cases c with
  | set f v => exact (setMultiple_singleton u _).symm
  | setField f other => exact (setMultiple_singleton u _).symm
  | setNull f => exact (setMultiple_singleton u _).symm
  | setMultiple assignments => rfl

theorem run_eq_setMultiple (u : Update) (calls : List Call) :
    u.run calls = u.setMultiple (calls.flatMap Call.assignments) := by
  induction calls generalizing u with
  | nil => rfl
  | cons c calls ih =>
    rw [run, List.foldlM_cons, call_eq_setMultiple, List.flatMap_cons, setMultiple, setMultiple,
      List.foldlM_append]
    exact congrArg _ (funext fun u => ih u)

/-- A builder that has accepted calls holds all of their assignments, in order. None of these writes a field that
cannot be updated, and no null assigned by name goes to a field without nulls. Nulls among the values are taken
for any field, so no such field is set to null just where none of them is for one. Assignments of which some
are not valid are refused for the first of these. -/
theorem run_calls (root : Entity) (cs : List Condition) (calls : List Call) :
    (∀ u, (ofConditions root cs).run calls = .ok u ↔
      u = ⟨root, cs, calls.flatMap Call.assignments⟩ ∧
      ∀ a ∈ u.assignments, a.field.updatable = true ∧ (a.value = .null → a.field.nullable = true)) ∧
    (∀ u, (ofConditions root cs).run calls = .ok u →
      ((∀ a ∈ u.assignments, a.writesNull = true → a.field.nullable = true) ↔
        ∀ a ∈ u.assignments, a.value = .value .null → a.field.nullable = true)) ∧
    ∀ u as e, setMultiple u as = .error e ↔
      ∃ before a after, as = before ++ a :: after ∧ (∀ b ∈ before, b.validate = .ok ()) ∧
        a.validate = .error e := by
  have haccepted : ∀ u, (ofConditions root cs).run calls = .ok u ↔
      u = ⟨root, cs, calls.flatMap Call.assignments⟩ ∧
      ∀ a ∈ u.assignments, a.field.updatable = true ∧ (a.value = .null → a.field.nullable = true) := by
    intro u
    rw [run_eq_setMultiple, setMultiple_eq_ok_iff, ofConditions, List.nil_append]
    refine and_congr_right fun hu => ?_
    simp only [hu, Assignment.validate_eq_ok_iff]
  refine ⟨haccepted, fun u hu => ?_, fun u as e => setMultiple_eq_error_iff⟩
  have hnamed : ∀ a ∈ u.assignments, a.value = .null → a.field.nullable = true :=
    fun a ha => (((haccepted u).1 hu).2 a ha).2
  constructor
  · intro h a ha hvalue
    exact h a ha (Assignment.writesNull_iff.2 (.inr hvalue))
  · intro h a ha hwrites
    obtain hvalue | hvalue := Assignment.writesNull_iff.1 hwrites
    · exact hnamed a ha hvalue
    · exact h a ha hvalue

def companyId : Field :=
  { Field.ofName Sample.sellerModel "CompanyId" with nullable := true }

def leave : List Call :=
  [.setNull companyId, .setMultiple [Sample.sellerName.assign (.text "x")]]

/-- A seller leaves the company and gets a name, but cannot lose it. -/
theorem run_calls_leave :
    (∃ u, (ofConditions Sample.seller []).run leave = .ok u ∧ u.assignments.length = 2 ∧
      ∀ a ∈ u.assignments, a.writesNull = true → a.field.nullable = true) ∧
    setMultiple (ofConditions Sample.seller []) [companyId.assignNull, Sample.sellerName.assignNull] =
      .error (.malformed (.notNullable "Seller.Name")) := by
  obtain ⟨haccepted, hnulls, herror⟩ := run_calls Sample.seller [] leave
  have hrun := (haccepted _).2 ⟨rfl, by
    simp [leave, Call.assignments, Field.assign, Field.assignNull, companyId, Sample.sellerName,
      Field.ofName]⟩
  refine ⟨⟨_, hrun, rfl, (hnulls _ hrun).2 ?_⟩,
    (herror _ _ _).2 ⟨[companyId.assignNull], _, [], rfl, ?_, rfl⟩⟩
  · simp [leave, Call.assignments, Field.assign, Field.assignNull]
  · exact List.forall_mem_singleton.2 rfl

def nameless : List Call :=
  [.set Sample.sellerName (.ofOption .text none)]

/-- A name without a value is accepted for every seller, though sellers cannot lose their names. -/
theorem nameless_accepted :
    (∃ u s, (ofConditions Sample.seller []).run nameless = .ok u ∧ u.compile .postgres = .ok s ∧
      s.sql = "UPDATE sellers SET name = ?" ∧ s.params = [.null]) ∧
    ¬ ∀ root cs calls u, (ofConditions root cs).run calls = .ok u →
      ∀ a ∈ u.assignments, a.writesNull = true → a.field.nullable = true := by
  refine ⟨⟨_, _, rfl, rfl, by decide +kernel, rfl⟩, fun h => ?_⟩
  exact absurd (h Sample.seller [] nameless _ rfl _ List.mem_cons_self rfl) (by decide)

end Update
end Joinery
