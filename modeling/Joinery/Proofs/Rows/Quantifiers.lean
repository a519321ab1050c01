import Joinery.Proofs.Rows.Truth
import Joinery.Proofs.Compilable

/-! What the quantifiers over related rows mean.
The text of every predicate is that of its clauses, so the truth of these is the truth of the text. -/
namespace Joinery

namespace Relation

variable (r : Relation) {ps : List Predicate}

theorem checked_of_ne_nil (quantifier : String) (h : ps ≠ []) : r.checked quantifier ps = .ok ps := by
  rw [checked, if_neg (by simpa using h)]

theorem anyOf_of_ne_nil (h : ps ≠ []) : r.anyOf ps = .ok (.related r ps) := by
  rw [anyOf, r.checked_of_ne_nil _ h]
  rfl

theorem noneOf_of_ne_nil (h : ps ≠ []) : r.noneOf ps = .ok (.connect .not [.related r ps]) := by
  rw [noneOf, r.checked_of_ne_nil _ h]
  rfl

theorem allOf_of_ne_nil (h : ps ≠ []) :
    r.allOf ps = .ok (.connect .not [.related r [.connect .not ps]]) := by
  rw [allOf, r.checked_of_ne_nil _ h]
  rfl

end Relation

namespace Plan

def fragment? (p : Plan) (t : Table) (c : Predicate) : Option Clause :=
  match p.predicate t c with
  | .ok q => if q.isEmpty then none else some (.fragment q)
  | .error _ => none

mutual

/-- The clause that a predicate writes in the scope of a table, if it writes anything. -/
def clause? (p : Plan) (t : Table) : Predicate → Option Clause
  | .connect c ps => if (clauses p t ps).isEmpty then none else some (.connect c (clauses p t ps))
  | .related r ps =>
    let mark := (t.reach r).guardedMark? fun mark => ps.any (·.affects mark)
    some (.related t r mark (clauses p (t.reach r) ps))
  | .compare f o values escape => p.fragment? t (.compare f o values escape)
  | .compareFields f o operands => p.fragment? t (.compareFields f o operands)
  | .raw sql values => p.fragment? t (.raw sql values)

def clauses (p : Plan) (t : Table) : List Predicate → List Clause
  | [] => []
  | c :: rest => (clause? p t c).toList ++ clauses p t rest

end

/-- Whether a text is that of a clause, or nothing if there is none. -/
def WrittenAs (q : Sql) : Option Clause → Prop
  | none => q.isEmpty = true
  | some k => q.isEmpty = false ∧ k.toSql = q

variable {p : Plan} {t : Table} {q : Sql}

theorem writtenAs_fragment? {c : Predicate} (h : p.predicate t c = .ok q) :
    WrittenAs q (p.fragment? t c) := by
  unfold fragment?
  simp only [h]
  split
  · assumption
  · exact ⟨by simpa using ‹¬ q.isEmpty = true›, rfl⟩

theorem toSqls_clauses {ps : List Predicate} {written : List Sql}
    (hps : ∀ c ∈ ps, ∀ q, p.predicate t c = .ok q → WrittenAs q (p.clause? t c))
    (h : p.predicates t ps = .ok written) : Clause.toSqls (p.clauses t ps) = written := by
  obtain ⟨qs, hqs, rfl⟩ := predicates_eq_ok.1 h
  rw [Clause.toSqls_eq_map]
  clear h
  induction hqs with
  | nil => rfl
  | @cons c q rest qs hq hqs ih =>
    have hrest := ih fun c hc => hps c (by simp [hc])
    have hwritten := hps c (by simp) q hq
    rw [clauses, List.map_append, hrest]
    cases hc : p.clause? t c with
    | none =>
      have hempty : q.isEmpty = true := by simpa [hc, WrittenAs] using hwritten
      simp [hempty]
    | some k =>
      obtain ⟨hsome, hk⟩ : q.isEmpty = false ∧ k.toSql = q := by simpa [hc, WrittenAs] using hwritten
      simp [hsome, hk]

theorem token_connective {c : Connective} {d : Dialect} {token : String}
    (h : c.operator.resolve d = .ok token) : token = c.operator.token := by
  rw [(Operator.resolve_eq_ok h).2]
  cases c <;> rfl

theorem connected_eq_written {c : Connective} {written : List Sql} (hne : written ≠ []) :
    connected c c.operator.token written = .ok (c.written written) := by
  unfold connected
  rw [if_neg (by simpa using hne)]
  cases c <;> rfl

theorem subquery_eq (parent : Table) (r : Relation) (mark : Option String) (ks : List Clause) :
    subquery (parent.reach r) parent r (Clause.toSqls ks)
        (mark.map fun mark => (parent.reach r).column mark ++ " IS NULL") =
      (Clause.related parent r mark ks).toSql := by
  rw [subquery, Clause.toSql, ← Table.text_markTests, ← Table.text_keyTest, List.map_map]
  rfl

/-- A predicate writes its clause. -/
theorem predicate_writtenAs {c : Predicate} (h : p.predicate t c = .ok q) :
    WrittenAs q (p.clause? t c) := by
  induction c using Predicate.induct generalizing t q with
  | compare f o values escape =>
    rw [clause?]
    exact writtenAs_fragment? h
  | compareFields f o operands =>
    rw [clause?]
    exact writtenAs_fragment? h
  | raw sql values =>
    rw [clause?]
    exact writtenAs_fragment? h
  | connect c ps ih =>
    obtain ⟨token, htoken, written, hwritten, hq⟩ := predicate_connect_eq_ok.1 h
    rw [token_connective htoken, ← toSqls_clauses (fun c hc q => ih c hc) hwritten] at hq
    rw [clause?]
    split
    · rename_i hnone
      rw [List.isEmpty_iff.1 hnone, Clause.toSqls] at hq
      cases c <;> cases hq <;> rfl
    · rename_i hsome
      have hne : Clause.toSqls (p.clauses t ps) ≠ [] := by
        rw [Clause.toSqls_eq_map, ne_eq, List.map_eq_nil_iff]
        exact fun h => hsome (List.isEmpty_iff.2 h)
      refine ⟨?_, Except.ok.inj ((connected_eq_written hne).symm.trans hq)⟩
      rw [← Bool.not_eq_true, connected_isEmpty hq]
      exact fun h => hne h.2
  | related r ps ih =>
    obtain ⟨written, hwritten, rfl⟩ := predicate_related_eq_ok.1 h
    refine ⟨subquery_isEmpty _ _ _ _, ?_⟩
    rw [Table.liveness?_eq, ← toSqls_clauses (fun c hc q => ih c hc) hwritten, subquery_eq]

def Writes (p : Plan) (t : Table) (c : Predicate) (k : Clause) : Prop :=
  p.predicate t c = .ok k.toSql ∧ p.clause? t c = some k

theorem Writes.isEmpty {c : Predicate} {k : Clause} (h : p.Writes t c k) : k.toSql.isEmpty = false := by
  have hwritten := predicate_writtenAs h.1
  rw [h.2] at hwritten
  exact hwritten.1

theorem writes_of_clause? {c : Predicate} {k : Clause} (h : p.predicate t c = .ok q)
    (hk : p.clause? t c = some k) : p.Writes t c k := by
  have hwritten := predicate_writtenAs h
  rw [hk] at hwritten
  exact ⟨hwritten.2 ▸ h, hk⟩

theorem exists_writes {c : Predicate} (h : p.predicate t c = .ok q) (hc : ¬ c.Vanishes t) :
    ∃ k, p.Writes t c k := by
  have hwritten := predicate_writtenAs h
  cases hk : p.clause? t c with
  | none =>
    rw [hk] at hwritten
    exact absurd ((predicate_isEmpty_iff h).1 hwritten) hc
  | some k => exact ⟨k, writes_of_clause? h hk⟩

section Lists

variable {ps : List Predicate} {ks : List Clause}

theorem exists_forall₂_writes {written : List Sql} (h : p.predicates t ps = .ok written)
    (hps : ∀ c ∈ ps, ¬ c.Vanishes t) : ∃ ks, List.Forall₂ (p.Writes t) ps ks := by
  obtain ⟨qs, hqs, -⟩ := predicates_eq_ok.1 h
  refine exists_forall₂.2 fun c hc => ?_
  obtain ⟨q, -, hq⟩ := exists_mem_right_of_forall₂ hqs hc
  exact exists_writes hq (hps c hc)

theorem clauses_of_writes (h : List.Forall₂ (p.Writes t) ps ks) : p.clauses t ps = ks := by
  induction h with
  | nil => rfl
  | cons hk _ ih => simp [clauses, hk.2, ih]

theorem predicates_of_writes (h : List.Forall₂ (p.Writes t) ps ks) :
    p.predicates t ps = .ok (ks.map Clause.toSql) := by
  induction h with
  | nil => rfl
  | cons hk _ ih => simp [predicates, hk.1, ih, hk.isEmpty, bind_eq_ok]

theorem writes_related {r : Relation} (h : List.Forall₂ (p.Writes (t.reach r)) ps ks) :
    p.Writes t (.related r ps)
      (.related t r ((t.reach r).guardedMark? fun mark => ps.any (·.affects mark)) ks) := by
  refine writes_of_clause? (predicate_related_eq_ok.2 ⟨_, predicates_of_writes h, rfl⟩) ?_
  rw [clause?, clauses_of_writes h]

theorem writes_not (h : List.Forall₂ (p.Writes t) ps ks) (hne : ks ≠ []) :
    p.Writes t (.connect .not ps) (.connect .not ks) := by
  obtain ⟨token, htoken⟩ := Operator.exists_resolve.2 (show Operator.not.supports p.dialect = true from rfl)
  obtain ⟨q, hq⟩ : ∃ q, connected .not token (ks.map Clause.toSql) = .ok q := by
    simp [connected, hne]
  refine writes_of_clause? (predicate_connect_eq_ok.2 ⟨_, htoken, _, predicates_of_writes h, hq⟩) ?_
  rw [clause?, clauses_of_writes h, if_neg (by simpa using hne)]

theorem writes_none {r : Relation} (h : List.Forall₂ (p.Writes (t.reach r)) ps ks) :
    p.Writes t (.connect .not [.related r ps]) (.connect .not
      [.related t r ((t.reach r).guardedMark? fun mark => ps.any (·.affects mark)) ks]) :=
  writes_not (.cons (writes_related h) .nil) (by simp)

/-- A negation compares the columns that its members compare, so that rows are guarded alike. -/
theorem writes_all {r : Relation} (h : List.Forall₂ (p.Writes (t.reach r)) ps ks) (hne : ks ≠ []) :
    p.Writes t (.connect .not [.related r [.connect .not ps]]) (.connect .not
      [.related t r ((t.reach r).guardedMark? fun mark => ps.any (·.affects mark)) [.connect .not ks]]) := by
  have hcounter := writes_none (.cons (writes_not h hne) .nil)
  simpa only [List.any_cons, List.any_nil, Bool.or_false, Predicate.affects,
    Predicate.anyAffects_eq_any] using hcounter

end Lists

/-- The quantifiers over related rows. The first two mean what they say in the logic of SQL. The third finds
no row of which some predicate is false; it is true of rows of which predicates are unknown as well, and
means that all rows fulfil all predicates only if one is false anyway or none is unknown. -/
theorem quantifiers_over_related {r : Relation} {ps : List Predicate} {written : List Sql}
    (hne : ps ≠ []) (hps : ∀ c ∈ ps, ¬ c.Vanishes (t.reach r))
    (hok : p.predicates (t.reach r) ps = .ok written) :
    let mark := (t.reach r).guardedMark? fun mark => ps.any (·.affects mark)
    ∃ any none all anyClause noneClause allClause ks,
      r.anyOf ps = .ok any ∧ r.noneOf ps = .ok none ∧ r.allOf ps = .ok all ∧
      p.Writes t any anyClause ∧ p.Writes t none noneClause ∧ p.Writes t all allClause ∧
      List.Forall₂ (p.Writes (t.reach r)) ps ks ∧
      ∀ (db : Database) (e : Combination),
        let rows := db.related t r mark e
        let truth (row : Row) (k : Clause) := k.truth db (e.within (t.reach r) row)
        (anyClause.truth db e = .true ↔ ∃ row ∈ rows, ∀ k ∈ ks, truth row k = .true) ∧
        (noneClause.truth db e = .true ↔ ¬ ∃ row ∈ rows, ∀ k ∈ ks, truth row k = .true) ∧
        (allClause.truth db e = .true ↔ ∀ row ∈ rows, ∀ k ∈ ks, truth row k ≠ .false) ∧
        ((allClause.truth db e = .true ↔ ∀ row ∈ rows, ∀ k ∈ ks, truth row k = .true) ↔
          (∃ row ∈ rows, ∃ k ∈ ks, truth row k = .false) ∨
            ∀ row ∈ rows, ∀ k ∈ ks, truth row k ≠ .unknown) := by
  intro mark
  obtain ⟨ks, hks⟩ := exists_forall₂_writes hok hps
  have hksne : ks ≠ [] := by
    rintro rfl
    exact hne (List.forall₂_nil_right_iff.1 hks)
  refine ⟨_, _, _, _, _, _, ks, r.anyOf_of_ne_nil hne, r.noneOf_of_ne_nil hne, r.allOf_of_ne_nil hne,
    writes_related hks, writes_none hks, writes_all hks hksne, hks, fun db e => ?_⟩
  intro rows truth
  refine ⟨Clause.truth_related_eq_true_iff, Clause.truth_none_eq_true_iff,
    Clause.truth_all_eq_true_iff, ?_⟩
  rw [Clause.truth_all_eq_true_iff]
  exact Truth.never_false_iff_always_true

end Plan

namespace Sample

def employee : Entity :=
  ⟨⟨"Employee", "employees", "id", none⟩, []⟩

def signedUp : Relation :=
  ⟨employee.toModel, "Sellers", seller, "id", "employee_id"⟩

def ofFirstCompany : Predicate :=
  ({ Field.ofName sellerModel "CompanyId" with nullable := true }).eq (.int 1)

def firstCompanySql : Sql :=
  ⟨[.raw "sellers.company_id = ", .param], [.int 1]⟩

def signedUpSeller (companyId : Value) : Row := fun column =>
  if column = "employee_id" then .int 4 else if column = "company_id" then companyId else .null

/-- One seller; of a seller without a company it is unknown which company that is. -/
def signedUpIn (companyId : Value) : Database where
  rows table := if table = "sellers" then [signedUpSeller companyId] else []
  truth _ e :=
    if (e.value "sellers" "company_id").isNull then .unknown
    else .ofBool ((e.value "sellers" "company_id").equals (.int 1))

def fourthEmployee : Combination :=
  [("employees", fun column => if column = "id" then .int 4 else .null)]

theorem aliasName_signedUp : ((Table.root employee).reach signedUp).aliasName = "sellers" := by
  decide +kernel

theorem within_signedUp (row : Row) :
    fourthEmployee.within ((Table.root employee).reach signedUp) row = ("sellers", row) :: fourthEmployee :=
  congrArg (fun name => (name, row) :: fourthEmployee) aliasName_signedUp

theorem related_signedUp (companyId : Value) :
    (signedUpIn companyId).related (.root employee) signedUp none fourthEmployee =
      [signedUpSeller companyId] := by
  simp only [Database.related, within_signedUp, Table.keyTest, aliasName_signedUp]
  rfl

theorem writes_ofFirstCompany : (Plan.ofConditions .postgres employee []).Writes
    ((Table.root employee).reach signedUp) ofFirstCompany (.fragment firstCompanySql) :=
  ⟨rfl, rfl⟩

theorem truth_signedUp (companyId : Value) : (Clause.fragment firstCompanySql).truth
    (signedUpIn companyId) (fourthEmployee.within ((Table.root employee).reach signedUp)
      (signedUpSeller companyId)) =
    if companyId.isNull then .unknown else .ofBool (companyId.equals (.int 1)) := by
  rw [Clause.truth, within_signedUp]
  rfl

end Sample

namespace Plan

/-- A seller of another company keeps a test of all sellers from being true. -/
theorem quantifiers_over_signedUp : ∃ all clause,
    Sample.signedUp.allOf [Sample.ofFirstCompany] = .ok all ∧
      (ofConditions .postgres Sample.employee []).Writes (.root Sample.employee) all clause ∧
      clause.truth (Sample.signedUpIn (.int 2)) Sample.fourthEmployee ≠ .true := by
  have hwrites := Sample.writes_ofFirstCompany
  have hvanishes : ∀ c ∈ [Sample.ofFirstCompany],
      ¬ c.Vanishes ((Table.root Sample.employee).reach Sample.signedUp) := by
    intro c hc
    rw [List.mem_singleton.1 hc]
    nofun
  obtain ⟨_, _, all, _, _, clause, ks, -, -, hall, -, -, hclause, hks, htruth⟩ :=
    quantifiers_over_related (by simp) hvanishes (predicates_of_writes (.cons hwrites .nil))
  refine ⟨all, clause, hall, hclause, fun htrue => ?_⟩
  obtain ⟨k, _, hk, hnil, rfl⟩ := List.forall₂_cons_left_iff.1 hks
  obtain rfl := Option.some.inj (hk.2.symm.trans hwrites.2)
  have hseller := (htruth (Sample.signedUpIn (.int 2)) Sample.fourthEmployee).2.2.1.1 htrue
    (Sample.signedUpSeller (.int 2))
    (Sample.related_signedUp (.int 2) ▸ List.mem_singleton_self _) _ List.mem_cons_self
  exact hseller ((Sample.truth_signedUp (.int 2)).trans (by decide))

/-- A seller without a company is taken for one of the first company by a test of all sellers. -/
theorem all_signedUp_unknown :
    (Sample.signedUp.allOf [Sample.ofFirstCompany] >>=
        (ofConditions .postgres Sample.employee []).predicate (.root Sample.employee)).toOption.map
          Sql.toText = some ("(NOT (EXISTS (SELECT 1 FROM sellers sellers WHERE " ++
            "sellers.employee_id = employees.id AND (NOT (sellers.company_id = ?)))))") ∧
    ∃ all clause, Sample.signedUp.allOf [Sample.ofFirstCompany] = .ok all ∧
      (ofConditions .postgres Sample.employee []).Writes (.root Sample.employee) all clause ∧
      (ofConditions .postgres Sample.employee []).Writes ((Table.root Sample.employee).reach Sample.signedUp)
        Sample.ofFirstCompany (.fragment Sample.firstCompanySql) ∧
      ¬ ∀ db e, (clause.truth db e = .true ↔
        ∀ row ∈ db.related (.root Sample.employee) Sample.signedUp none e,
          (Clause.fragment Sample.firstCompanySql).truth db
            (e.within ((Table.root Sample.employee).reach Sample.signedUp) row) = .true) := by
  have hall := writes_all (.cons Sample.writes_ofFirstCompany .nil) (by simp)
  refine ⟨by decide +kernel, _, _, rfl, hall, Sample.writes_ofFirstCompany, fun h => ?_⟩
  have hseller : Sample.signedUpSeller .null ∈ (Sample.signedUpIn .null).related (.root Sample.employee)
      Sample.signedUp none Sample.fourthEmployee :=
    Sample.related_signedUp .null ▸ List.mem_singleton_self _
  have hunknown := Sample.truth_signedUp .null
  have htrue := (h (Sample.signedUpIn .null) Sample.fourthEmployee).1
    (Clause.truth_all_eq_true_iff.2 fun row hrow k hk => ?_) _ hseller
  · rw [hunknown] at htrue
    exact absurd htrue (by decide)
  · have honly : row ∈ (Sample.signedUpIn .null).related (.root Sample.employee) Sample.signedUp none
        Sample.fourthEmployee := hrow
    rw [Sample.related_signedUp] at honly
    rw [List.mem_singleton.1 hk, List.mem_singleton.1 honly, hunknown]
    decide

end Plan
end Joinery
