import Joinery.Proofs.Compilable
import Joinery.Proofs.Guards
import Joinery.Proofs.Neutral

/-! What restricts a delete.
A delete without conditions is refused. One whose conditions join no table and write no predicate is not
refused, and it goes to every row of its table, or marks every row that is not marked yet. -/
namespace Joinery

namespace Predicate

theorem Vanishes.affects {t : Table} {x : Predicate} (h : x.Vanishes t) (column : String) :
    x.affects column = false := by
  induction h with
  | @connect c ps hc hps ih =>
    rw [Predicate.affects, anyAffects_eq_any, List.any_eq_false]
    intro p hp
    simp [ih p hp]
  | raw h => rfl

end Predicate

namespace Plan

variable {p : Plan} {t : Table}

theorem exists_predicate_of_vanishes {x : Predicate} (h : x.Vanishes t) :
    ∃ q, p.predicate t x = .ok q ∧ q.isEmpty = true := by
  induction h with
  | @connect c ps hc hps ih =>
    obtain ⟨token, htoken⟩ := Connective.resolve_of_mayVanish hc p.dialect
    obtain ⟨qs, hqs⟩ := exists_forall₂.2 ih
    have hwritten : List.Forall₂ (fun x q => p.predicate t x = .ok q) ps qs :=
      hqs.imp fun _ _ hq => hq.1
    have hnone : qs.filter (fun q => !q.isEmpty) = [] := by
      rw [List.filter_eq_nil_iff]
      intro q hq
      obtain ⟨x, -, -, hempty⟩ := exists_mem_left_of_forall₂ hqs hq
      simp [hempty]
    refine ⟨.empty, predicate_connect_eq_ok.2 ⟨token, htoken, [], ?_, ?_⟩, rfl⟩
    · exact predicates_eq_ok.2 ⟨qs, hwritten, hnone⟩
    · simp only [connected, List.isEmpty_nil, hc, if_true]
  | @raw sql values h =>
    refine ⟨_, rfl, ?_⟩
    rw [Sql.isEmpty_fragmentFor]
    exact h

end Plan

namespace Condition

/-- Whether a condition in the scope of a table holds no row back: it joins no table, and no predicate of it
is written. -/
def Idle (t : Table) : Condition → Prop
  | .filter p => p.Vanishes t
  | .join _ _ _ => False
  | .preload _ _ => True
  | .collection _ _ => True

variable {t : Table}

theorem idle_iff (p : Plan) {c : Condition} :
    c.Idle t ↔ c.links t = [] ∧ p.conditionFilters t c = .ok [] := by
  cases c with
  | filter x =>
    simp only [Idle, links, true_and, Plan.conditionFilters, bind_eq_ok, pure_eq_ok]
    constructor
    · intro h
      obtain ⟨q, hq, hempty⟩ := Plan.exists_predicate_of_vanishes (p := p) h
      exact ⟨q, hq, by simp [hempty]⟩
    · rintro ⟨q, hq, hnone⟩
      refine (Plan.predicate_isEmpty_iff hq).1 ?_
      by_contra hsome
      simp [hsome] at hnone
  | join r load cs => simp [Idle, links]
  | preload m fields => simp [Idle, links, Plan.conditionFilters, pure_eq_ok]
  | collection r nested => simp [Idle, links, Plan.conditionFilters, pure_eq_ok]

/-- Conditions are idle just where they join no table and write no predicate. -/
theorem forall_idle_iff (p : Plan) {cs : List Condition} :
    (∀ c ∈ cs, c.Idle t) ↔ allLinks t cs = [] ∧ p.scopeFilters t cs = .ok [] := by
  rw [allLinks_eq_flatMap, List.flatMap_eq_nil_iff]
  constructor
  · intro h
    have hparts : List.Forall₂ (fun c part => p.conditionFilters t c = .ok part) cs
        (cs.map fun _ => []) := by
      rw [List.forall₂_map_right_iff, List.forall₂_same]
      exact fun c hc => ((idle_iff p).1 (h c hc)).2
    refine ⟨fun c hc => ((idle_iff p).1 (h c hc)).1, ?_⟩
    exact Plan.scopeFilters_eq_ok.2 ⟨_, hparts, by simp⟩
  · rintro ⟨hlinks, hscope⟩ c hc
    obtain ⟨parts, hparts, hnone⟩ := Plan.scopeFilters_eq_ok.1 hscope
    obtain ⟨part, hpart, hok⟩ := exists_mem_right_of_forall₂ hparts hc
    obtain rfl : part = [] := List.flatten_eq_nil_iff.1 hnone part hpart
    exact (idle_iff p).2 ⟨hlinks c hc, hok⟩

theorem Idle.affects {c : Condition} (h : c.Idle t) (column : String) : c.affects column = false := by
  cases c with
  | filter x => exact Predicate.Vanishes.affects h column
  | _ => rfl

end Condition

theorem whereClause_nil (filter : Sql) :
    whereClause [] filter = if filter.isEmpty then .empty else .text " WHERE " ++ filter := by
  cases h : filter.isEmpty <;> simp [whereClause, h, Sql.joined]

namespace Delete

variable {x : Delete} {d : Dialect}

/-- The delete of every row, or the mark on every row that has none. -/
def everyRow (x : Delete) (d : Dialect) : Statement :=
  match x.root.deletedAt with
  | none => ⟨"DELETE FROM " ++ x.root.table, [], [], d⟩
  | some mark =>
    ⟨"UPDATE " ++ x.root.table ++ " SET " ++ mark ++ " = CURRENT_TIMESTAMP WHERE ("
      ++ x.root.table ++ "." ++ mark ++ " IS NULL)", [], [], d⟩

/-- The guard of the root, as the filter that idle conditions leave. -/
def guard (x : Delete) : Sql :=
  match x.root.deletedAt with
  | none => .empty
  | some mark => .text "(" ++ .text ((Table.root x.root).column mark ++ " IS NULL") ++ .text ")"

theorem filter_of_idle (h : ∀ c ∈ x.conditions, c.Idle (.root x.root)) :
    (Plan.ofConditions d x.root x.conditions).filter x.conditions = .ok x.guard := by
  have hscope := ((Condition.forall_idle_iff (Plan.ofConditions d x.root x.conditions)).1 h).2
  have hlive : ∀ mark, x.conditions.any (·.affects mark) = false := by
    intro mark
    rw [List.any_eq_false]
    exact fun c hc => by simp [(h c hc).affects mark]
  rw [Plan.filter, Plan.root_ofConditions, hscope, guard]
  simp only [Table.liveness?, Table.root, hlive]
  cases x.root.deletedAt with
  | none => rfl
  | some mark => rfl

theorem compile_of_idle (hne : x.conditions ≠ []) (h : ∀ c ∈ x.conditions, c.Idle (.root x.root)) :
    x.compile d = .ok (x.everyRow d) := by
  have hempty : x.conditions.isEmpty = false := List.isEmpty_eq_false_iff.2 hne
  have hlinks : (Builder.delete x).links = [] :=
    ((Condition.forall_idle_iff (Plan.ofConditions d x.root x.conditions)).1 h).1
  -- without joins the rows are chosen by the filter alone
  have hchoice : (Builder.delete x).choice d x.guard = .alone x.guard := by
    simp only [Builder.choice, hlinks, Choice.ofUpdate, Choice.ofDelete, List.isEmpty_nil, if_true]
    cases x.root.deletedAt <;> rfl
  have hsql : x.toSql (Plan.ofConditions d x.root x.conditions) =
      (Builder.delete x).textOf d (.alone x.guard) := by
    have htext := Builder.toSql_eq (.delete x) d
    rw [show (Builder.delete x).toSql d = x.toSql (Plan.ofConditions d x.root x.conditions) from rfl,
      show ((Builder.delete x).plan d).filter (Builder.delete x).conditions = .ok x.guard from
        filter_of_idle h] at htext
    rw [htext, ← hchoice]
    rfl
  simp only [compile, hempty, hsql, Bool.false_eq_true, if_false]
  cases hmark : x.root.deletedAt with
  | none =>
    have hnone : Sql.empty.isEmpty = true := rfl
    simp only [Builder.textOf, hmark, everyRow, guard]
    refine congrArg Except.ok ?_
    simp only [Statement.ofSql, Choice.deleteText, whereClause_nil, Table.root, hnone, if_true,
      Statement.mk.injEq, and_true]
    exact ⟨by rw [Sql.toText_append, Sql.toText_text, Sql.toText_empty, String.append_empty], rfl⟩
  | some mark =>
    have hcolumn : (d == .mysql && !(Builder.delete x).links.isEmpty) = false := by simp [hlinks]
    simp only [Builder.textOf, hmark, hcolumn, everyRow, guard, Bool.false_eq_true, if_false]
    refine congrArg Except.ok ?_
    simp only [Statement.ofSql, Choice.updateText, whereClause_nil, Table.root, Table.column, Sql.joined,
      Statement.mk.injEq, and_true]
    refine ⟨?_, by simp⟩
    rw [← String.toList_inj]
    simp

/-- A delete that compiles is restricted by its conditions, that is by a joined table or by a predicate
besides the guard of the root, just where some condition is not idle. Where all of them are idle, it compiles
on every dialect, to the delete of every row. -/
theorem compile_restricted (x : Delete) (d : Dialect) :
    let p := Plan.ofConditions d x.root x.conditions
    (∀ s, x.compile d = .ok s → ∃ filter written, p.filter x.conditions = .ok filter ∧
      p.scopeFilters (.root x.root) x.conditions = .ok written ∧
      filter.toText = filterText
        (written.map Sql.toText ++ (Table.root x.root).guards (Condition.own x.conditions)) ∧
      ((Builder.delete x).textOf d ((Builder.delete x).choice d filter)).map Sql.toText = .ok s.sql ∧
      (p.joins ≠ [] ∨ written ≠ [] ↔ ∃ c ∈ x.conditions, ¬ c.Idle (.root x.root))) ∧
    (x.conditions ≠ [] → (∀ c ∈ x.conditions, c.Idle (.root x.root)) →
      x.compile d = .ok (x.everyRow d)) := by
  intro p
  refine ⟨fun s hs => ?_, compile_of_idle⟩
  obtain ⟨filter, hfilter, hsql⟩ := Builder.exists_choice (b := .delete x) hs
  change p.filter x.conditions = .ok filter at hfilter
  have hroot : p.root = .root x.root := Plan.root_ofConditions
  obtain ⟨written, hwritten, -⟩ := bind_eq_ok.1 hfilter
  rw [hroot] at hwritten
  have htext := p.toText_filter x.conditions
  rw [hfilter, hroot, hwritten] at htext
  have hjoins : p.joins = [] ↔ Condition.allLinks (.root x.root) x.conditions = [] := by
    rw [Plan.joins_ofConditions, List.map_eq_nil_iff]
  have hnone : written = [] ↔ p.scopeFilters (.root x.root) x.conditions = .ok [] := by
    rw [hwritten, Except.ok.injEq]
  refine ⟨filter, written, hfilter, hwritten, Except.ok.inj htext, hsql, ?_⟩
  have hidle : (∀ c ∈ x.conditions, c.Idle (.root x.root)) ↔ _ := Condition.forall_idle_iff p
  rw [← hjoins, ← hnone] at hidle
  simpa [imp_iff_not_or, not_and_or] using (not_congr hidle).symm

def namedSellers : Delete :=
  ⟨Sample.seller, [.filter (.and []), .filter (Sample.sellerName.eq (.text "a"))]⟩

def loadedCompanies : Delete :=
  ⟨Sample.company, [.preloadAll Sample.company, .filter (.and [.or []])]⟩

/-- The name restricts the first delete, and nothing the second. -/
theorem compile_restricted_samples :
    (∃ s written, namedSellers.compile .postgres = .ok s ∧
      (Plan.ofConditions .postgres Sample.seller namedSellers.conditions).scopeFilters
        (.root Sample.seller) namedSellers.conditions = .ok written ∧ written ≠ []) ∧
    loadedCompanies.compile .mysql = .ok ⟨"UPDATE companies SET deleted_at = CURRENT_TIMESTAMP"
      ++ " WHERE (companies.deleted_at IS NULL)", [], [], .mysql⟩ := by
  refine ⟨?_, ?_⟩
  · obtain ⟨s, hs⟩ : ∃ s, namedSellers.compile .postgres = .ok s := ⟨_, rfl⟩
    obtain ⟨filter, written, -, hwritten, -, -, hrestricted⟩ :=
      (compile_restricted namedSellers .postgres).1 s hs
    refine ⟨s, written, hs, hwritten, ?_⟩
    have hbusy : ∃ c ∈ namedSellers.conditions, ¬ c.Idle (.root namedSellers.root) :=
      ⟨_, List.mem_cons_of_mem _ (List.mem_singleton_self _), nofun⟩
    exact (hrestricted.2 hbusy).resolve_left fun hjoins => hjoins rfl
  · have hidle : ∀ c ∈ loadedCompanies.conditions, c.Idle (.root loadedCompanies.root) := by
      have hnothing : (Predicate.and [.or []]).Vanishes (.root Sample.company) :=
        .connect rfl (List.forall_mem_singleton.2 (.connect rfl nofun))
      exact List.forall_mem_cons.2 ⟨trivial, List.forall_mem_singleton.2 hnothing⟩
    exact (compile_restricted loadedCompanies .mysql).2 (List.cons_ne_nil _ _) hidle

def allSellers : Delete :=
  ⟨Sample.seller, [.filter (.and [])]⟩

/-- A delete may compile without any restriction. -/
theorem allSellers_unrestricted :
    (allSellers.compile .postgres).toOption.map Statement.sql = some "DELETE FROM sellers" ∧
    ¬ ∀ (x : Delete) (d : Dialect) (s : Statement), x.compile d = .ok s →
      (Plan.ofConditions d x.root x.conditions).joins ≠ [] ∨
        ∃ written, (Plan.ofConditions d x.root x.conditions).scopeFilters (.root x.root) x.conditions =
          .ok written ∧ written ≠ [] := by
  refine ⟨by decide +kernel, fun h => ?_⟩
  obtain hjoins | ⟨written, hwritten, hne⟩ := h allSellers .postgres _ rfl
  · exact hjoins rfl
  · obtain rfl := Except.ok.inj hwritten
    exact hne rfl

end Delete
end Joinery
