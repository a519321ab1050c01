import Joinery.Proofs.Fragment
import Joinery.Proofs.Trees

/-! Predicates that write nothing: conjunctions and disjunctions of such predicates, and raw SQL of which
nothing is left in its scope. -/
namespace Joinery

namespace Predicate

/-- A predicate that contributes nothing in the scope of a table. -/
inductive Vanishes (t : Table) : Predicate → Prop where
  | connect {c : Connective} {ps : List Predicate} (hc : c.mayVanish = true)
      (hps : ∀ p ∈ ps, Vanishes t p) : Vanishes t (.connect c ps)
  | raw {sql : String} {values : List Value} (h : inScope sql t.aliasName = "") :
      Vanishes t (.raw sql values)

variable {t : Table}

theorem vanishes_connect_iff {c : Connective} {ps : List Predicate} :
    (connect c ps).Vanishes t ↔ c.mayVanish = true ∧ ∀ p ∈ ps, p.Vanishes t := by
  constructor
  · rintro ⟨hc, hps⟩
    exact ⟨hc, hps⟩
  · rintro ⟨hc, hps⟩
    exact .connect hc hps

theorem vanishes_raw_iff {sql : String} {values : List Value} :
    (raw sql values).Vanishes t ↔ inScope sql t.aliasName = "" := by
  constructor
  · intro h
    cases h with
    | raw h => exact h
  · exact .raw

end Predicate

theorem replaceMarks_ne_nil {replacement : List Char} (h : replacement ≠ []) {cs : List Char}
    (hcs : cs ≠ []) : replaceMarks replacement 0 cs ≠ [] := by
  cases cs with
  | nil => exact absurd rfl hcs
  | cons c rest =>
    rw [replaceMarks]
    split
    · exact List.append_ne_nil_of_left_ne_nil h _
    · exact List.cons_ne_nil _ _

/-- In the scope of a table with a name, something is left of every text. -/
theorem inScope_eq_empty_iff {sql aliasName : String} (h : aliasName ≠ "") :
    inScope sql aliasName = "" ↔ sql = "" := by
  constructor
  · intro hempty
    by_contra hsql
    have hname : aliasName.toList ≠ [] := by simpa using h
    have htext : sql.toList ≠ [] := by simpa using hsql
    have hnone : replaceMarks aliasName.toList 0 sql.toList = [] := by
      simpa [inScope] using congrArg String.toList hempty
    exact replaceMarks_ne_nil hname htext hnone
  · rintro rfl
    rfl

namespace Sql

@[simp] theorem isEmpty_append (a b : Sql) : (a ++ b).isEmpty = (a.isEmpty && b.isEmpty) := by
  rw [isEmpty, isEmpty, isEmpty, parts_append]
  fun_cases appendParts a.parts b.parts with
  | case1 q => rfl
  | case2 s t q => rfl
  | case3 p rest q h => rfl

@[simp] theorem isEmpty_text (s : String) : (text s).isEmpty = s.isEmpty := by
  by_cases h : s = "" <;> simp [isEmpty, text, h]

theorem isEmpty_fragmentFor {d : Dialect} {s : String} {values : List Value} :
    (fragmentFor d s values).isEmpty = true ↔ s = "" := by
  constructor
  · intro h
    by_contra hs
    rw [isEmpty_of_toText_ne (by simpa using hs)] at h
    cases h
  · rintro rfl
    rfl

end Sql

namespace Plan

variable {p : Plan} {t : Table} {q : Sql}

theorem comparison_toText_ne {lhs : Sql} {o : Operator} {operands : List Sql} {escape : Option Value}
    (h : p.comparison lhs o operands escape = .ok q) : q.toText ≠ "" := by
  simp only [comparison, bind_eq_ok] at h
  obtain ⟨token, -, rhs, -, h⟩ := h
  cases escape with
  | none =>
    rw [← pure_eq_ok.1 h]
    simp
  | some character =>
    simp only [bind_eq_ok, pure_eq_ok] at h
    obtain ⟨escapeToken, -, rfl⟩ := h
    simp

theorem comparison_isEmpty {lhs : Sql} {o : Operator} {operands : List Sql} {escape : Option Value}
    (h : p.comparison lhs o operands escape = .ok q) : q.isEmpty = false :=
  Sql.isEmpty_of_toText_ne (comparison_toText_ne h)

theorem connected_isEmpty {c : Connective} {token : String} {written : List Sql}
    (h : connected c token written = .ok q) :
    q.isEmpty = true ↔ c.mayVanish = true ∧ written = [] := by
  unfold connected at h
  split at h
  · rename_i hnone
    split at h
    · rename_i hc
      rw [← Except.ok.inj h]
      simpa [Sql.isEmpty, Sql.empty, hc] using hnone
    · cases h
  · rename_i hsome
    have hq : q.isEmpty = false := by
      split at h
      · rw [← Except.ok.inj h]
        simp
      · rw [← Except.ok.inj h]
        simp
    simp_all

theorem subquery_isEmpty (parent : Table) (r : Relation) (written : List Sql) (live : Option String) :
    (subquery t parent r written live).isEmpty = false := by
  simp [subquery]

/-- Written predicates are left out exactly if they vanish. -/
theorem predicate_isEmpty_iff {c : Predicate} (h : p.predicate t c = .ok q) :
    q.isEmpty = true ↔ c.Vanishes t := by
  induction c using Predicate.induct generalizing t q with
  | compare f o values escape =>
    obtain ⟨lhs, -, h⟩ := predicate_compare_eq_ok.1 h
    simp only [comparison_isEmpty h, Bool.false_eq_true, false_iff]
    nofun
  | compareFields f o operands =>
    obtain ⟨lhs, -, written, -, h⟩ := predicate_compareFields_eq_ok.1 h
    simp only [comparison_isEmpty h, Bool.false_eq_true, false_iff]
    nofun
  | connect c ps ih =>
    obtain ⟨token, -, written, hwritten, h⟩ := predicate_connect_eq_ok.1 h
    obtain ⟨qs, hqs, rfl⟩ := predicates_eq_ok.1 hwritten
    rw [connected_isEmpty h, Predicate.vanishes_connect_iff, List.filter_eq_nil_iff]
    refine and_congr_right fun _ => ?_
    constructor
    · intro hall c hc
      obtain ⟨q, hq, hok⟩ := exists_mem_right_of_forall₂ hqs hc
      exact (ih c hc hok).1 (by simpa using hall q hq)
    · intro hall q hq
      obtain ⟨c, hc, hok⟩ := exists_mem_left_of_forall₂ hqs hq
      simpa using (ih c hc hok).2 (hall c hc)
  | related r ps ih =>
    obtain ⟨written, -, rfl⟩ := predicate_related_eq_ok.1 h
    simp only [subquery_isEmpty, Bool.false_eq_true, false_iff]
    nofun
  | raw sql values =>
    rw [predicate] at h
    rw [← pure_eq_ok.1 h, Sql.isEmpty_fragmentFor, Predicate.vanishes_raw_iff]

end Plan
end Joinery
