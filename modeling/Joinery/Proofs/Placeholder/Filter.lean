import Joinery.Proofs.Placeholder.Aligned

/-! Alignment of the filter of a statement.
Plain names, functions with as many values as they take, and raw SQL that closes its literals and has a
value for each placeholder make every predicate an aligned fragment. -/
namespace Joinery

open Sql (Plain Quoteless Aligned)

theorem nameClass_isPlain : NameClass isPlain where
  name := by
    intro c hc
    have hne (x : Char) (hx : Text.isNameChar x = false) : c ≠ x := Text.ne_of_isNameChar hc hx
    simp [isPlain, Scan.isQuote, hne '\'' (by decide), hne '"' (by decide),
      hne '\x60' (by decide), hne '?' (by decide)]
  dot := by decide

/-- Plain names, functions with as many values as they take, and raw SQL that ends outside of literals
with a value for each placeholder. -/
def Requirement.bindable (d : Dialect) : Requirement where
  field f := f.Spelled isPlain ∧ ∀ call ∈ f.functions, call.values.length = call.function.arity
  relation r := r.Spelled isPlain
  raw t sql values :=
    Scan.after d.backslashEscapes .outside (inScope sql t.aliasName).toList = .outside ∧
      (Sql.split d.backslashEscapes (inScope sql t.aliasName)).count .param = values.length

theorem Requirement.bindable_spells (d : Dialect) : (bindable d).Spells isPlain :=
  ⟨fun _ h => h.1, fun _ h => h⟩

variable {d : Dialect}

/-- Whether a text without quotes has as many question marks as there are values. -/
def Counts (text : String) (values : List Value) : Prop :=
  Quoteless text ∧ text.toList.count '?' = values.length

theorem counts_of_plain {s : String} (h : Plain s) : Counts s [] :=
  ⟨Sql.quoteless_of_plain h, Sql.count_mark_of_plain h⟩

theorem Counts.append {s t : String} {values more : List Value} (hs : Counts s values)
    (ht : Counts t more) : Counts (s ++ t) (values ++ more) := by
  refine ⟨hs.1.append ht.1, ?_⟩
  rw [String.toList_append, List.count_append, hs.2, ht.2, List.length_append]

namespace Strategy

def word : Strategy → String
  | .infixOp op => op
  | .call name => name
  | .prefixOp op => op

theorem plain_word {f : Function} {s : Strategy} (h : f.strategy? d = some s) : Plain s.word := by
  have all : ∀ s ∈ f.strategy? d, Plain s.word := by
    cases f <;> cases d <;> decide
  exact all s h

theorem placeholders_arity {f : Function} {s : Strategy} (h : f.strategy? d = some s) :
    s.placeholders f.arity = f.arity := by
  have all : ∀ s ∈ f.strategy? d, s.placeholders f.arity = f.arity := by
    cases f <;> cases d <;> decide
  exact all s h

theorem counts_marks (values : List Value) :
    Counts (String.join (List.replicate values.length ", ?")) values := by
  induction values with
  | nil => exact counts_of_plain (by decide)
  | cons v rest ih =>
    rw [List.length_cons, List.replicate_succ, String.join_cons]
    have hmark : Counts ", ?" [v] := ⟨by decide, rfl⟩
    exact hmark.append ih

theorem counts_apply {s : Strategy} (hword : Plain s.word) {inner : String}
    {values own : List Value} (hinner : Counts inner values)
    (hown : s.placeholders own.length = own.length) :
    Counts (s.apply inner own.length) (values ++ own) := by
  have hword' := counts_of_plain hword
  cases s with
  | infixOp op =>
    obtain ⟨v, rfl⟩ := List.length_eq_one_iff.1 (show own.length = 1 from hown.symm)
    have hmark : Counts " ?)" [v] := ⟨by decide, rfl⟩
    have hopen : Counts "(" [] := counts_of_plain (by decide)
    have hblank : Counts " " [] := counts_of_plain (by decide)
    simpa [apply, word] using (((hopen.append hinner).append hblank).append hword').append hmark
  | call name =>
    have hopen : Counts "(" [] := counts_of_plain (by decide)
    have hclose : Counts ")" [] := counts_of_plain (by decide)
    simpa [apply, word] using
      (((hword'.append hopen).append hinner).append (counts_marks own)).append hclose
  | prefixOp op =>
    rw [List.length_eq_zero_iff.1 (show own.length = 0 from hown.symm)]
    simpa [apply, word] using hword'.append hinner

end Strategy

/-- Functions around a text write a question mark for each value that they bind. -/
theorem FunctionCall.counts_applyAll {calls : List FunctionCall}
    (hcalls : ∀ call ∈ calls, call.values.length = call.function.arity) {text text' : String}
    {values values' : List Value} (h : Counts text values)
    (hok : applyAll d calls text values = .ok (text', values')) : Counts text' values' := by
  induction calls generalizing text values with
  | nil =>
    simp only [applyAll, Except.ok.injEq, Prod.mk.injEq] at hok
    rwa [← hok.1, ← hok.2]
  | cons call rest ih =>
    simp only [applyAll, bind_eq_ok] at hok
    obtain ⟨s, hs, hok⟩ := hok
    have hstrategy := Function.resolve_eq_ok hs
    have hcall := hcalls call (by simp)
    have hbinds : s.placeholders call.values.length = call.values.length := by
      rw [hcall]
      exact Strategy.placeholders_arity hstrategy
    refine ih (fun c hc => hcalls c (by simp [hc])) ?_ hok
    rw [hbinds, List.take_length]
    exact Strategy.counts_apply (Strategy.plain_word hstrategy) h hbinds

theorem Field.aligned_applied {f : Field}
    (hf : ∀ call ∈ f.functions, call.values.length = call.function.arity) {column : String}
    (hcolumn : Plain column) {q : Sql} (hq : f.applied d column = .ok q) : q.Aligned d := by
  simp only [applied, bind_eq_ok, pure_eq_ok] at hq
  obtain ⟨⟨text, values⟩, happly, rfl⟩ := hq
  have hcounts := FunctionCall.counts_applyAll hf (counts_of_plain hcolumn) happly
  exact .fragment hcounts.1 hcounts.2

namespace Operator

theorem plain_token (o : Operator) : Plain o.token := by
  cases o <;> decide

theorem plain_tokenOn (o : Operator) (d : Dialect) : Plain (o.tokenOn d) := by
  unfold tokenOn
  split <;> exact plain_token _

theorem plain_resolve {o : Operator} {token : String} (h : o.resolve d = .ok token) :
    Plain token :=
  (resolve_eq_ok h).2 ▸ plain_tokenOn o d

end Operator

namespace Plan

variable {p : Plan}

theorem aligned_range {o : Operator} {operands : List Sql} (h : ∀ q ∈ operands, q.Aligned d)
    {q : Sql} (hq : rightHandSide.range o operands = .ok q) : q.Aligned d := by
  unfold rightHandSide.range at hq
  split at hq
  · rename_i first last
    rw [← Except.ok.inj hq]
    exact (((Aligned.plain (by decide)).append (h first (by simp))).append
      (.plain (by decide))).append (h last (by simp))
  · cases hq

theorem aligned_list {operands : List Sql} (h : ∀ q ∈ operands, q.Aligned d) {q : Sql}
    (hq : rightHandSide.list operands = .ok q) : q.Aligned d := by
  rw [← Except.ok.inj hq]
  refine ((Aligned.plain ?_).append (.joined ?_ h)).append (.plain ?_) <;> decide

theorem aligned_foldl {operands : List Sql} (h : ∀ q ∈ operands, q.Aligned d) {start : Sql}
    (hstart : start.Aligned d) :
    (operands.foldl (fun q x => q ++ .text " " ++ x) start).Aligned d := by
  induction operands generalizing start with
  | nil => exact hstart
  | cons x rest ih =>
    have hblank : Aligned d (.text " ") := .plain (by decide)
    exact ih (fun q hq => h q (by simp [hq])) ((hstart.append hblank).append (h x (by simp)))

theorem aligned_rightHandSide {o : Operator} {operands : List Sql}
    (h : ∀ q ∈ operands, q.Aligned d) {q : Sql} (hq : rightHandSide o operands = .ok q) :
    q.Aligned d := by
  unfold rightHandSide at hq
  split at hq
  · rw [← Except.ok.inj hq]
    exact .empty
  · rw [← Except.ok.inj hq]
    exact .empty
  · exact aligned_range h hq
  · exact aligned_range h hq
  · exact aligned_list h hq
  · exact aligned_list h hq
  · rw [← Except.ok.inj hq]
    exact aligned_foldl h .empty

theorem aligned_comparison {lhs : Sql} (hlhs : lhs.Aligned d) {o : Operator} {operands : List Sql}
    (h : ∀ q ∈ operands, q.Aligned d) {escape : Option Value} {q : Sql}
    (hq : p.comparison lhs o operands escape = .ok q) : q.Aligned d := by
  simp only [comparison, bind_eq_ok] at hq
  obtain ⟨token, htoken, rhs, hrhs, hq⟩ := hq
  have hcompared : ((if o.negatedOn p.dialect then Sql.text "NOT " else .empty) ++ lhs
      ++ .text (" " ++ token) ++ rhs).Aligned d := by
    have hword : Plain (" " ++ token) := Spelled.append (by decide) (Operator.plain_resolve htoken)
    refine ((Aligned.append ?_ hlhs).append (.plain hword)).append (aligned_rightHandSide h hrhs)
    split
    · exact .plain (by decide)
    · exact .empty
  cases escape with
  | none => exact pure_eq_ok.1 hq ▸ hcompared
  | some character =>
    simp only [bind_eq_ok, pure_eq_ok] at hq
    obtain ⟨escapeToken, hescape, rfl⟩ := hq
    have hword : Plain (" " ++ escapeToken ++ " ") :=
      .append (.append (by decide) (Operator.plain_resolve hescape)) (by decide)
    exact (hcompared.append (.plain hword)).append (.bound character)

theorem aligned_connected {c : Connective} {token : String} (htoken : Plain token)
    {written : List Sql} (h : ∀ q ∈ written, q.Aligned d) {q : Sql}
    (hq : connected c token written = .ok q) : q.Aligned d := by
  unfold connected at hq
  split at hq
  · split at hq
    · rw [← Except.ok.inj hq]
      exact .empty
    · cases hq
  · split at hq
    · rw [← Except.ok.inj hq]
      have hopen : Plain ("(" ++ token ++ " (") := .append (.append (by decide) htoken) (by decide)
      exact ((Aligned.plain hopen).append (.joined (by decide) h)).append (.plain (by decide))
    · rw [← Except.ok.inj hq]
      have hword : Plain (" " ++ token ++ " ") := .append (.append (by decide) htoken) (by decide)
      exact ((Aligned.plain (by decide)).append (.joined hword h)).append (.plain (by decide))

theorem plain_keyEquality {t : Table} (ht : t.Spelled isPlain) {r : Relation}
    (hr : r.Spelled isPlain) : Plain (t.keyEquality r) := by
  have h := ht.keyEquality nameClass_isPlain hr
  exact (h.1.append (by decide)).append h.2

theorem plain_liveness {t : Table} (ht : t.Spelled isPlain) {affected : String → Bool}
    {live : String} (h : t.liveness? affected = some live) : Plain live := by
  unfold Table.liveness? at h
  split at h
  · rename_i mark hmark
    split at h
    · cases h
    · rw [← Option.some.inj h]
      exact (ht.column nameClass_isPlain (ht.entity.model.deletedAt mark hmark)).append (by decide)
  · cases h

theorem aligned_liveness {t : Table} (ht : t.Spelled isPlain) (affected : String → Bool) :
    ∀ q ∈ (t.liveness? affected).toList.map Sql.text, q.Aligned d := by
  intro q hq
  obtain ⟨live, hlive, rfl⟩ := List.mem_map.1 hq
  exact .plain (plain_liveness ht (Option.mem_toList.1 hlive))

theorem aligned_subquery {parent : Table} (hparent : parent.Spelled isPlain) {r : Relation}
    (hr : r.Spelled isPlain) {written : List Sql} (h : ∀ q ∈ written, q.Aligned d)
    (affected : String → Bool) :
    (subquery (parent.reach r) parent r written
      ((parent.reach r).liveness? affected)).Aligned d := by
  have ht := hparent.reach nameClass_isPlain hr
  have hopen : Plain ("EXISTS (SELECT 1 FROM " ++ r.target.table ++ " " ++ (parent.reach r).aliasName
      ++ " WHERE ") :=
    ((Spelled.append (.append (.append (by decide) hr.target.model.table) (by decide))
      ht.aliasName).append (by decide))
  refine ((Aligned.plain hopen).append (.joined (by decide) ?_)).append (.plain (by decide))
  intro q hq
  rw [List.mem_append, List.mem_cons] at hq
  obtain (rfl | hq) | hq := hq
  · exact .plain (plain_keyEquality hparent hr)
  · exact h q hq
  · exact aligned_liveness ht affected q hq

theorem aligned_reference (hp : ∀ t ∈ p.tables, t.Spelled isPlain) {f : Field}
    (hf : (Requirement.bindable d).field f) {q : Sql} (hdialect : p.dialect = d)
    (hq : p.reference f = .ok q) : q.Aligned d := by
  simp only [reference, bind_eq_ok, hdialect] at hq
  obtain ⟨aliasName, halias, hq⟩ := hq
  have hname := spelled_aliasFor hp hf.1.model halias
  refine Field.aligned_applied hf.2 (Spelled.append (hname.append (by decide)) ?_) hq
  exact hf.1.columnName nameClass_isPlain

/-- Every bindable predicate is written as an aligned fragment. -/
theorem aligned_predicate (hp : ∀ t ∈ p.tables, t.Spelled isPlain) (hdialect : p.dialect = d)
    {c : Predicate} {t : Table} (ht : t.Spelled isPlain) (hc : c.Meets (.bindable d) t) {q : Sql}
    (hq : p.predicate t c = .ok q) : q.Aligned d := by
  have hcolumn {t : Table} (ht : t.Spelled isPlain) {f : Field}
      (hf : (Requirement.bindable d).field f) {q : Sql} (hq : p.column t f = .ok q) :
      q.Aligned d := by
    rw [column, hdialect] at hq
    exact Field.aligned_applied hf.2
      (ht.column nameClass_isPlain (hf.1.columnName nameClass_isPlain)) hq
  have hwritten {ps : List Predicate} {t : Table} (ht : t.Spelled isPlain)
      (hps : Predicate.AllMeet (.bindable d) t ps)
      (ih : ∀ c ∈ ps, ∀ {t : Table}, t.Spelled isPlain → c.Meets (.bindable d) t →
        ∀ {q : Sql}, p.predicate t c = .ok q → q.Aligned d) {written : List Sql}
      (hok : p.predicates t ps = .ok written) : ∀ q ∈ written, q.Aligned d := by
    obtain ⟨qs, hqs, rfl⟩ := predicates_eq_ok.1 hok
    intro q hq
    obtain ⟨c, hc, hcq⟩ := exists_mem_left_of_forall₂ hqs (List.mem_of_mem_filter hq)
    exact ih c hc ht (Predicate.allMeet_iff.1 hps c hc) hcq
  induction c using Predicate.induct generalizing t q with
  | compare f o values escape =>
    obtain ⟨lhs, hlhs, hq⟩ := predicate_compare_eq_ok.1 hq
    refine aligned_comparison (hcolumn ht hc hlhs) ?_ hq
    intro x hx
    obtain ⟨v, -, rfl⟩ := List.mem_map.1 hx
    exact .bound v
  | compareFields f o operands =>
    obtain ⟨lhs, hlhs, written, hw, hq⟩ := predicate_compareFields_eq_ok.1 hq
    refine aligned_comparison (hcolumn ht hc.1 hlhs) ?_ hq
    intro x hx
    obtain ⟨operand, hmem, hoperand⟩ := exists_mem_left_of_forall₂ hw hx
    cases operand with
    | value v =>
      rw [← Except.ok.inj hoperand]
      exact .bound v
    | field f => exact aligned_reference hp (hc.2 f hmem) hdialect hoperand
  | connect c ps ih =>
    obtain ⟨token, htoken, written, hw, hq⟩ := predicate_connect_eq_ok.1 hq
    exact aligned_connected (Operator.plain_resolve htoken) (hwritten ht hc ih hw) hq
  | related r ps ih =>
    obtain ⟨written, hw, rfl⟩ := predicate_related_eq_ok.1 hq
    exact aligned_subquery ht hc.1
      (hwritten (ht.reach nameClass_isPlain hc.1) hc.2 ih hw) _
  | raw sql values =>
    rw [predicate, hdialect] at hq
    rw [← pure_eq_ok.1 hq]
    exact .fragmentFor hc.1 hc.2

theorem aligned_conditionFilters (hp : ∀ t ∈ p.tables, t.Spelled isPlain) (hdialect : p.dialect = d)
    {c : Condition} {t : Table} (ht : t.Spelled isPlain) (hc : c.Meets (.bindable d) t)
    {written : List Sql} (hok : p.conditionFilters t c = .ok written) :
    ∀ q ∈ written, q.Aligned d := by
  induction c using Condition.induct generalizing t written with
  | filter c =>
    simp only [conditionFilters, bind_eq_ok, pure_eq_ok] at hok
    obtain ⟨q, hq, rfl⟩ := hok
    intro x hx
    split at hx
    · simp at hx
    · rw [List.mem_singleton.1 hx]
      exact aligned_predicate hp hdialect ht hc hq
  | join r load cs ih =>
    rw [conditionFilters, scopeFilters_eq_ok] at hok
    obtain ⟨parts, hparts, rfl⟩ := hok
    intro q hq
    obtain ⟨part, hpart, hq⟩ := List.mem_flatten.1 hq
    obtain ⟨c, hmem, hok⟩ := exists_mem_left_of_forall₂ hparts hpart
    exact ih c hmem (ht.reach nameClass_isPlain hc.1) (Condition.allMeet_iff.1 hc.2 c hmem) hok q hq
  | preload m fields =>
    rw [← pure_eq_ok.1 hok]
    simp
  | collection r nested ih =>
    rw [← pure_eq_ok.1 hok]
    simp

end Plan
end Joinery
