import Joinery.Proofs.Reading.Formula
import Joinery.Proofs.Fragment
import Joinery.Filter

/-! Comparisons as they are read: atoms, whatever functions stand around their columns.
A column holds a dot and the operators in front of it are no letters, so that no word of the left-hand
side is a keyword. -/
namespace Joinery
namespace Reading

variable {d : Dialect} {backslash : Bool}

theorem nameClass_isSolid : NameClass isSolid where
  name := by
    intro c hc
    have hne (x : Char) (hx : Text.isNameChar x = false) : c ≠ x := Text.ne_of_isNameChar hc hx
    simp [isSolid, Scan.isQuote, Char.isWhitespace, hne '\'' (by decide), hne '"' (by decide),
      hne '\x60' (by decide), hne '(' (by decide), hne ')' (by decide), hne ' ' (by decide),
      hne '\t' (by decide), hne '\r' (by decide), hne '\n' (by decide)]
  dot := by decide

theorem Item.free_word {cs : List Char} (h : cs.any (!·.isAlpha) = true) :
    (Item.word cs).Free := by
  intro k
  obtain ⟨c, hc, hletter⟩ := List.any_eq_true.1 h
  have hletters : k.text.all Char.isAlpha = true := by cases k <;> rfl
  have hupper : c.toUpper = c := by
    refine dif_neg fun hrange => ?_
    have hlower : c.isLower = true := by
      change (decide _ && decide _) = true
      simpa using hrange
    have halpha : c.isAlpha = true := by
      change (c.isUpper || c.isLower) = true
      rw [hlower, Bool.or_true]
    rw [halpha] at hletter
    cases hletter
  rw [Item.is, beq_eq_false_iff_ne]
  intro hk
  have hmem : c.toUpper ∈ k.text := hk ▸ List.mem_map_of_mem hc
  rw [hupper] at hmem
  rw [List.all_eq_true.1 hletters c hmem] at hletter
  cases hletter

/-- Whether a text may stand right before a column: it is no letter of a longer word. -/
def Leads (pre : String) : Prop :=
  Spelled isSolid pre ∧ (pre = "" ∨ pre.toList.any (!·.isAlpha) = true)

/-- A text that is written as items without keywords, right after an operator too. -/
def Term (backslash : Bool) (s : String) : Prop :=
  ∀ pre, Leads pre → ∃ xs, Written backslash (pre ++ s) xs ∧ xs ≠ [] ∧ ∀ x ∈ xs, x.Free

theorem leads_empty : Leads "" :=
  ⟨by decide, .inl rfl⟩

theorem Term.written {s : String} (h : Term backslash s) :
    ∃ xs, Written backslash s xs ∧ xs ≠ [] ∧ ∀ x ∈ xs, x.Free := by
  simpa using h "" leads_empty

theorem term_word {s : String} (hs : Spelled isSolid s) (h : s.toList.any (!·.isAlpha) = true) :
    Term backslash s := by
  intro pre hpre
  have hany : (pre ++ s).toList.any (!·.isAlpha) = true := by
    rw [String.toList_append, List.any_append, h, Bool.or_true]
  have hne : pre ++ s ≠ "" := by
    intro hempty
    rw [hempty] at hany
    cases hany
  refine ⟨_, .word (hpre.1.append hs) hne, by simp, ?_⟩
  simpa using Item.free_word hany

theorem term_column {aliasName column : String} (ha : Spelled isSolid aliasName)
    (hc : Spelled isSolid column) : Term backslash (aliasName ++ "." ++ column) := by
  refine term_word ((ha.append (by decide)).append hc) ?_
  rw [String.toList_append, String.toList_append, List.any_append, List.any_append,
    show ".".toList.any (!·.isAlpha) = true by decide, Bool.or_true, Bool.true_or]

theorem term_placeholder : Term backslash "?" :=
  term_word (by decide) (by decide)

theorem ended_reverse {s : String} (hne : s ≠ "") : ended s.toList.reverse = [.word s.toList] := by
  rw [ended_of_ne_nil (by simpa using hne), List.reverse_reverse]

theorem written_marks {s : String} {xs : List Item} (h : Written backslash s xs) (count : Nat) :
    ∃ ys, Written backslash (s ++ String.join (List.replicate count ", ?")) ys := by
  induction count generalizing s xs with
  | zero => exact ⟨xs, by simpa using h⟩
  | succ n ih =>
    obtain ⟨ys, hys⟩ := h.glue (by decide : Spelled isSolid ",")
    have hmark : Written backslash "?" [.word ['?']] := .word (by decide) (by decide)
    obtain ⟨zs, hzs⟩ := ih (hys.blank hmark)
    refine ⟨zs, ?_⟩
    rw [List.replicate_succ, String.join_cons]
    simpa [String.append_assoc] using hzs

/-- Whether a function is written with words that keep keywords out of its term. -/
def Clear : Strategy → Prop
  | .infixOp op => Spelled isSolid op
  | .call name => Spelled isSolid name ∧ name ≠ "" ∧ (Item.word name.toList).Free
  | .prefixOp op => Spelled isSolid op ∧ op.toList.any (!·.isAlpha) = true

instance : (s : Strategy) → Decidable (Clear s)
  | .infixOp op => inferInstanceAs (Decidable (Spelled isSolid op))
  | .call name =>
    inferInstanceAs (Decidable (Spelled isSolid name ∧ name ≠ "" ∧ (Item.word name.toList).Free))
  | .prefixOp op => inferInstanceAs (Decidable (Spelled isSolid op ∧ op.toList.any (!·.isAlpha) = true))

theorem clear_strategy {f : Function} {s : Strategy} (h : f.strategy? d = some s) : Clear s := by
  have all : ∀ s ∈ f.strategy? d, Clear s := by
    cases f <;> cases d <;> decide
  exact all s h

/-- A function around a term is a term. -/
theorem term_apply {s : Strategy} (hs : Clear s) {inner : String} (h : Term backslash inner)
    (count : Nat) : Term backslash (s.apply inner count) := by
  have hfree {pre : String} (hpre : Leads pre) : ∀ x ∈ ended pre.toList.reverse, x.Free := by
    intro x hx
    obtain rfl | hany := hpre.2
    · cases hx
    · rw [ended_reverse (by rintro rfl; cases hany)] at hx
      rw [List.mem_singleton.1 hx]
      exact Item.free_word hany
  intro pre hpre
  cases s with
  | infixOp op =>
    obtain ⟨xs, hxs, -, -⟩ := h.written
    have hmark : Written backslash "?" [.word ['?']] := .word (by decide) (by decide)
    have hinner := (hxs.blank (Written.solid hs)).blank hmark
    have hcall := Written.call hpre.1 hinner
    refine ⟨_, by simpa [Strategy.apply, String.append_assoc] using hcall, by simp, ?_⟩
    intro x hx
    obtain hx | hx := List.mem_append.1 hx
    · exact hfree hpre x hx
    · rw [List.mem_singleton.1 hx]
      exact Item.free_group _
  | call name =>
    obtain ⟨xs, hxs, -, -⟩ := h.written
    obtain ⟨ys, hys⟩ := written_marks hxs count
    have hname : pre ++ name ≠ "" := by
      intro hempty
      exact hs.2.1 (String.append_eq_empty_iff.1 hempty).2
    have hcall := Written.call (hpre.1.append hs.1) hys
    rw [ended_reverse hname] at hcall
    have hword : (Item.word (pre ++ name).toList).Free := by
      obtain rfl | hany := hpre.2
      · simpa using hs.2.2
      · refine Item.free_word ?_
        rw [String.toList_append, List.any_append, hany, Bool.true_or]
    refine ⟨[.word (pre ++ name).toList, .group ys],
      by simpa [Strategy.apply, String.append_assoc] using hcall, by simp, ?_⟩
    intro x hx
    obtain rfl | hx := List.mem_cons.1 hx
    · exact hword
    · rw [List.mem_singleton.1 hx]
      exact Item.free_group ys
  | prefixOp op =>
    have hleads : Leads (pre ++ op) := by
      refine ⟨hpre.1.append hs.1, .inr ?_⟩
      rw [String.toList_append, List.any_append, hs.2, Bool.or_true]
    simpa [Strategy.apply, String.append_assoc] using h (pre ++ op) hleads

theorem term_applyAll {calls : List FunctionCall} {text text' : String} {values values' : List Value}
    (h : Term backslash text)
    (hok : FunctionCall.applyAll d calls text values = .ok (text', values')) :
    Term backslash text' := by
  induction calls generalizing text values with
  | nil =>
    simp only [FunctionCall.applyAll, Except.ok.injEq, Prod.mk.injEq] at hok
    rwa [← hok.1]
  | cons call rest ih =>
    simp only [FunctionCall.applyAll, bind_eq_ok] at hok
    obtain ⟨s, hs, hok⟩ := hok
    exact ih (term_apply (clear_strategy (Function.resolve_eq_ok hs)) h _) hok

theorem term_applied {f : Field} {column : String} (h : Term backslash column) {q : Sql}
    (hq : f.applied d column = .ok q) : Term backslash q.toText := by
  simp only [Field.applied, bind_eq_ok, pure_eq_ok] at hq
  obtain ⟨⟨text, values⟩, happly, rfl⟩ := hq
  rw [Sql.toText_fragment]
  exact term_applyAll h happly

def opened : Operator → Nat
  | .between => 1
  | .notBetween => 1
  | _ => 0

theorem exists_token {o : Operator} (ho : o.isComparison = true) (d : Dialect) :
    ∃ xs, Follows backslash (" " ++ o.tokenOn d) xs ∧ xs ≠ [] ∧ Spans 0 (opened o) xs := by
  have htoken (o : Operator) (ho : o.isComparison = true) :
      ∃ xs ∈ items backslash o.token, xs.isEmpty = false ∧ Spans 0 (opened o) xs := by
    cases o <;> cases backslash <;> first | exact ⟨_, rfl, by decide⟩ | cases ho
  have hclose {o o' : Operator} (hopened : opened o = opened o')
      (h : ∃ xs ∈ items backslash o.token, xs.isEmpty = false ∧ Spans 0 (opened o) xs) :
      ∃ xs, Follows backslash (" " ++ o.token) xs ∧ xs ≠ [] ∧ Spans 0 (opened o') xs := by
    obtain ⟨xs, hxs, hne, hspans⟩ := h
    refine ⟨xs, .blank (items_eq_some_iff.1 hxs), ?_, hopened ▸ hspans⟩
    rintro rfl
    cases hne
  unfold Operator.tokenOn
  split
  · exact hclose rfl (htoken .nullSafeEq rfl)
  · exact hclose rfl (htoken .nullSafeEq rfl)
  · exact hclose rfl (htoken o ho)

theorem follows_range {first last : String} (hfirst : Term backslash first)
    (hlast : Term backslash last) :
    ∃ xs, Follows backslash (" " ++ first ++ " AND " ++ last) xs ∧ Spans 1 0 xs := by
  obtain ⟨xs, hxs, -, hx⟩ := hfirst.written
  obtain ⟨ys, hys, -, hy⟩ := hlast.written
  have hand : Follows backslash (" " ++ "AND") [Keyword.and.item] :=
    .blank (.word (by decide) (by decide))
  have hall := ((Follows.blank hxs).append hand).append (.blank hys)
  refine ⟨xs ++ [Keyword.and.item] ++ ys, ?_, ?_⟩
  · rw [← String.append_assoc, ← String.append_assoc] at hall
    simpa [String.append_assoc] using hall
  · exact ((spans_free hx).append (show Spans 1 0 [Keyword.and.item] by decide)).append
      (spans_free hy)

theorem exists_list {texts : List String} (h : ∀ s ∈ texts, Term backslash s) :
    ∃ xs, Written backslash (String.intercalate ", " texts) xs := by
  induction texts with
  | nil => exact ⟨[], .solid (by decide : Spelled isSolid "")⟩
  | cons s rest ih =>
    obtain ⟨xs, hxs, -, -⟩ := (h s (by simp)).written
    cases rest with
    | nil => exact ⟨xs, by simpa using hxs⟩
    | cons t rest =>
      obtain ⟨ys, hys⟩ := ih fun u hu => h u (by simp [hu])
      obtain ⟨zs, hzs⟩ := hxs.glue (by decide : Spelled isSolid ",")
      refine ⟨zs ++ ys, ?_⟩
      rw [String.intercalate_cons_of_ne_nil (by simp)]
      simpa [String.append_assoc] using hzs.blank hys

theorem follows_foldl {operands : List Sql} (h : ∀ q ∈ operands, Term backslash q.toText)
    {start : Sql} {xs : List Item} (hstart : Follows backslash start.toText xs)
    (hfree : ∀ x ∈ xs, x.Free) :
    ∃ ys, Follows backslash (operands.foldl (fun q x => q ++ .text " " ++ x) start).toText ys ∧
      ∀ y ∈ ys, y.Free := by
  induction operands generalizing start xs with
  | nil => exact ⟨xs, hstart, hfree⟩
  | cons q rest ih =>
    obtain ⟨ys, hys, -, hy⟩ := (h q (by simp)).written
    have hnext : Follows backslash (start ++ .text " " ++ q).toText (xs ++ ys) := by
      simpa [String.append_assoc] using hstart.append (.blank hys)
    refine ih (fun x hx => h x (by simp [hx])) hnext fun x hx => ?_
    exact (List.mem_append.1 hx).elim (hfree x) (hy x)

/-- The right-hand side of a comparison closes the range that its operator opens. -/
theorem exists_rightHandSide {o : Operator} {operands : List Sql}
    (h : ∀ q ∈ operands, Term backslash q.toText) {q : Sql}
    (hq : Plan.rightHandSide o operands = .ok q) :
    ∃ xs, Follows backslash q.toText xs ∧ Spans (opened o) 0 xs := by
  have hrange {o : Operator} {operands : List Sql} (h : ∀ q ∈ operands, Term backslash q.toText)
      {q : Sql} (hq : Plan.rightHandSide.range o operands = .ok q) :
      ∃ xs, Follows backslash q.toText xs ∧ Spans 1 0 xs := by
    unfold Plan.rightHandSide.range at hq
    split at hq
    · rename_i first last
      rw [← Except.ok.inj hq]
      simpa using follows_range (h first (by simp)) (h last (by simp))
    · cases hq
  have hlist {q : Sql} (hq : Plan.rightHandSide.list operands = .ok q) :
      ∃ xs, Follows backslash q.toText xs ∧ Spans 0 0 xs := by
    obtain ⟨xs, hxs⟩ := exists_list (List.forall_mem_map.2 h)
    refine ⟨[.group xs], ?_, spans_free (by simpa using Item.free_group xs)⟩
    rw [← Except.ok.inj hq, Sql.toText_append, Sql.toText_append, Sql.toText_joined, Sql.toText_text,
      Sql.toText_text, show " (" = " " ++ "(" from rfl]
    have hblank := Follows.blank hxs.group
    rw [← String.append_assoc, ← String.append_assoc] at hblank
    exact hblank
  unfold Plan.rightHandSide at hq
  split at hq
  · rw [← Except.ok.inj hq]
    exact ⟨[], .empty, by decide⟩
  · rw [← Except.ok.inj hq]
    exact ⟨[], .empty, by decide⟩
  · exact hrange h hq
  · exact hrange h hq
  · exact hlist hq
  · exact hlist hq
  · rename_i hnull hnotNull hbetween hnotBetween hin hnotIn
    have hopened : opened o = 0 := by
      unfold opened
      split
      · exact (hbetween rfl).elim
      · exact (hnotBetween rfl).elim
      · rfl
    have hstart : Follows backslash Sql.empty.toText [] := .empty
    obtain ⟨xs, hxs, hx⟩ := follows_foldl h hstart (by simp)
    rw [← Except.ok.inj hq, hopened]
    exact ⟨xs, hxs, spans_free hx⟩

theorem follows_escape : Follows backslash (" ESCAPE " ++ "?")
    [.word "ESCAPE".toList, .word "?".toList] := by
  have hword : Follows backslash (" " ++ "ESCAPE") [.word "ESCAPE".toList] :=
    .blank (.word (by decide) (by decide))
  have hmark : Follows backslash (" " ++ "?") [.word "?".toList] :=
    .blank (.word (by decide) (by decide))
  rw [show " ESCAPE " ++ "?" = " " ++ "ESCAPE" ++ (" " ++ "?") by decide]
  exact hword.append hmark

variable {p : Plan} {lhs : Sql} {o : Operator} {operands : List Sql} {escape : Option Value} {q : Sql}

/-- A comparison that is not negated is an atom. -/
theorem comparison_written (hlhs : Term backslash lhs.toText)
    (h : ∀ x ∈ operands, Term backslash x.toText) (ho : o.isComparison = true)
    (hpositive : o.negatedOn p.dialect = false) (hq : p.comparison lhs o operands escape = .ok q) :
    ∃ xs, Written backslash q.toText xs ∧ xs ≠ [] ∧ Undivided xs ∧ operandOf xs = .atom xs := by
  simp only [Plan.comparison, bind_eq_ok, hpositive] at hq
  obtain ⟨token, htoken, rhs, hrhs, hq⟩ := hq
  obtain ⟨xs, hxs, hne, hx⟩ := hlhs.written
  obtain ⟨ys, hys, hyne, hy⟩ : ∃ ys, Follows backslash (" " ++ o.tokenOn p.dialect) ys ∧ ys ≠ [] ∧
      Spans 0 (opened o) ys := exists_token ho p.dialect
  obtain ⟨zs, hzs, hz⟩ := exists_rightHandSide h hrhs
  rw [← (Operator.resolve_eq_ok htoken).2] at hys
  have hcompared : Written backslash (lhs.toText ++ (" " ++ token) ++ rhs.toText) (xs ++ ys ++ zs) :=
    hzs _ _ (hys _ _ hxs)
  have hspans : Spans 0 0 (xs ++ ys ++ zs) := ((spans_free hx).append hy).append hz
  have hatom (us : List Item) : operandOf (xs ++ ys ++ us) = .atom (xs ++ ys ++ us) := by
    obtain ⟨x, xs, rfl⟩ := List.exists_cons_of_ne_nil hne
    obtain ⟨y, ys, rfl⟩ := List.exists_cons_of_ne_nil hyne
    have hfirst := hx x (by simp) .not
    cases xs <;> exact operandOf_atom hfirst
  cases escape with
  | none =>
    rw [← pure_eq_ok.1 hq]
    exact ⟨_, by simpa [String.append_assoc] using hcompared, by simp [hne], hspans.undivided, hatom zs⟩
  | some character =>
    simp only [bind_eq_ok, pure_eq_ok] at hq
    obtain ⟨escapeToken, hescape, rfl⟩ := hq
    obtain rfl : escapeToken = "ESCAPE" := (Operator.resolve_eq_ok hescape).2
    have hall := follows_escape _ _ hcompared
    have hend : Spans 0 0 [.word "ESCAPE".toList, .word "?".toList] := spans_free (by decide)
    have hatom' := hatom (zs ++ [.word "ESCAPE".toList, .word "?".toList])
    rw [← List.append_assoc] at hatom'
    exact ⟨_, by simpa [String.append_assoc] using hall, by simp [hne],
      (hspans.append hend).undivided, hatom'⟩

theorem comparison_negated (hnegated : o.negatedOn p.dialect = true)
    (hq : p.comparison lhs o operands escape = .ok q) :
    ∃ q', p.comparison lhs .nullSafeEq operands escape = .ok q' ∧
      q.toText = "NOT" ++ " " ++ q'.toText := by
  simp only [Operator.negatedOn, Bool.and_eq_true, beq_iff_eq] at hnegated
  obtain ⟨rfl, hmysql⟩ := hnegated
  have hnullSafe : Operator.nullSafeEq.negatedOn .mysql = false := rfl
  have hdistinct : Operator.isDistinct.negatedOn .mysql = true := rfl
  simp only [Plan.comparison, bind_eq_ok, hmysql, hnullSafe, hdistinct] at hq ⊢
  obtain ⟨token, htoken, rhs, hrhs, hq⟩ := hq
  obtain rfl : token = "<=>" := (Operator.resolve_eq_ok htoken).2
  cases escape with
  | none =>
    rw [← pure_eq_ok.1 hq]
    exact ⟨_, ⟨"<=>", rfl, rhs, hrhs, pure_eq_ok.2 rfl⟩, by simp [String.append_assoc]⟩
  | some character =>
    simp only [bind_eq_ok, pure_eq_ok] at hq ⊢
    obtain ⟨escapeToken, hescape, rfl⟩ := hq
    exact ⟨_, ⟨"<=>", rfl, rhs, hrhs, escapeToken, hescape, rfl⟩, by simp [String.append_assoc]⟩

end Reading
end Joinery
