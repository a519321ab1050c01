import Joinery.Proofs.Reading.Tree
import Joinery.Proofs.Samples

/-! The filter of a statement, read back.
The parentheses of every connective keep a level of the text down to one connective, so that reading the
text with the precedence of SQL gives the tree of the conditions again. -/
namespace Joinery

open Reading

variable {d : Dialect} {backslash : Bool}

/-- Names without blanks, parentheses and quotes, and raw SQL that no connective divides. -/
def Requirement.undivided (d : Dialect) : Requirement where
  field f := f.Spelled isSolid
  relation r := r.Spelled isSolid
  raw t sql _ := ∃ xs, items d.backslashEscapes (inScope sql t.aliasName) = some xs ∧ Undivided xs

theorem Requirement.undivided_spells (d : Dialect) : (undivided d).Spells isSolid :=
  ⟨fun _ h => h, fun _ h => h⟩

/-- A fragment whose items no connective divides and which is a formula. -/
def Reads (backslash : Bool) (q : Sql) (f : Formula) : Prop :=
  ∃ xs, Written backslash q.toText xs ∧ Undivided xs ∧ operandOf xs = f

/-- What is written for a predicate: nothing where it has no formula, or else its formula. -/
def ReadsAs (backslash : Bool) (q : Sql) : Option Formula → Prop
  | none => q.isEmpty = true
  | some f => q.isEmpty = false ∧ Reads backslash q f

theorem exists_items {written : List Sql} {fs : List Formula}
    (h : List.Forall₂ (Reads backslash) written fs) :
    ∃ xss, List.Forall₂ (fun q xs => Written backslash q.toText xs) written xss ∧
      (∀ xs ∈ xss, Undivided xs) ∧ xss.map operandOf = fs := by
  induction h with
  | nil => exact ⟨[], .nil, by simp, rfl⟩
  | cons hq _ ih =>
    obtain ⟨xs, hxs, hundivided, hf⟩ := hq
    obtain ⟨xss, hxss, hall, hfs⟩ := ih
    refine ⟨xs :: xss, .cons hxs hxss, ?_, by rw [List.map_cons, hf, hfs]⟩
    simpa using ⟨hundivided, hall⟩

theorem written_joined (k : Keyword) {written : List Sql} {xss : List (List Item)}
    (h : List.Forall₂ (fun q xs => Written backslash q.toText xs) written xss) :
    Written backslash (Sql.joined (" " ++ String.ofList k.text ++ " ") written).toText
      ([k.item].intercalate xss) := by
  have hk : Written backslash (String.ofList k.text) [k.item] := by
    have hsolid : Spelled isSolid (String.ofList k.text) := by cases k <;> decide
    have hne : String.ofList k.text ≠ "" := by cases k <;> decide
    simpa [Keyword.item] using Written.word hsolid hne
  rw [Sql.toText_joined]
  induction h with
  | nil => exact .solid (by decide : Spelled isSolid "")
  | @cons q xs rest xss hq hrest ih =>
    cases hrest with
    | nil => simpa using hq
    | @cons q' ys rest xss hq' hrest =>
      rw [List.map_cons, String.intercalate_cons_of_ne_nil (by simp), List.intercalate_cons_cons]
      simpa [String.append_assoc] using (hq.blank hk).blank ih

theorem isEmpty_of_written {q : Sql} {xs : List Item} (h : Written backslash q.toText xs)
    (hne : xs ≠ []) : q.isEmpty = false :=
  Sql.isEmpty_of_toText_ne (h.ne_empty hne)

theorem reads_group {q : Sql} {xs : List Item} (h : Written backslash q.toText xs) :
    ReadsAs backslash (.text "(" ++ q ++ .text ")") (some (reading xs)) := by
  have hgroup : Written backslash (Sql.text "(" ++ q ++ Sql.text ")").toText [.group xs] := by
    simpa using h.group
  exact ⟨isEmpty_of_written hgroup (by simp), _, hgroup, undivided_group xs, operandOf_group xs⟩

namespace Plan

theorem connected_ne_nil {c : Connective} {token : String} {written : List Sql} {q : Sql}
    (hne : written ≠ []) (hok : connected c token written = .ok q) :
    q = match c with
      | .not => .text ("(" ++ token ++ " (") ++ Sql.joined (" " ++ Operator.and.token ++ " ") written
          ++ .text "))"
      | _ => .text "(" ++ Sql.joined (" " ++ token ++ " ") written ++ .text ")" := by
  unfold connected at hok
  rw [if_neg (by simpa using hne)] at hok
  cases c <;> exact (Except.ok.inj hok).symm

/-- A connective is written so that it is read again, over the formulas of what is written under it. -/
theorem reads_connected {c : Connective} {token : String} (htoken : token = c.operator.token)
    {written : List Sql} {fs : List Formula} (h : List.Forall₂ (Reads backslash) written fs) {q : Sql}
    (hok : connected c token written = .ok q) : ReadsAs backslash q (c.formula? fs) := by
  obtain ⟨xss, hxss, hundivided, rfl⟩ := exists_items h
  subst htoken
  have hall := hxss
  cases hxss with
  | nil => cases c <;> cases hok <;> rfl
  | @cons q₁ xs rest xss' hq hrest =>
    have hne : xs :: xss' ≠ [] := by simp
    rw [connected_ne_nil (by simp) hok]
    cases c with
    | and =>
      have hread := reads_group (written_joined .and hall)
      rwa [reading_conjunction hne hundivided] at hread
    | or =>
      have hread := reads_group (written_joined .or hall)
      rwa [reading_disjunction hne hundivided] at hread
    | xor =>
      have hread := reads_group (written_joined .xor hall)
      rwa [reading_exclusion hne hundivided] at hread
    | not =>
      have hnot : Written backslash "NOT" [Keyword.not.item] := .word (by decide) (by decide)
      have hgroup := (hnot.blank (written_joined .and hall).group).group
      have hread : reading (Keyword.not.item :: [.group ([Keyword.and.item].intercalate (xs :: xss'))]) =
          .not (.collect .all ((xs :: xss').map operandOf)) := by
        rw [reading_undivided (undivided_not (undivided_group _)), operandOf_not (by simp),
          operandOf_group, reading_conjunction hne hundivided]
      have hall : Written backslash (Sql.text ("(" ++ Connective.not.operator.token ++ " (")
          ++ Sql.joined (" " ++ Operator.and.token ++ " ") (q₁ :: rest) ++ Sql.text "))").toText _ :=
        hgroup.congr (by simp [Connective.operator, Operator.token, Keyword.text])
      exact ⟨isEmpty_of_written hall (by simp), _, hall, undivided_group _, hread⟩

theorem written_column {t : Table} (ht : t.Spelled isSolid) {name : String}
    (hname : Spelled isSolid name) :
    Written backslash (t.column name) [.word (t.column name).toList] := by
  refine .word (ht.column nameClass_isSolid hname) ?_
  intro hempty
  have hlength := congrArg (fun s => s.toList.length) hempty
  simp [Table.column] at hlength

theorem liveness_written {t : Table} (ht : t.Spelled isSolid) {affected : String → Bool}
    {live : String} (h : t.liveness? affected = some live) :
    ∃ xs, Written backslash live xs ∧ Undivided xs ∧ operandOf xs = .atom xs := by
  unfold Table.liveness? at h
  split at h
  · rename_i mark hmark
    split at h
    · cases h
    · have hcolumn : Written backslash (t.column mark) [.word (t.column mark).toList] :=
        written_column ht (ht.entity.model.deletedAt mark hmark)
      have hnull : Written backslash "IS NULL" [.word "IS".toList, .word "NULL".toList] :=
        items_eq_some_iff.1 rfl
      have hfree : (Item.word (t.column mark).toList).Free :=
        Item.free_word (by simp [Table.column])
      have hitems : ∀ x ∈ [Item.word (t.column mark).toList, .word "IS".toList, .word "NULL".toList],
          x.Free := by
        intro x hx
        obtain rfl | hx := List.mem_cons.1 hx
        · exact hfree
        · exact (show ∀ x ∈ [Item.word "IS".toList, .word "NULL".toList], x.Free by decide) x hx
      rw [← Option.some.inj h, show t.column mark ++ " IS NULL" = t.column mark ++ " " ++ "IS NULL" by
        rw [String.append_assoc]; rfl]
      exact ⟨_, hcolumn.blank hnull, (spans_free hitems).undivided, operandOf_atom (hfree .not)⟩
  · cases h

theorem keyEquality_written {parent : Table} (hparent : parent.Spelled isSolid) {r : Relation}
    (hr : r.Spelled isSolid) : ∃ xs, Written backslash (parent.keyEquality r) xs := by
  have hforeign : Written backslash ((parent.reach r).column r.foreignColumn)
      [.word ((parent.reach r).column r.foreignColumn).toList] :=
    written_column (hparent.reach nameClass_isSolid hr) hr.foreignColumn
  have hequals : Written backslash "=" [.word ['=']] := .word (by decide) (by decide)
  have hall := (hforeign.blank hequals).blank (written_column hparent hr.localColumn)
  exact ⟨_, hall.congr (by simp [Table.keyEquality])⟩

theorem guards_written {t : Table} (ht : t.Spelled isSolid) (affected : String → Bool) :
    ∃ xss, List.Forall₂ (fun q xs => Written backslash q.toText xs)
      ((t.liveness? affected).toList.map Sql.text) xss := by
  cases hlive : t.liveness? affected with
  | none => exact ⟨[], .nil⟩
  | some live =>
    obtain ⟨xs, hxs, -⟩ := liveness_written ht hlive
    exact ⟨[xs], .cons (by simpa using hxs) .nil⟩

theorem subquery_written {parent : Table} (hparent : parent.Spelled isSolid) {r : Relation}
    (hr : r.Spelled isSolid) {written : List Sql} {fs : List Formula}
    (h : List.Forall₂ (Reads backslash) written fs) (affected : String → Bool) :
    ∃ xs, Written backslash (subquery (parent.reach r) parent r written
        ((parent.reach r).liveness? affected)).toText xs ∧ xs ≠ [] ∧ Undivided xs ∧
      operandOf xs = .atom xs := by
  have ht := hparent.reach nameClass_isSolid hr
  obtain ⟨xs, hxs⟩ : ∃ xs, Written backslash (parent.keyEquality r) xs :=
    keyEquality_written hparent hr
  obtain ⟨xss, hxss, -, -⟩ := exists_items h
  obtain ⟨yss, hyss⟩ : ∃ yss, List.Forall₂ (fun q ys => Written backslash q.toText ys)
      (((parent.reach r).liveness? affected).toList.map Sql.text) yss := guards_written ht affected
  have hkeys : Written backslash (Sql.text (parent.keyEquality r)).toText xs := by simpa using hxs
  have hjoined := written_joined .and (.cons hkeys (List.rel_append hxss hyss))
  have hselect : Written backslash "SELECT 1 FROM"
      [.word "SELECT".toList, .word "1".toList, .word "FROM".toList] := items_eq_some_iff.1 rfl
  have hwhere : Written backslash "WHERE" [.word "WHERE".toList] := .word (by decide) (by decide)
  have hexists : Written backslash "EXISTS" [.word "EXISTS".toList] := .word (by decide) (by decide)
  have hinner := (((hselect.blank (.solid hr.target.model.table)).blank (.solid ht.aliasName)).blank
    hwhere).blank hjoined
  have hall := hexists.blank hinner.group
  have hfree : (Item.word "EXISTS".toList).Free := by decide
  refine ⟨_, hall.congr (by simp [subquery, Keyword.text]), by simp, (spans_free ?_).undivided,
    operandOf_atom (hfree .not)⟩
  intro x hx
  obtain rfl | hx := List.mem_cons.1 hx
  · exact hfree
  · rw [List.mem_singleton.1 hx]
    exact Item.free_group _

variable {p : Plan} {t : Table} {q : Sql}

theorem term_reference (hp : ∀ t ∈ p.tables, t.Spelled isSolid) {f : Field} (hf : f.Spelled isSolid)
    (hq : p.reference f = .ok q) : Term backslash q.toText := by
  simp only [reference, bind_eq_ok] at hq
  obtain ⟨aliasName, halias, hq⟩ := hq
  exact term_applied
    (term_column (spelled_aliasFor hp hf.model halias) (hf.columnName nameClass_isSolid)) hq

theorem itemsOf?_eq {c : Predicate} {xs : List Item} (hq : p.predicate t c = .ok q)
    (h : Written p.dialect.backslashEscapes q.toText xs) : p.itemsOf? t c = some xs := by
  rw [itemsOf?, hq]
  exact items_eq_some_iff.2 h

theorem readsAs_atom {c : Predicate} (hq : p.predicate t c = .ok q)
    (h : ∃ xs, Written p.dialect.backslashEscapes q.toText xs ∧ xs ≠ [] ∧ Undivided xs ∧
      operandOf xs = .atom xs) :
    ReadsAs p.dialect.backslashEscapes q ((p.itemsOf? t c).map .atom) := by
  obtain ⟨xs, hxs, hne, hundivided, hatom⟩ := h
  rw [itemsOf?_eq hq hxs]
  exact ⟨isEmpty_of_written hxs hne, xs, hxs, hundivided, hatom⟩

theorem readsAs_not {q' : Sql} {c : Predicate} (hq' : p.predicate t c = .ok q')
    (htext : q.toText = "NOT" ++ " " ++ q'.toText)
    (h : ∃ xs, Written p.dialect.backslashEscapes q'.toText xs ∧ xs ≠ [] ∧ Undivided xs ∧
      operandOf xs = .atom xs) :
    ReadsAs p.dialect.backslashEscapes q ((p.itemsOf? t c).map fun xs => .not (.atom xs)) := by
  obtain ⟨xs, hxs, hne, hundivided, hatom⟩ := h
  have hnot : Written p.dialect.backslashEscapes "NOT" [Keyword.not.item] :=
    .word (by decide) (by decide)
  have hall := hnot.blank hxs
  rw [← htext] at hall
  rw [itemsOf?_eq hq' hxs]
  refine ⟨isEmpty_of_written hall (by simp), _, hall, undivided_not hundivided, ?_⟩
  rw [List.singleton_append, operandOf_not hne, hatom]

/-- A comparison is read as an atom, or as a negated one where it is written with a `NOT`. -/
theorem readsAs_comparison {c c' : Predicate} {lhs : Sql} {o : Operator} {operands : List Sql}
    {escape : Option Value} (hlhs : Term p.dialect.backslashEscapes lhs.toText)
    (hoperands : ∀ x ∈ operands, Term p.dialect.backslashEscapes x.toText)
    (ho : o.isComparison = true) (hq : p.predicate t c = .ok q)
    (hcompared : p.comparison lhs o operands escape = .ok q)
    (hnullSafe : ∀ {q'}, p.comparison lhs .nullSafeEq operands escape = .ok q' →
      p.predicate t c' = .ok q') :
    ReadsAs p.dialect.backslashEscapes q
      (if o.negatedOn p.dialect then (p.itemsOf? t c').map fun xs => .not (.atom xs)
      else (p.itemsOf? t c).map .atom) := by
  split
  · rename_i hnegated
    obtain ⟨q', hq', htext⟩ := comparison_negated hnegated hcompared
    exact readsAs_not (hnullSafe hq') htext (comparison_written hlhs hoperands rfl rfl hq')
  · rename_i hpositive
    exact readsAs_atom hq
      (comparison_written hlhs hoperands ho (by simpa using hpositive) hcompared)

theorem isComparison_of_check {o : Operator} {count : Nat} (h : o.check count = .ok ()) :
    o.isComparison = true :=
  (Operator.check_eq_ok_iff.1 h).1

theorem term_ownColumn (ht : t.Spelled isSolid) {f : Field} (hf : f.Spelled isSolid)
    (hq : p.column t f = .ok q) : Term backslash q.toText :=
  term_applied (term_column ht.aliasName (hf.columnName nameClass_isSolid)) hq

theorem predicates_reads {ps : List Predicate}
    (h : ∀ c ∈ ps, ∀ {q : Sql}, p.predicate t c = .ok q →
      ReadsAs p.dialect.backslashEscapes q (p.formula? t c)) {written : List Sql}
    (hok : p.predicates t ps = .ok written) :
    List.Forall₂ (Reads p.dialect.backslashEscapes) written (p.formulas t ps) := by
  induction ps generalizing written with
  | nil =>
    rw [← pure_eq_ok.1 hok]
    exact .nil
  | cons c rest ih =>
    simp only [predicates, bind_eq_ok, pure_eq_ok] at hok
    obtain ⟨q, hq, others, hothers, rfl⟩ := hok
    have hrest := ih (fun c hc => h c (by simp [hc])) hothers
    have hread := h c (by simp) hq
    rw [formulas]
    cases hf : p.formula? t c with
    | none =>
      rw [hf] at hread
      rw [if_pos (show q.isEmpty = true from hread)]
      exact hrest
    | some f =>
      rw [hf] at hread
      rw [hread.1]
      exact .cons hread.2 hrest

/-- Every predicate is read as its formula. -/
theorem predicate_readsAs (hp : ∀ t ∈ p.tables, t.Spelled isSolid) {c : Predicate} {m : Model}
    (ht : t.Spelled isSolid) (htyped : c.Typed m) (hc : c.Meets (.undivided p.dialect) t)
    (hq : p.predicate t c = .ok q) :
    ReadsAs p.dialect.backslashEscapes q (p.formula? t c) := by
  induction c using Predicate.induct generalizing t q m with
  | compare f o values escape =>
    obtain ⟨lhs, hlhs, hcompared⟩ := predicate_compare_eq_ok.1 hq
    have hbound : ∀ x ∈ values.map Sql.bound, Term p.dialect.backslashEscapes x.toText := by
      intro x hx
      obtain ⟨v, -, rfl⟩ := List.mem_map.1 hx
      simpa using term_placeholder
    rw [formula?]
    exact readsAs_comparison (term_ownColumn ht hc hlhs) hbound (isComparison_of_check htyped.2.1) hq
      hcompared fun hq' => predicate_compare_eq_ok.2 ⟨lhs, hlhs, hq'⟩
  | compareFields f o operands =>
    obtain ⟨lhs, hlhs, written, hw, hcompared⟩ := predicate_compareFields_eq_ok.1 hq
    have hterms : ∀ x ∈ written, Term p.dialect.backslashEscapes x.toText := by
      intro x hx
      obtain ⟨operand, hmem, hoperand⟩ := exists_mem_left_of_forall₂ hw hx
      cases operand with
      | value v =>
        rw [← Except.ok.inj hoperand]
        simpa using term_placeholder
      | field g => exact term_reference hp (hc.2 g hmem) hoperand
    rw [formula?]
    exact readsAs_comparison (term_ownColumn ht hc.1 hlhs) hterms (isComparison_of_check htyped.2) hq
      hcompared fun hq' => predicate_compareFields_eq_ok.2 ⟨lhs, hlhs, written, hw, hq'⟩
  | connect c ps ih =>
    obtain ⟨token, htoken, written, hw, hq⟩ := predicate_connect_eq_ok.1 hq
    have htoken' : token = c.operator.token := by
      rw [(Operator.resolve_eq_ok htoken).2]
      cases c <;> cases p.dialect <;> rfl
    have hps := predicates_reads (fun c hmem => ih c hmem ht
      (Predicate.allTyped_iff.1 htyped.2 c hmem) (Predicate.allMeet_iff.1 hc c hmem)) hw
    exact reads_connected htoken' hps hq
  | related r ps ih =>
    obtain ⟨written, hw, rfl⟩ := predicate_related_eq_ok.1 hq
    have hps := predicates_reads (fun c hmem => ih c hmem (ht.reach nameClass_isSolid hc.1)
      (Predicate.allTyped_iff.1 htyped.2.2 c hmem) (Predicate.allMeet_iff.1 hc.2 c hmem)) hw
    exact readsAs_atom hq (subquery_written ht hc.1 hps _)
  | raw sql values =>
    rw [predicate] at hq
    rw [← pure_eq_ok.1 hq, formula?]
    split
    · rename_i hempty
      simp [ReadsAs, Sql.isEmpty, Sql.fragmentFor, Sql.split, hempty, Sql.splitFrom, Sql.flush]
    · rename_i hne
      obtain ⟨xs, hxs, hundivided⟩ := hc
      rw [readSql, hxs, Option.map_some, reading_undivided hundivided]
      refine ⟨Sql.isEmpty_of_toText_ne (by simpa using hne), xs, ?_, hundivided, rfl⟩
      simpa using items_eq_some_iff.1 hxs

theorem scopeFilters_reads {cs : List Condition}
    (h : ∀ c ∈ cs, ∀ {written : List Sql}, p.conditionFilters t c = .ok written →
      List.Forall₂ (Reads p.dialect.backslashEscapes) written (p.conditionFormulas t c))
    {written : List Sql} (hok : p.scopeFilters t cs = .ok written) :
    List.Forall₂ (Reads p.dialect.backslashEscapes) written (p.scopeFormulas t cs) := by
  induction cs generalizing written with
  | nil =>
    rw [← pure_eq_ok.1 hok]
    exact .nil
  | cons c rest ih =>
    simp only [scopeFilters, bind_eq_ok, pure_eq_ok] at hok
    obtain ⟨first, hfirst, others, hothers, rfl⟩ := hok
    exact List.rel_append (h c (by simp) hfirst) (ih (fun c hc => h c (by simp [hc])) hothers)

theorem conditionFilters_reads (hp : ∀ t ∈ p.tables, t.Spelled isSolid) {c : Condition} {m : Model}
    (ht : t.Spelled isSolid) (htyped : c.Typed m) (hc : c.Meets (.undivided p.dialect) t)
    {written : List Sql} (hok : p.conditionFilters t c = .ok written) :
    List.Forall₂ (Reads p.dialect.backslashEscapes) written (p.conditionFormulas t c) := by
  induction c using Condition.induct generalizing t m written with
  | filter c =>
    simp only [conditionFilters, bind_eq_ok, pure_eq_ok] at hok
    obtain ⟨q, hq, rfl⟩ := hok
    have hread := predicate_readsAs hp ht htyped hc hq
    rw [conditionFormulas]
    cases hf : p.formula? t c with
    | none =>
      rw [hf] at hread
      rw [if_pos (show q.isEmpty = true from hread)]
      exact .nil
    | some f =>
      rw [hf] at hread
      rw [hread.1]
      exact .cons hread.2 .nil
  | join r load cs ih =>
    rw [conditionFilters] at hok
    exact scopeFilters_reads (fun c hmem => ih c hmem (ht.reach nameClass_isSolid hc.1)
      (Condition.allTyped_iff.1 htyped.2 c hmem) (Condition.allMeet_iff.1 hc.2 c hmem)) hok
  | preload m fields =>
    rw [← pure_eq_ok.1 hok]
    exact .nil
  | collection r nested ih =>
    rw [← pure_eq_ok.1 hok]
    exact .nil

theorem guard_reads (hroot : p.root.Spelled isSolid) (cs : List Condition) :
    List.Forall₂ (Reads p.dialect.backslashEscapes)
      ((p.root.liveness? fun mark => cs.any (·.affects mark)).toList.map Sql.text)
      ((p.guardItems cs).map .atom) := by
  cases hlive : p.root.liveness? fun mark => cs.any (·.affects mark) with
  | none => simp [guardItems, hlive]
  | some live =>
    obtain ⟨xs, hxs, hundivided, hatom⟩ := liveness_written hroot hlive
    have hitems := items_eq_some_iff.2 hxs
    have hread : Reads p.dialect.backslashEscapes (.text live) (.atom xs) :=
      ⟨xs, by simpa using hxs, hundivided, hatom⟩
    simpa [guardItems, hlive, hitems] using hread

/-- The filter is read as the conjunction of the formulas of its conditions and of its guard. -/
theorem readSql_filter (hp : ∀ t ∈ p.tables, t.Spelled isSolid) (hroot : p.root.Spelled isSolid)
    {cs : List Condition} {m : Model} (htyped : Condition.AllTyped m cs)
    (hcs : Condition.AllMeet (.undivided p.dialect) p.root cs) (hq : p.filter cs = .ok q)
    (hne : q.isEmpty = false) :
    readSql p.dialect.backslashEscapes q.toText =
      some (.collect .all (p.scopeFormulas p.root cs ++ (p.guardItems cs).map .atom)) := by
  simp only [filter, bind_eq_ok, pure_eq_ok] at hq
  obtain ⟨written, hwritten, rfl⟩ := hq
  have hscope := scopeFilters_reads (fun c hc => conditionFilters_reads hp hroot
    (Condition.allTyped_iff.1 htyped c hc) (Condition.allMeet_iff.1 hcs c hc)) hwritten
  have hall : List.Forall₂ (Reads p.dialect.backslashEscapes) _ _ :=
    List.rel_append hscope (guard_reads hroot cs)
  obtain ⟨xss, hxss, hundivided, hfs⟩ := exists_items hall
  have hwrittenNe : written ++ (p.root.liveness? fun mark => cs.any (·.affects mark)).toList.map Sql.text
      ≠ [] := by
    intro hnil
    rw [hnil] at hne
    cases hne
  have hxssNe : xss ≠ [] := by
    rintro rfl
    exact hwrittenNe (List.forall₂_nil_right_iff.1 hxss)
  have hgroup := (written_joined .and hxss).group
  rw [if_neg (by simpa using hwrittenNe), readSql,
    items_eq_some_iff.2 (hgroup.congr (by simp [Keyword.text])), Option.map_some, reading_group,
    reading_conjunction hxssNe hundivided, hfs]

end Plan

namespace Condition

variable {root : Entity} {cs : List Condition} {q : Sql}

/-- What the filter of a statement is read as, with the precedence of SQL: the conjunction of the formulas
of the conditions, depth first, and of the guard against deleted rows of the root. Text and tree have the
same truth, whichever atoms are true. -/
theorem readSql_filterOf (hroot : root.Spelled isSolid)
    (hcs : AllMeet (.undivided d) (.root root) cs) (htyped : AllTyped root.toModel cs)
    (hq : filterOf d root cs = .ok q) (hne : q.isEmpty = false) :
    ∃ f, readSql d.backslashEscapes q.toText = some f ∧
      f = .collect .all ((Plan.ofConditions d root cs).scopeFormulas (.root root) cs ++
        ((Plan.ofConditions d root cs).guardItems cs).map .atom) ∧
      ∀ v, f.eval v = ((Plan.ofConditions d root cs).scopeTruths v (.root root) cs ++
        ((Plan.ofConditions d root cs).guardItems cs).map v).all id := by
  have hp := Plan.spelled_tables (d := d) nameClass_isSolid (Requirement.undivided_spells d) hroot hcs
  have hread := Plan.readSql_filter (m := root.toModel) hp (by simpa using Table.Spelled.root hroot)
    htyped (by simpa using hcs) hq hne
  rw [Plan.dialect_ofConditions, Plan.root_ofConditions] at hread
  refine ⟨_, hread, rfl, fun v => ?_⟩
  rw [Formula.eval_collect_all, List.map_append, Plan.scopeTruths_eq_map, List.map_map]
  rfl

def sellersFiltered : List Condition :=
  [.join Sample.employer false [.filter (Sample.companyName.ne (.text "x"))],
    .filter (.or
      [.and [(Sample.sellerName.apply .concat [.text "!"]).between (.text "a") (.text "b"),
        Sample.sellerName.isDistinct (.text "c")],
      .and [],
      .connect .not [.raw "\x7btable\x7d.id BETWEEN ? AND 'x or y'" [.int 3],
        .related Sample.employer [Sample.companyName.isNull]],
      .xor Sample.sellerName.isNull [.or [Sample.sellerName.isNotNull]]])]

theorem typed_sellersFiltered : AllTyped Sample.sellerModel sellersFiltered := by
  have hcompare (f : Field) (o : Operator) (values : List Value)
      (h : o.check values.length = .ok ()) : (f.compare o values).Typed f.model :=
    ⟨rfl, h, fun h => nomatch h⟩
  have hrange := hcompare (Sample.sellerName.apply .concat [.text "!"]) .between
    [.text "a", .text "b"] rfl
  have hdistinct := hcompare Sample.sellerName .isDistinct [.text "c"] rfl
  have hnull := hcompare Sample.sellerName .isNull [] rfl
  have hnotNull := hcompare Sample.sellerName .isNotNull [] rfl
  have hcompany := hcompare Sample.companyName .isNull [] rfl
  have hjoined := hcompare Sample.companyName .notEq [.text "x"] rfl
  have hrelated : (Predicate.related Sample.employer [Sample.companyName.isNull]).Typed
      Sample.sellerModel := ⟨rfl, by simp, hcompany, trivial⟩
  refine ⟨⟨rfl, hjoined, trivial⟩, ⟨nofun, ?_⟩, trivial⟩
  refine ⟨⟨nofun, hrange, hdistinct, trivial⟩, ⟨nofun, trivial⟩, ⟨by simp, trivial, hrelated, trivial⟩, ?_,
    trivial⟩
  exact ⟨by simp, hnull, ⟨nofun, hnotNull, trivial⟩, trivial⟩

theorem undivided_sellersFiltered :
    AllMeet (.undivided .mysql) (.root Sample.seller) sellersFiltered := by
  have hnames : ∀ s ∈ Sample.names, Spelled isSolid s := by decide
  have hemployer := Sample.spelled_employer hnames
  have hseller (calls : List FunctionCall) :=
    Sample.spelled_field (Sample.spelled_sellerModel hnames) "Name" calls
  have hcompany := Sample.spelled_field (Sample.spelled_companyModel hnames) "Name" []
  have hraw : (Requirement.undivided .mysql).raw (.root Sample.seller)
      "\x7btable\x7d.id BETWEEN ? AND 'x or y'" [.int 3] :=
    ⟨_, rfl, (by decide : Spans 0 0 _).undivided⟩
  refine ⟨⟨hemployer, hcompany, trivial⟩, ?_, trivial⟩
  refine ⟨⟨hseller _, hseller [], trivial⟩, trivial, ⟨hraw, ⟨hemployer, hcompany, trivial⟩, trivial⟩, ?_,
    trivial⟩
  exact ⟨hseller [], ⟨hseller [], trivial⟩, trivial⟩

/-- The filter of the sellers is read back, with every truth of its atoms. -/
theorem readSql_sellersFiltered : ∃ q f, filterOf .mysql Sample.seller sellersFiltered = .ok q ∧
    q.isEmpty = false ∧ readSql true q.toText = some f ∧
      ∀ v, f.eval v =
        ((Plan.ofConditions .mysql Sample.seller sellersFiltered).scopeTruths v (.root Sample.seller)
          sellersFiltered ++ ((Plan.ofConditions .mysql Sample.seller sellersFiltered).guardItems
            sellersFiltered).map v).all id := by
  obtain ⟨q, hq, hne⟩ : ∃ q, filterOf .mysql Sample.seller sellersFiltered = .ok q ∧
      q.isEmpty = false := ⟨_, rfl, rfl⟩
  have hnames : ∀ s ∈ Sample.names, Spelled isSolid s := by decide
  have hroot := Sample.spelled_seller hnames
  obtain ⟨f, hf, -, hv⟩ :=
    readSql_filterOf hroot undivided_sellersFiltered typed_sellersFiltered hq hne
  exact ⟨q, f, hq, hne, hf, hv⟩

def companiesFiltered : List Condition :=
  [.filter (Sample.companyName.eq (.text "a"))]

/-- Whether an atom compares for equality. -/
def isEquality : List Item → Bool
  | [_, .word ['='], _] => true
  | _ => false

/-- The tree alone is not what the filter is read as: rows of a model with a deletion mark are guarded. -/
theorem readSql_filterOf_guarded : ¬ ∀ (d : Dialect) (root : Entity) (cs : List Condition) (q : Sql),
    root.Spelled isSolid → AllMeet (.undivided d) (.root root) cs → AllTyped root.toModel cs →
    filterOf d root cs = .ok q → q.isEmpty = false →
      readSql d.backslashEscapes q.toText =
        some (.collect .all ((Plan.ofConditions d root cs).scopeFormulas (.root root) cs)) := by
  intro h
  have hnames : ∀ s ∈ Sample.names, Spelled isSolid s := by decide
  have hname := Sample.spelled_field (Sample.spelled_companyModel hnames) "Name" []
  obtain ⟨q, hq, hne, htext⟩ : ∃ q, filterOf .postgres Sample.company companiesFiltered = .ok q ∧
      q.isEmpty = false ∧ q.toText = "(companies.name = ? AND companies.deleted_at IS NULL)" :=
    ⟨_, rfl, rfl, rfl⟩
  have hread := h .postgres Sample.company companiesFiltered q (Sample.spelled_company hnames)
    ⟨hname, trivial⟩ ⟨⟨rfl, rfl, nofun⟩, trivial⟩ hq hne
  have hguarded : (readSql false "(companies.name = ? AND companies.deleted_at IS NULL)").map
      (Formula.eval isEquality) = some false := by decide +kernel
  have htree : (Formula.collect .all ((Plan.ofConditions .postgres Sample.company
      companiesFiltered).scopeFormulas (.root Sample.company) companiesFiltered)).eval isEquality =
        true := by decide +kernel
  rw [htext] at hread
  rw [show Dialect.postgres.backslashEscapes = false from rfl] at hread
  rw [hread, Option.map_some, htree] at hguarded
  cases hguarded

end Condition
end Joinery
