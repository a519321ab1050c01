import Joinery.Proofs.Placeholder.Literals

/-! Fragments as they are composed.
However a fragment is put together, its parts are the shortest ones with its characters and placeholders: they
can be computed from those, so that two fragments that read alike have the same parts. Texts, values and numbers
of placeholders are put together as the fragments are. -/
namespace Joinery
namespace Sql

/-- The fragments that come about by appending to empty ones. -/
inductive Built : Sql → Prop where
  | empty : Built .empty
  | text (s : String) : Built (.text s)
  | push {q : Sql} (hq : Built q) (s : String) : Built (q.push s)
  | bind {q : Sql} (hq : Built q) (v : Value) : Built (q.bind v)
  | boundList {q : Sql} (hq : Built q) (values : List Value) : Built (q ++ .boundList values)
  | fragment {q : Sql} (hq : Built q) (s : String) (values : List Value) :
      Built (q ++ .fragment s values)
  | fragmentFor {q : Sql} (hq : Built q) (d : Dialect) (s : String) (values : List Value) :
      Built (q ++ .fragmentFor d s values)
  | append {q r : Sql} (hq : Built q) (hr : Built r) : Built (q ++ r)
  | joined {q : Sql} (hq : Built q) (separator : String) {qs : List Sql} (hqs : ∀ r ∈ qs, Built r) :
      Built (q ++ .joined separator qs)

/-! What appending keeps. -/

theorem merged_iff {parts : List Part} :
    Merged parts ↔ .raw "" ∉ parts ∧ parts.IsChain fun p q => p = .param ∨ q = .param := by
  induction parts with
  | nil => simp [Merged]
  | cons part rest ih =>
    cases part with
    | param => cases rest <;> simp [Merged, ih]
    | raw s =>
      have hempty : .raw "" = Part.raw s ↔ s = "" := by
        rw [Part.raw.injEq, eq_comm]
      cases rest with
      | nil => simp [Merged, startsRaw, hempty]
      | cons next rest =>
        cases next with
        | raw t => simp [Merged, startsRaw]
        | param =>
          rw [Merged, ih]
          simp [startsRaw, hempty, and_assoc]

theorem merged_text (s : String) : Merged (text s).parts := by
  by_cases hs : s = "" <;> simp [text, hs, Merged, startsRaw]

theorem merged_joined {separator : String} {qs : List Sql} (h : ∀ q ∈ qs, Merged q.parts) :
    Merged (joined separator qs).parts := by
  fun_induction joined separator qs with
  | case1 => trivial
  | case2 q => exact h q List.mem_cons_self
  | case3 q rest hne ih =>
    have hrest := ih fun r hr => h r (List.mem_cons_of_mem _ hr)
    exact merged_appendParts (merged_appendParts (h q List.mem_cons_self) (merged_text separator)) hrest

theorem merged_boundList (values : List Value) : Merged (boundList values).parts := by
  have hvalues : Merged (joined ", " (values.map bound)).parts := by
    refine merged_joined fun q hq => ?_
    obtain ⟨v, -, rfl⟩ := List.mem_map.1 hq
    trivial
  exact merged_appendParts (merged_appendParts (merged_text "(") hvalues) (merged_text ")")

theorem Built.merged {q : Sql} (h : Built q) : Merged q.parts := by
  induction h with
  | empty => trivial
  | text s => exact merged_text s
  | push _ s ih => exact merged_appendParts ih (merged_text s)
  | bind _ v ih => exact merged_appendParts ih trivial
  | boundList _ values ih => exact merged_appendParts ih (merged_boundList values)
  | fragment _ s values ih => exact merged_appendParts ih (merged_splitFrom _ _ _ _)
  | fragmentFor _ d s values ih => exact merged_appendParts ih (merged_splitFrom _ _ _ _)
  | append _ _ ihq ihr => exact merged_appendParts ihq ihr
  | joined _ separator _ ihq ihqs => exact merged_appendParts ihq (merged_joined ihqs)

/-! The parts of a fragment, from its characters and placeholders. -/

/-- The parts with given characters; those that are marked are placeholders. -/
def partsOf : List (Char × Bool) → List Part
  | [] => []
  | (_, true) :: rest => .param :: partsOf rest
  | (c, false) :: rest => appendParts [.raw (String.singleton c)] (partsOf rest)

theorem raw_appendParts {s : String} {parts : List Part} (h : startsRaw parts = false) :
    appendParts [.raw s] parts = .raw s :: parts := by
  cases parts with
  | nil => rfl
  | cons part rest =>
    cases part with
    | raw t => cases h
    | param => simp [appendParts]

theorem partsOf_append {cs : List Char} (hcs : cs ≠ []) (ms : List (Char × Bool)) :
    partsOf (cs.map (fun c => (c, false)) ++ ms) =
      appendParts [.raw (String.ofList cs)] (partsOf ms) := by
  induction cs with
  | nil => exact absurd rfl hcs
  | cons c rest ih =>
    cases rest with
    | nil => simp [partsOf]
    | cons d rest =>
      rw [List.map_cons, List.cons_append, partsOf, ih (by simp), ← appendParts_assoc, String.ofList_cons]
      simp [appendParts]

theorem partsOf_marks {parts : List Part} (h : Merged parts) :
    partsOf (parts.flatMap Part.marks) = parts := by
  induction parts with
  | nil => rfl
  | cons part rest ih =>
    cases part with
    | param => simpa [Part.marks, partsOf] using ih h
    | raw s =>
      have hs : s.toList ≠ [] := by simpa using h.1
      rw [List.flatMap_cons, Part.marks, partsOf_append hs, ih h.2.2, String.ofList_toList,
        raw_appendParts h.2.1]

/-- Merged parts are the same if they have the same characters and placeholders. -/
theorem eq_iff_marks_eq {parts parts' : List Part} (h : Merged parts) (h' : Merged parts') :
    parts = parts' ↔ parts.flatMap Part.marks = parts'.flatMap Part.marks := by
  constructor
  · intro heq
    rw [heq]
  · intro hmarks
    rw [← partsOf_marks h, hmarks, partsOf_marks h']

theorem isEmpty_iff_of_merged {q : Sql} (h : Merged q.parts) : q.isEmpty = true ↔ q.toText = "" := by
  rw [isEmpty, toText]
  generalize q.parts = parts at h
  cases parts with
  | nil => simp [renderFrom]
  | cons part rest =>
    cases part with
    | param => simp [renderFrom]
    | raw s => simp [renderFrom, h.1]

/-! Fragments as a monoid. -/

@[simp] theorem append_empty (q : Sql) : q ++ empty = q := by
  show append q empty = q
  simp [append, empty]

theorem append_assoc (a b c : Sql) : (a ++ b) ++ c = a ++ (b ++ c) := by
  show append (append a b) c = append a (append b c)
  simp [append, appendParts_assoc]

theorem renderFrom_add (placeholder : Nat → String) (m n : Nat) (parts : List Part) :
    renderFrom placeholder (m + n) parts = renderFrom (fun k => placeholder (m + k)) n parts := by
  induction parts generalizing n with
  | nil => rfl
  | cons part rest ih =>
    cases part with
    | raw s => simp [renderFrom, ih]
    | param => simp [renderFrom, Nat.add_assoc, ih]

theorem render_append (a b : Sql) (d : Dialect) : (a ++ b).render d =
    a.render d ++ renderFrom (fun k => d.placeholder (a.placeholderCount + k)) 0 b.parts := by
  rw [render, parts_append, renderFrom_appendParts, Nat.zero_add, ← renderFrom_add, Nat.add_zero]
  rfl

/-- Fragments that are put together have no empty texts and no two texts in a row. They are empty if nothing is
written, and their parts are the same if the characters and placeholders are. Appending is associative, with
the empty fragment on either side. The texts, the values and the numbers of placeholders go along with it, and
the `k`-th placeholder of the second fragment is written with the number `k` after those of the first. -/
theorem built_canonical {a b : Sql} (ha : a.Built) (hb : b.Built) :
    (.raw "" ∉ a.parts ∧ a.parts.IsChain fun p q => p = .param ∨ q = .param) ∧
    (a.isEmpty = true ↔ a.toText = "") ∧
    (a.parts = b.parts ↔ a.parts.flatMap Part.marks = b.parts.flatMap Part.marks) ∧
    (∀ c, (a ++ b) ++ c = a ++ (b ++ c)) ∧ empty ++ a = a ∧ a ++ empty = a ∧
    (empty.toText = "" ∧ (a ++ b).toText = a.toText ++ b.toText) ∧
    (empty.params = [] ∧ (a ++ b).params = a.params ++ b.params) ∧
    (empty.placeholderCount = 0 ∧
      (a ++ b).placeholderCount = a.placeholderCount + b.placeholderCount) ∧
    ∀ d : Dialect, (a ++ b).render d =
      a.render d ++ renderFrom (fun k => d.placeholder (a.placeholderCount + k)) 0 b.parts := by
  have hmarks := eq_iff_marks_eq ha.merged hb.merged
  exact ⟨merged_iff.1 ha.merged, isEmpty_iff_of_merged ha.merged, hmarks, append_assoc a b,
    empty_append a, append_empty a, ⟨toText_empty, toText_append a b⟩, ⟨rfl, params_append a b⟩,
    ⟨rfl, placeholderCount_append a b⟩, render_append a b⟩

/-- A comparison and the rest of a disjunction, whose placeholder is the second. -/
theorem built_disjunction :
    let a := (text "(a = ").bind (.int 1)
    let b := (empty ++ joined " OR " [empty, fragment "b = ?" [.int 2]]).push ")"
    a.Built ∧ b.Built ∧ a.isEmpty = false ∧ a.parts ≠ b.parts ∧
      (a ++ b).render .postgres = "(a = $1 OR b = $2)" := by
  intro a b
  have ha : a.Built := .bind (.text _) _
  have hfragment : (fragment "b = ?" [.int 2]).Built := by
    rw [← empty_append (fragment _ _)]
    exact .fragment .empty _ _
  have hb : b.Built := by
    refine .push (.joined .empty _ ?_) _
    simpa using ⟨.empty, hfragment⟩
  obtain ⟨-, hempty, hparts, -, -, -, -, -, -, hrender⟩ := built_canonical ha hb
  refine ⟨ha, hb, ?_, ?_, (hrender .postgres).trans (by decide +kernel)⟩
  · rw [Bool.eq_false_iff, ne_eq, hempty]
    decide +kernel
  · rw [ne_eq, hparts]
    decide +kernel

end Sql
end Joinery
