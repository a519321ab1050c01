import Joinery.Sql.Literal
import Mathlib.Data.List.Basic

/-! Fragments as a monoid: their texts, their placeholders, and the form of their parts.
The parts of a fragment are merged when no text among them is empty or next to another text. -/
namespace Joinery
namespace Sql

def startsRaw : List Part → Bool
  | .raw _ :: _ => true
  | _ => false

/-- No text is empty, and no text is next to another. -/
def Merged : List Part → Prop
  | [] => True
  | .param :: rest => Merged rest
  | .raw s :: rest => s ≠ "" ∧ startsRaw rest = false ∧ Merged rest

theorem startsRaw_appendParts (p : Part) (rest q : List Part) :
    startsRaw (appendParts (p :: rest) q) = startsRaw (p :: rest) := by
  cases p with
  | param => rfl
  | raw s =>
    cases rest with
    | nil =>
      cases q with
      | nil => rfl
      | cons part q => cases part <;> rfl
    | cons part rest => rfl

theorem merged_appendParts {p q : List Part} (hp : Merged p) (hq : Merged q) :
    Merged (appendParts p q) := by
  fun_induction appendParts p q with
  | case1 q => exact hq
  | case2 s t q =>
    refine ⟨?_, hq.2⟩
    intro h
    exact hp.1 (String.append_eq_empty_iff.1 h).1
  | case3 p rest q h ih =>
    cases p with
    | param => exact ih hp hq
    | raw s =>
      refine ⟨hp.1, ?_, ih hp.2.2 hq⟩
      cases rest with
      | nil =>
        cases q with
        | nil => rfl
        | cons part q =>
          cases part with
          | raw t => exact (h s t q rfl rfl rfl).elim
          | param => rfl
      | cons part rest =>
        rw [startsRaw_appendParts]
        exact hp.2.1

@[simp] theorem appendParts_nil (p : List Part) : appendParts p [] = p := by
  induction p with
  | nil => rfl
  | cons part rest ih => cases rest <;> simp_all [appendParts]

theorem appendParts_cons_of_ne_nil (p : Part) {rest : List Part} (h : rest ≠ []) (q : List Part) :
    appendParts (p :: rest) q = p :: appendParts rest q := by
  obtain ⟨part, rest, rfl⟩ := List.exists_cons_of_ne_nil h
  simp [appendParts]

theorem appendParts_ne_nil {p : List Part} (h : p ≠ []) (q : List Part) : appendParts p q ≠ [] := by
  fun_induction appendParts p q with
  | case1 q => exact absurd rfl h
  | case2 s t q => simp
  | case3 p rest q h ih => simp

theorem appendParts_assoc (p q r : List Part) :
    appendParts (appendParts p q) r = appendParts p (appendParts q r) := by
  fun_induction appendParts p q with
  | case1 q => rw [nil_appendParts]
  | case2 s t q =>
    cases q with
    | nil =>
      cases r with
      | nil => rfl
      | cons part r => cases part <;> simp [appendParts, String.append_assoc]
    | cons part q => simp [appendParts]
  | case3 p rest q h ih =>
    cases p with
    | param => simp [appendParts, ih]
    | raw s =>
      cases rest with
      | cons part rest =>
        have hrest : part :: rest ≠ [] := by simp
        rw [appendParts_cons_of_ne_nil _ (appendParts_ne_nil hrest q),
          appendParts_cons_of_ne_nil _ hrest, ih]
      | nil =>
        cases q with
        | nil => simp [appendParts]
        | cons part q =>
          cases part with
          | raw t => exact (h s t q rfl rfl rfl).elim
          | param => simp [appendParts]

theorem raw_mem_appendParts {P : String → Prop} (happend : ∀ s t, P s → P t → P (s ++ t))
    {p q : List Part} (hp : ∀ s, .raw s ∈ p → P s) (hq : ∀ s, .raw s ∈ q → P s) :
    ∀ s, .raw s ∈ appendParts p q → P s := by
  fun_induction appendParts p q with
  | case1 q => exact hq
  | case2 s t q =>
    intro u hu
    rcases List.mem_cons.1 hu with hu | hu
    · cases hu
      exact happend s t (hp s (by simp)) (hq t (by simp))
    · exact hq u (by simp [hu])
  | case3 p rest q h ih =>
    intro u hu
    rcases List.mem_cons.1 hu with hu | hu
    · exact hp u (by simp [hu])
    · exact ih (fun v hv => hp v (by simp [hv])) hq u hu

theorem count_appendParts (p q : List Part) :
    (appendParts p q).count .param = p.count .param + q.count .param := by
  fun_induction appendParts p q with
  | case1 q => simp
  | case2 s t q => simp
  | case3 p rest q h ih =>
    simp only [List.count_cons, ih]
    omega

/-- The text of two fragments in a row; the placeholders of the second go on counting. -/
theorem renderFrom_appendParts (placeholder : Nat → String) (index : Nat) (p q : List Part) :
    renderFrom placeholder index (appendParts p q) =
      renderFrom placeholder index p ++ renderFrom placeholder (index + p.count .param) q := by
  fun_induction appendParts p q generalizing index with
  | case1 q => simp [renderFrom]
  | case2 s t q => simp [renderFrom, String.append_assoc]
  | case3 p rest q h ih =>
    cases p with
    | raw s => simp [renderFrom, ih, String.append_assoc]
    | param =>
      rw [List.count_cons_self, Nat.add_comm _ 1, ← Nat.add_assoc]
      simp [renderFrom, ih, String.append_assoc]

theorem renderFrom_append (placeholder : Nat → String) (index : Nat) (p q : List Part) :
    renderFrom placeholder index (p ++ q) =
      renderFrom placeholder index p ++ renderFrom placeholder (index + p.count .param) q := by
  induction p generalizing index with
  | nil => simp [renderFrom]
  | cons part rest ih =>
    cases part with
    | raw s => simp [renderFrom, ih, String.append_assoc]
    | param =>
      rw [List.count_cons_self, Nat.add_comm _ 1, ← Nat.add_assoc]
      simp [renderFrom, ih, String.append_assoc]

theorem exists_placeholder {parts : List Part} {k : Nat} (hk : k < parts.count .param) :
    ∃ before after, parts = before ++ .param :: after ∧ before.count .param = k := by
  induction parts generalizing k with
  | nil => cases hk
  | cons part rest ih =>
    cases part with
    | raw s =>
      obtain ⟨before, after, rfl, hcount⟩ := ih (show k < rest.count .param by simpa using hk)
      exact ⟨.raw s :: before, after, rfl, by simpa using hcount⟩
    | param =>
      cases k with
      | zero => exact ⟨[], rest, rfl, rfl⟩
      | succ k =>
        rw [List.count_cons_self] at hk
        obtain ⟨before, after, rfl, hcount⟩ := ih (Nat.lt_of_succ_lt_succ hk)
        exact ⟨.param :: before, after, rfl, by simp [hcount]⟩

@[simp] theorem toText_empty : empty.toText = "" := rfl

@[simp] theorem toText_bound (v : Value) : (bound v).toText = "?" := by
  simp [toText, bound, renderFrom]

@[simp] theorem toText_text (s : String) : (text s).toText = s := by
  by_cases h : s = "" <;> simp [toText, text, renderFrom, h]

theorem renderFrom_const (s : String) (i j : Nat) (parts : List Part) :
    renderFrom (fun _ => s) i parts = renderFrom (fun _ => s) j parts := by
  induction parts generalizing i j with
  | nil => rfl
  | cons p rest ih => cases p <;> simp [renderFrom, ih (i + 1) (j + 1), ih i j]

@[simp] theorem toText_append (a b : Sql) : (a ++ b).toText = a.toText ++ b.toText := by
  rw [toText, toText, toText, parts_append, renderFrom_appendParts]
  rw [renderFrom_const "?" (0 + a.parts.count .param) 0]

theorem renderFrom_flush_append (placeholder : Nat → String) (index : Nat) (read : List Char)
    (rest : List Part) :
    renderFrom placeholder index (flush read ++ rest) =
      String.ofList read.reverse ++ renderFrom placeholder index rest := by
  cases read <;> simp [flush, renderFrom]

theorem renderFrom_flush (placeholder : Nat → String) (index : Nat) (read : List Char) :
    renderFrom placeholder index (flush read) = String.ofList read.reverse := by
  simpa [renderFrom] using renderFrom_flush_append placeholder index read []

/-- Cutting a text at its placeholders loses nothing of it. -/
theorem renderFrom_splitFrom (backslash : Bool) (place : Scan) (read cs : List Char) :
    renderFrom (fun _ => "?") 0 (splitFrom backslash place read cs) =
      String.ofList (read.reverse ++ cs) := by
  induction cs generalizing place read with
  | nil => simpa [splitFrom] using renderFrom_flush (fun _ => "?") 0 read
  | cons c rest ih =>
    rw [splitFrom]
    split
    · rename_i h
      rw [renderFrom_flush_append, renderFrom, renderFrom_const "?" _ 0, ih, h.2, ← String.toList_inj]
      simp
    · rw [ih]
      simp

@[simp] theorem toText_fragmentFor (d : Dialect) (s : String) (values : List Value) :
    (fragmentFor d s values).toText = s := by
  simp [toText, fragmentFor, split, renderFrom_splitFrom]

@[simp] theorem toText_fragment (s : String) (values : List Value) :
    (fragment s values).toText = s := by
  simp [toText, fragment, split, renderFrom_splitFrom]

theorem isEmpty_of_toText_ne {q : Sql} (h : q.toText ≠ "") : q.isEmpty = false := by
  rw [isEmpty, List.isEmpty_eq_false_iff]
  intro hparts
  exact h (by simp [toText, hparts, renderFrom])

theorem toText_joined (separator : String) (qs : List Sql) :
    (joined separator qs).toText = String.intercalate separator (qs.map toText) := by
  fun_induction joined separator qs with
  | case1 => simp
  | case2 q => simp
  | case3 q rest h ih =>
    rw [toText_append, toText_append, ih, toText_text, List.map_cons,
      String.intercalate_cons_of_ne_nil (by simpa using h), String.append_assoc]

@[simp] theorem placeholderCount_append (a b : Sql) :
    (a ++ b).placeholderCount = a.placeholderCount + b.placeholderCount :=
  count_appendParts a.parts b.parts

end Sql
end Joinery
