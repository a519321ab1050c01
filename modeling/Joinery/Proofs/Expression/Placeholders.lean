import Joinery.Proofs.Expression.Tokens
import Joinery.Proofs.Placeholder.Aligned

/-! Placeholders in rendered expressions.
In a text without quotes every question mark becomes a placeholder, and every placeholder is a word. -/
namespace Joinery

open Expression

/-- The text with its question marks replaced; `index` placeholders have been written before it. -/
def Expression.numbered (placeholder : Nat → String) (index : Nat) : List Char → List Char
  | [] => []
  | c :: rest =>
    if c = '?' then (placeholder (index + 1)).toList ++ numbered placeholder (index + 1) rest
    else c :: numbered placeholder index rest

section Numbered

variable {placeholder : Nat → String} {index : Nat}

theorem Expression.numbered_append (as bs : List Char) :
    numbered placeholder index (as ++ bs) =
      numbered placeholder index as ++ numbered placeholder (index + as.count '?') bs := by
  induction as generalizing index with
  | nil => simp [numbered]
  | cons c rest ih =>
    by_cases hc : c = '?'
    · subst hc
      rw [List.count_cons_self, Nat.add_comm _ 1, ← Nat.add_assoc]
      simp [numbered, ih]
    · rw [List.count_cons_of_ne hc]
      simp [numbered, hc, ih]

theorem Expression.numbered_of_count {cs : List Char} (h : cs.count '?' = 0) :
    numbered placeholder index cs = cs := by
  induction cs with
  | nil => rfl
  | cons c rest ih =>
    rw [List.count_eq_zero, List.mem_cons, not_or] at h
    rw [numbered, if_neg (Ne.symm h.1), ih (List.count_eq_zero.2 h.2)]

/-- A text without quotes is rendered with a placeholder for each question mark. -/
theorem Sql.renderFrom_splitFrom_quoteless {backslash : Bool} {read cs : List Char}
    (hcs : ∀ c ∈ cs, Scan.isQuote c = false) :
    renderFrom placeholder index (splitFrom backslash .outside read cs) =
      String.ofList (read.reverse ++ numbered placeholder index cs) := by
  induction cs generalizing index read with
  | nil => simpa [splitFrom, numbered] using renderFrom_flush placeholder index read
  | cons c rest ih =>
    have hrest : ∀ d ∈ rest, Scan.isQuote d = false := fun d hd => hcs d (by simp [hd])
    by_cases hc : c = '?'
    · subst hc
      rw [splitFrom_placeholder, renderFrom_flush_append, renderFrom, ih hrest, ← String.toList_inj]
      simp [numbered]
    · have hplace : Scan.outside.next backslash c = .outside := by
        simp [Scan.next, hcs c (by simp)]
      rw [splitFrom, if_neg (fun h => hc h.2), hplace, ih hrest]
      simp [numbered, hc]

end Numbered

def Expression.marks (d : Dialect) (index : Nat) : Nat → List (List Char)
  | 0 => []
  | count + 1 => (d.placeholder (index + 1)).toList :: marks d (index + 1) count

variable {d : Dialect}

theorem Expression.lexes_placeholder (d : Dialect) (index : Nat) :
    Lexes d (d.placeholder index).toList [.word (d.placeholder index).toList] := by
  have hdigits : ∀ c ∈ (toString index).toList, isWord d c = true := by
    intro c hc
    rw [Nat.toString_eq_repr, Nat.repr_eq_ofList_toDigits, String.toList_ofList] at hc
    have hdigit := Nat.isDigit_of_mem_toDigits (by decide) (by decide) hc
    have hname : Text.isNameChar c = true := by
      simp only [Char.isDigit, ge_iff_le, Bool.and_eq_true, decide_eq_true_eq, UInt32.le_iff_toNat_le]
        at hdigit
      have hrange : 48 ≤ c.toNat ∧ c.toNat ≤ 57 := hdigit
      simp [Text.isNameChar, hrange]
    simp [isWord, hname]
  cases d with
  | postgres =>
    refine .word (by simp [Dialect.placeholder]) ?_
    simpa [Dialect.placeholder, isWord] using hdigits
  | mysql =>
    have hmark : Lexes .mysql ['?'] [.word ['?']] :=
      .word (by decide) (List.all_eq_true.1 (by decide))
    simpa [Dialect.placeholder] using hmark
  | sqlite =>
    have hmark : Lexes .sqlite ['?'] [.word ['?']] :=
      .word (by decide) (List.all_eq_true.1 (by decide))
    simpa [Dialect.placeholder] using hmark
  | sqlserver =>
    have hletter : Text.isNameChar 'p' = true := by decide
    refine .word (by simp [Dialect.placeholder]) ?_
    simpa [Dialect.placeholder, isWord, hletter] using hdigits

theorem Expression.lex_of_mem_marks {index count : Nat} :
    ∀ w ∈ marks d index count, lex d .blank w = [.word w] := by
  induction count generalizing index with
  | zero => simp [marks]
  | succ count ih =>
    rw [marks, List.forall_mem_cons]
    exact ⟨(lexes_placeholder d _).blank, ih⟩

theorem Expression.numbered_marks (index count : Nat) :
    numbered d.placeholder index (String.join (List.replicate count ", ?")).toList =
      arguments (marks d index count) := by
  induction count generalizing index with
  | zero => rfl
  | succ count ih =>
    have hrest := ih (index + 1)
    rw [List.replicate_succ, String.join_cons, String.toList_append, numbered_append,
      show ", ?".toList.count '?' = 1 from rfl, hrest]
    simp [numbered, marks, arguments]

end Joinery
