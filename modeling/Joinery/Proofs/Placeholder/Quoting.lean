import Joinery.Proofs.Placeholder.Numbering

/-! Quoted identifiers in SQL text.
A dialect quotes identifiers with a character in whose literals a backslash escapes nothing, and doubles
that character in the identifier. A scan leaves the literal at the first of two such characters and enters
it again at the second. -/
namespace Joinery

open Sql (Neutral EndsOutside numberFrom placeholdersIn numberPlaceholders)

variable {d : Dialect}

/-- From within a literal a scan passes doubled text and the quote that closes the literal. -/
theorem Scan.passes_doubled {backslash : Bool} {q : Char} (hq : Scan.isQuote q = true)
    (hfree : backslash = false ∨ q = '\x60') (cs : List Char) :
    Passes backslash (.inside q false) (Dialect.doubled q cs ++ [q]) := by
  have hmark : q ≠ '?' := by
    rintro rfl
    cases hq
  have hopen : Scan.outside.next backslash q = .inside q false := by simp [next, hq]
  have hnext (c : Char) :
      (Scan.inside q false).next backslash c = if c = q then .outside else .inside q false := by
    obtain rfl | rfl := hfree <;> simp [next]
  induction cs with
  | nil => exact ⟨by simp, by rw [hnext, if_pos rfl]; rfl⟩
  | cons c rest ih =>
    rw [Dialect.doubled]
    split
    · refine ⟨by simp, ?_⟩
      rw [hnext, if_pos rfl]
      refine ⟨fun h => hmark h.2, ?_⟩
      rw [hopen]
      exact ih
    · rename_i hc
      refine ⟨by simp, ?_⟩
      rw [hnext, if_neg hc]
      exact ih

namespace Dialect

theorem neutral_quote (d : Dialect) (ident : String) : Neutral d.backslashEscapes (d.quote ident) := by
  have hquote : Scan.isQuote d.identifierQuote = true := by cases d <;> decide
  have hfree : d.backslashEscapes = false ∨ d.identifierQuote = '\x60' := by cases d <;> decide
  have hmark : d.identifierQuote ≠ '?' := by cases d <;> decide
  have hopen : Scan.outside.next d.backslashEscapes d.identifierQuote =
      .inside d.identifierQuote false := by
    simp [Scan.next, hquote]
  rw [Neutral, quote, String.toList_ofList]
  refine ⟨fun h => hmark h.2, ?_⟩
  rw [hopen]
  exact Scan.passes_doubled hquote hfree _

theorem doubled_cons (q c : Char) (cs : List Char) :
    doubled q (c :: cs) = c :: ((if c = q then [q] else []) ++ doubled q cs) := by
  rw [doubled]
  split
  · rename_i hc
    rw [hc]
    rfl
  · rfl

theorem doubled_injective (q : Char) : Function.Injective (doubled q) := by
  intro cs ds h
  induction cs generalizing ds with
  | nil =>
    cases ds with
    | nil => rfl
    | cons d ds =>
      rw [doubled_cons] at h
      cases h
  | cons c cs ih =>
    cases ds with
    | nil =>
      rw [doubled_cons] at h
      cases h
    | cons d ds =>
      rw [doubled_cons, doubled_cons] at h
      obtain ⟨rfl, htail⟩ := List.cons.inj h
      rw [ih (List.append_cancel_left htail)]

theorem quote_injective (d : Dialect) : Function.Injective d.quote := by
  intro s t h
  have hbody := (List.cons.inj (String.ofList_injective h)).2
  exact String.toList_inj.1 (doubled_injective _ (List.append_cancel_right hbody))

end Dialect

namespace Sql

theorem Neutral.numberFrom_append {s : String} (h : Neutral d.backslashEscapes s) (before : Nat)
    (t : String) : numberFrom d before (s ++ t) = s ++ numberFrom d before t := by
  rw [numberFrom, split, String.toList_append, splitFrom_append h, splitFrom_eq_appendParts,
    renderFrom_appendParts, renderFrom_flush, List.append_nil, List.reverse_reverse, String.ofList_toList,
    count_flush, Nat.add_zero]
  rfl

/-- A quoted identifier, whatever its characters, has no placeholder for the scan of its dialect, which
goes on behind it as before it. Different identifiers are different when quoted. -/
theorem quoted_identifiers_skipped (d : Dialect) (before after ident : String)
    (hbefore : EndsOutside d.backslashEscapes before) :
    numberPlaceholders (before ++ d.quote ident ++ after) d =
      numberPlaceholders before d ++ d.quote ident ++ numberFrom d (placeholdersIn d before) after ∧
    Function.Injective d.quote := by
  refine ⟨?_, d.quote_injective⟩
  rw [numberPlaceholders_eq, numberPlaceholders_eq, String.append_assoc, Sql.numberFrom_append hbefore,
    (d.neutral_quote ident).numberFrom_append, Nat.zero_add, String.append_assoc]

theorem quoted_question_mark :
    EndsOutside Dialect.postgres.backslashEscapes "SELECT ? AS " ∧
      numberPlaceholders ("SELECT ? AS " ++ Dialect.postgres.quote "a\"?\\'" ++ ", ?") .postgres =
        "SELECT $1 AS \"a\"\"?\\'\", $2" := by
  have hends : EndsOutside Dialect.postgres.backslashEscapes "SELECT ? AS " := by decide +kernel
  refine ⟨hends, ?_⟩
  rw [(quoted_identifiers_skipped .postgres "SELECT ? AS " ", ?" "a\"?\\'" hends).1]
  decide +kernel

end Sql
end Joinery
