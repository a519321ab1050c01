import Joinery.Proofs.Placeholder.Literals

/-! Numbering the placeholders of SQL text.
The numbered text has the tokens of the text, with the characters of a placeholder in the place of each
question mark outside of literals. -/
namespace Joinery
namespace Sql

/-- How many placeholders a text has on a dialect. -/
def placeholdersIn (d : Dialect) (s : String) : Nat :=
  (split d.backslashEscapes s).count .param

/-- The text with each placeholder in the form of the dialect, when others have been written before. -/
def numberFrom (d : Dialect) (before : Nat) (s : String) : String :=
  renderFrom d.placeholder before (split d.backslashEscapes s)

theorem numberPlaceholders_eq (s : String) (d : Dialect) :
    numberPlaceholders s d = numberFrom d 0 s := rfl

namespace Token

def isLiteral : Token → Bool
  | .plain _ => false
  | .literal _ _ => true

/-- The tokens with a placeholder in the place of every question mark outside of literals; `index`
placeholders have been written before them. -/
def numbered (placeholder : Nat → String) (index : Nat) : List Token → List Token
  | [] => []
  | .plain c :: rest =>
    if c = '?' then
      (placeholder (index + 1)).toList.map .plain ++ numbered placeholder (index + 1) rest
    else .plain c :: numbered placeholder index rest
  | .literal cs closed :: rest => .literal cs closed :: numbered placeholder index rest

variable {placeholder : Nat → String}

theorem text_append (ts us : List Token) : text (ts ++ us) = text ts ++ text us := by
  simp [text]

theorem text_map_plain (cs : List Char) : text (cs.map .plain) = cs := by
  simp [text, List.flatMap_map, characters]

theorem literals_numbered (index : Nat) (ts : List Token) :
    (numbered placeholder index ts).filter isLiteral = ts.filter isLiteral := by
  fun_induction numbered placeholder index ts with
  | case1 => rfl
  | case2 index rest ih => simp [isLiteral, ih]
  | case3 index c rest hc ih => exact ih
  | case4 index cs closed rest ih => exact congrArg (literal cs closed :: ·) ih

theorem numbered_mark (hmark : ∀ i, placeholder i = "?") (index : Nat) (ts : List Token) :
    numbered placeholder index ts = ts := by
  fun_induction numbered placeholder index ts with
  | case1 => rfl
  | case2 index rest ih => simp [ih, hmark]
  | case3 index c rest hc ih => rw [ih]
  | case4 index cs closed rest ih => rw [ih]

theorem numbered_of_not_mem (index : Nat) {ts : List Token} (h : .plain '?' ∉ ts) :
    numbered placeholder index ts = ts := by
  fun_induction numbered placeholder index ts with
  | case1 => rfl
  | case2 index rest ih => exact absurd List.mem_cons_self h
  | case3 index c rest hc ih => rw [ih fun hrest => h (by simp [hrest])]
  | case4 index cs closed rest ih => rw [ih fun hrest => h (by simp [hrest])]

theorem mark_notMem_numbered (hmark : ∀ i, '?' ∉ (placeholder i).toList) (index : Nat) (ts : List Token) :
    .plain '?' ∉ numbered placeholder index ts := by
  fun_induction numbered placeholder index ts with
  | case1 => simp
  | case2 index rest ih => simp [ih, hmark]
  | case3 index c rest hc ih => simp [ih, Ne.symm hc]
  | case4 index cs closed rest ih => simp [ih]

theorem head?_text_numbered (hne : ∀ i, placeholder i ≠ "")
    (hplain : ∀ i, ∀ c ∈ (placeholder i).toList, c ∉ quotes) {q : Char} (hq : q ∈ quotes) (index : Nat)
    {ts : List Token} (h : (text ts).head? ≠ some q) :
    (text (numbered placeholder index ts)).head? ≠ some q := by
  fun_induction numbered placeholder index ts with
  | case1 => exact h
  | case2 index rest ih =>
    have hcs : (placeholder (index + 1)).toList ≠ [] := by simpa using hne (index + 1)
    rw [text_append, text_map_plain, List.head?_append_of_ne_nil _ hcs]
    intro hhead
    exact hplain _ _ (List.mem_of_head? hhead) hq
  | case3 index c rest hc ih => exact h
  | case4 index cs closed rest ih =>
    cases cs with
    | nil => exact ih h
    | cons c cs => exact h

end Token

section Numbering

variable {backslash : Bool} {placeholder : Nat → String} {cs : List Char} {ts : List Token}

theorem toList_renderFrom_splitFrom (h : Lexes backslash cs ts) (index : Nat) (read : List Char) :
    (renderFrom placeholder index (splitFrom backslash .outside read cs)).toList =
      read.reverse ++ Token.text (Token.numbered placeholder index ts) := by
  induction h generalizing index read with
  | done => simp [splitFrom, renderFrom_flush, Token.numbered, Token.text]
  | @plain c cs ts hc h ih =>
    by_cases hmark : c = '?'
    · subst hmark
      rw [splitFrom_placeholder, renderFrom_flush_append, renderFrom, String.toList_append,
        String.toList_append, ih, Token.numbered, if_pos rfl, Token.text_append, Token.text_map_plain]
      simp
    · rw [splitFrom_plain hc hmark, ih]
      simp [Token.numbered, hmark, Token.text, Token.characters]
  | literal hq hbody h ih =>
    rw [splitFrom_literal hq hbody, ih]
    simp [Token.numbered, Token.text, Token.characters]

theorem Lexes.prepend {block : List Char} (hblock : ∀ c ∈ block, c ∉ quotes) (h : Lexes backslash cs ts) :
    Lexes backslash (block ++ cs) (block.map .plain ++ ts) := by
  induction block with
  | nil => exact h
  | cons c block ih => exact .plain (hblock c (by simp)) (ih fun x hx => hblock x (by simp [hx]))

/-- A numbered text has the numbered tokens: no literal ends elsewhere, opens or closes. -/
theorem Lexes.numbered (hne : ∀ i, placeholder i ≠ "")
    (hplain : ∀ i, ∀ c ∈ (placeholder i).toList, c ∉ quotes) (h : Lexes backslash cs ts) (index : Nat) :
    Lexes backslash (Token.text (Token.numbered placeholder index ts))
      (Token.numbered placeholder index ts) := by
  induction h generalizing index with
  | done => exact .done
  | @plain c cs ts hc h ih =>
    rw [Token.numbered]
    split
    · rw [Token.text_append, Token.text_map_plain]
      exact (ih (index + 1)).prepend (hplain _)
    · exact .plain hc (ih index)
  | @literal q cs body rest closed ts hq hbody h ih =>
    have hrest := hbody.rest_of_closed
    refine .literal hq (hbody.before ?_) (ih index)
    cases closed with
    | true => exact Token.head?_text_numbered hne hplain hq index (by simpa [h.text_eq] using hrest)
    | false =>
      obtain rfl : rest = [] := hrest
      cases h
      rfl

end Numbering

section Dialects

variable {d : Dialect}

theorem placeholder_ne_empty (d : Dialect) (i : Nat) : d.placeholder i ≠ "" := by
  cases d <;> simp [Dialect.placeholder]

/-- A placeholder is a question mark, or it has neither quotes nor question marks. -/
theorem placeholder_mark_or_plain (d : Dialect) :
    (∀ i, d.placeholder i = "?") ∨ ∀ i, Plain (d.placeholder i) := by
  cases d with
  | postgres => exact .inr fun i => Spelled.append (by decide) (plain_toString i)
  | mysql => exact .inl fun _ => rfl
  | sqlite => exact .inl fun _ => rfl
  | sqlserver => exact .inr fun i => Spelled.append (by decide) (plain_toString i)

theorem notMem_quotes_of_isPlain {c : Char} (h : isPlain c = true) : c ∉ quotes := by
  intro hc
  simp [isPlain, isQuote_iff.2 hc] at h

theorem notMem_quotes_of_mem_placeholder (d : Dialect) (i : Nat) :
    ∀ c ∈ (d.placeholder i).toList, c ∉ quotes := by
  intro c hc
  obtain hmark | hplain := placeholder_mark_or_plain d
  · obtain rfl : c = '?' := by simpa [hmark] using hc
    decide
  · exact notMem_quotes_of_isPlain (hplain i c hc)

theorem toList_numberFrom {s : String} {ts : List Token} (h : Lexes d.backslashEscapes s.toList ts)
    (before : Nat) :
    (numberFrom d before s).toList = Token.text (Token.numbered d.placeholder before ts) :=
  toList_renderFrom_splitFrom h before []

theorem lexes_numberFrom {s : String} {ts : List Token} (h : Lexes d.backslashEscapes s.toList ts)
    (before : Nat) : Lexes d.backslashEscapes (numberFrom d before s).toList
      (Token.numbered d.placeholder before ts) := by
  rw [toList_numberFrom h]
  exact h.numbered (placeholder_ne_empty d) (notMem_quotes_of_mem_placeholder d) before

theorem numberFrom_of_mark (hmark : ∀ i, d.placeholder i = "?") (before : Nat) (s : String) :
    numberFrom d before s = s := by
  obtain ⟨ts, hts⟩ := exists_lexes d.backslashEscapes s.toList
  rw [← String.toList_inj, toList_numberFrom hts, Token.numbered_mark hmark, hts.text_eq]

/-- Numbering changes nothing of a numbered text. -/
theorem numberFrom_numberFrom (d : Dialect) (before again : Nat) (s : String) :
    numberFrom d again (numberFrom d before s) = numberFrom d before s := by
  obtain hmark | hplain := placeholder_mark_or_plain d
  · exact numberFrom_of_mark hmark _ _
  · obtain ⟨ts, hts⟩ := exists_lexes d.backslashEscapes s.toList
    have hmark : .plain '?' ∉ Token.numbered d.placeholder before ts :=
      Token.mark_notMem_numbered (fun i hmem => absurd (hplain i _ hmem) (by decide)) before ts
    rw [← String.toList_inj, toList_numberFrom (lexes_numberFrom hts before),
      Token.numbered_of_not_mem again hmark, toList_numberFrom hts]

/-- Behind a text that ends outside of literals, numbering goes on where that text left off. -/
theorem numberFrom_append {s : String} (hs : EndsOutside d.backslashEscapes s) (before : Nat) (t : String) :
    numberFrom d before (s ++ t) =
      numberFrom d before s ++ numberFrom d (before + placeholdersIn d s) t := by
  simp only [numberFrom, placeholdersIn, split, String.toList_append]
  rw [splitFrom_append_of_after ((endsOutside_iff s).1 hs), renderFrom_appendParts]

/-- The scan for placeholders reads literals as the grammar does. A text has one reading, and its
placeholders are the question marks outside of the literals of that reading. Numbering them leaves the
literals as they are; it does nothing on dialects whose placeholder is the question mark, and nothing to a
text that is numbered already. -/
theorem placeholders_outside_literals (s : String) (d : Dialect) :
    (∀ backslash, renderFrom (fun _ => "?") 0 (split backslash s) = s ∧
      ∃ ts, Lexes backslash s.toList ts ∧ (∀ us, Lexes backslash s.toList us → us = ts) ∧
        ∀ k, ParamAt (split backslash s) k ↔ MarkAt ts k) ∧
    (d = .mysql ∨ d = .sqlite → numberPlaceholders s d = s) ∧
    numberPlaceholders (numberPlaceholders s d) d = numberPlaceholders s d ∧
    (∀ ts, Lexes d.backslashEscapes s.toList ts →
      Lexes d.backslashEscapes (numberPlaceholders s d).toList (Token.numbered d.placeholder 0 ts) ∧
      (Token.numbered d.placeholder 0 ts).filter Token.isLiteral = ts.filter Token.isLiteral) ∧
    (EndsOutside d.backslashEscapes s → ∀ t, numberPlaceholders (s ++ t) d =
      numberPlaceholders s d ++ numberFrom d (placeholdersIn d s) t) := by
  refine ⟨fun backslash => ⟨?_, ?_⟩, ?_, numberFrom_numberFrom d 0 0 s,
    fun ts hts => ⟨lexes_numberFrom hts 0, Token.literals_numbered 0 ts⟩, fun hs t => ?_⟩
  · rw [split, renderFrom_splitFrom, List.reverse_nil, List.nil_append, String.ofList_toList]
  · obtain ⟨ts, hts⟩ := exists_lexes backslash s.toList
    exact ⟨ts, hts, fun us hus => hus.unique hts, paramAt_split_iff hts⟩
  · rintro (rfl | rfl)
    · exact numberFrom_of_mark (fun _ => rfl) 0 s
    · exact numberFrom_of_mark (fun _ => rfl) 0 s
  · rw [numberPlaceholders_eq, numberFrom_append hs, Nat.zero_add, numberPlaceholders_eq]

theorem placeholder_after_doubled_quote :
    EndsOutside false "a = 'it''s?' AND b = ?" ∧
      numberPlaceholders ("a = 'it''s?' AND b = ?" ++ " OR c = ?") .postgres =
        "a = 'it''s?' AND b = $1" ++ " OR c = $2" := by
  have hends : EndsOutside Dialect.postgres.backslashEscapes "a = 'it''s?' AND b = ?" := by decide +kernel
  refine ⟨hends, ?_⟩
  rw [(placeholders_outside_literals "a = 'it''s?' AND b = ?" .postgres).2.2.2.2 hends " OR c = ?"]
  decide +kernel

end Dialects

end Sql
end Joinery
