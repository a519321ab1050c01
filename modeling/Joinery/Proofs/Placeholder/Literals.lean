import Joinery.Proofs.Placeholder.Aligned

/-! The literals of SQL text, and its placeholders outside of them.
The grammar below looks ahead at every quote in a literal: a doubled one goes on with the literal, any other
ends it. A scan for placeholders does not look ahead. It leaves a literal at the first quote of a doubled
one and enters it again at the second, and finds the same placeholders. -/
namespace Joinery
namespace Sql

def quotes : List Char :=
  ['\'', '"', '\x60']

/-- Whether a backslash in a literal between such quotes takes the next character literally. -/
def Escapes (backslash : Bool) (q : Char) : Prop :=
  backslash = true ∧ q ∈ ['\'', '"']

inductive Token where
  /-- A character outside of literals. -/
  | plain (c : Char)
  /-- A literal with its quotes; one that runs to the end of the text has none there. -/
  | literal (characters : List Char) (closed : Bool)
deriving DecidableEq, Repr

/-- What follows the opening quote of a literal: the rest of the literal, and the text after it. -/
inductive Body (backslash : Bool) (q : Char) : List Char → List Char → Bool → List Char → Prop where
  | unterminated : Body backslash q [] [] false []
  | dangling (he : Escapes backslash q) : Body backslash q ['\\'] ['\\'] false []
  | close {rest : List Char} (hrest : rest.head? ≠ some q) : Body backslash q (q :: rest) [q] true rest
  | doubled {cs body rest : List Char} {closed : Bool} (h : Body backslash q cs body closed rest) :
      Body backslash q (q :: q :: cs) (q :: q :: body) closed rest
  | escaped {c : Char} {cs body rest : List Char} {closed : Bool} (he : Escapes backslash q)
      (h : Body backslash q cs body closed rest) :
      Body backslash q ('\\' :: c :: cs) ('\\' :: c :: body) closed rest
  | char {c : Char} {cs body rest : List Char} {closed : Bool} (hc : c ≠ q)
      (he : ¬ (Escapes backslash q ∧ c = '\\')) (h : Body backslash q cs body closed rest) :
      Body backslash q (c :: cs) (c :: body) closed rest

/-- The text as characters and literals, from its start on. -/
inductive Lexes (backslash : Bool) : List Char → List Token → Prop where
  | done : Lexes backslash [] []
  | plain {c : Char} {cs : List Char} {ts : List Token} (hc : c ∉ quotes) (h : Lexes backslash cs ts) :
      Lexes backslash (c :: cs) (.plain c :: ts)
  | literal {q : Char} {cs body rest : List Char} {closed : Bool} {ts : List Token} (hq : q ∈ quotes)
      (hbody : Body backslash q cs body closed rest) (h : Lexes backslash rest ts) :
      Lexes backslash (q :: cs) (.literal (q :: body) closed :: ts)

namespace Token

def characters : Token → List Char
  | .plain c => [c]
  | .literal cs _ => cs

def text (ts : List Token) : List Char :=
  ts.flatMap characters

end Token

/-- Each character of the text, with whether it is taken for a placeholder. -/
def Part.marks : Part → List (Char × Bool)
  | .raw s => s.toList.map fun c => (c, false)
  | .param => [('?', true)]

def Token.marks : Token → List (Char × Bool)
  | .plain c => [(c, c == '?')]
  | .literal cs _ => cs.map fun c => (c, false)

def EndsOutside (backslash : Bool) (s : String) : Prop :=
  ∃ ts, Lexes backslash s.toList ts ∧ ∀ cs, Token.literal cs false ∉ ts

/-- Whether a placeholder stands at an offset of the text of the parts. -/
def ParamAt (parts : List Part) (k : Nat) : Prop :=
  ∃ before after, parts = before ++ .param :: after ∧
    (renderFrom (fun _ => "?") 0 before).length = k

def MarkAt (ts : List Token) (k : Nat) : Prop :=
  ∃ before after, ts = before ++ .plain '?' :: after ∧ (Token.text before).length = k

/-! The grammar. -/

section Grammar

variable {backslash : Bool} {q : Char} {cs body body' rest rest' : List Char} {closed closed' : Bool}
  {ts ts' : List Token}

theorem Body.append_eq (h : Body backslash q cs body closed rest) : cs = body ++ rest := by
  induction h with
  | unterminated => rfl
  | dangling he => rfl
  | close hrest => rfl
  | doubled h ih => rw [ih]; rfl
  | escaped he h ih => rw [ih]; rfl
  | char hc he h ih => rw [ih]; rfl

theorem Body.rest_of_closed (h : Body backslash q cs body closed rest) :
    if closed then rest.head? ≠ some q else rest = [] := by
  induction h with
  | unterminated => rfl
  | dangling he => rfl
  | close hrest => simpa using hrest
  | doubled h ih => exact ih
  | escaped he h ih => exact ih
  | char hc he h ih => exact ih

theorem Body.before (h : Body backslash q cs body closed rest)
    (hrest : if closed then rest'.head? ≠ some q else rest' = []) :
    Body backslash q (body ++ rest') body closed rest' := by
  induction h with
  | unterminated =>
    obtain rfl : rest' = [] := hrest
    exact .unterminated
  | dangling he =>
    obtain rfl : rest' = [] := hrest
    exact .dangling he
  | close _ => exact .close (by simpa using hrest)
  | doubled h ih => exact .doubled (ih hrest)
  | escaped he h ih => exact .escaped he (ih hrest)
  | char hc he h ih => exact .char hc he (ih hrest)

theorem quote_ne_backslash (h : Escapes backslash q) : '\\' ≠ q := by
  rintro rfl
  exact absurd h.2 (by decide)

theorem Body.unique (h : Body backslash q cs body closed rest)
    (h' : Body backslash q cs body' closed' rest') : body = body' ∧ closed = closed' ∧ rest = rest' := by
  induction h generalizing body' with
  | unterminated =>
    cases h'
    simp
  | dangling he =>
    cases h' with
    | dangling => simp
    | close => exact absurd rfl (quote_ne_backslash he)
    | char hc he' => exact absurd ⟨he, rfl⟩ he'
  | close hrest =>
    cases h' with
    | dangling he => exact absurd rfl (quote_ne_backslash he)
    | close => simp
    | doubled => exact absurd rfl hrest
    | escaped he => exact absurd rfl (quote_ne_backslash he)
    | char hc => exact absurd rfl hc
  | doubled h ih =>
    cases h' with
    | close hrest => exact absurd rfl hrest
    | doubled h' =>
      obtain ⟨rfl, rfl, rfl⟩ := ih h'
      simp
    | escaped he => exact absurd rfl (quote_ne_backslash he)
    | char hc => exact absurd rfl hc
  | escaped he h ih =>
    cases h' with
    | close => exact absurd rfl (quote_ne_backslash he)
    | doubled => exact absurd rfl (quote_ne_backslash he)
    | escaped _ h' =>
      obtain ⟨rfl, rfl, rfl⟩ := ih h'
      simp
    | char hc he' => exact absurd ⟨he, rfl⟩ he'
  | char hc he h ih =>
    cases h' with
    | dangling he' => exact absurd ⟨he', rfl⟩ he
    | close => exact absurd rfl hc
    | doubled => exact absurd rfl hc
    | escaped he' => exact absurd ⟨he', rfl⟩ he
    | char _ _ h' =>
      obtain ⟨rfl, rfl, rfl⟩ := ih h'
      simp

/-- A text is lexed in one way. -/
theorem Lexes.unique (h : Lexes backslash cs ts) (h' : Lexes backslash cs ts') : ts = ts' := by
  induction h generalizing ts' with
  | done => cases h'; rfl
  | plain hc h ih =>
    cases h' with
    | plain _ h' => rw [ih h']
    | literal hq => exact absurd hq hc
  | literal hq hbody h ih =>
    cases h' with
    | plain hc => exact absurd hq hc
    | literal _ hbody' h' =>
      obtain ⟨rfl, rfl, rfl⟩ := hbody.unique hbody'
      rw [ih h']

theorem exists_body (backslash : Bool) (q : Char) (cs : List Char) :
    ∃ body closed rest, Body backslash q cs body closed rest := by
  match cs with
  | [] => exact ⟨_, _, _, .unterminated⟩
  | c :: cs =>
    by_cases hc : c = q
    · subst hc
      match cs with
      | [] => exact ⟨_, _, _, .close (by simp)⟩
      | c' :: cs =>
        by_cases hc' : c' = c
        · subst hc'
          obtain ⟨body, closed, rest, h⟩ := exists_body backslash c' cs
          exact ⟨_, _, _, .doubled h⟩
        · exact ⟨_, _, _, .close (by simpa using hc')⟩
    · by_cases he : Escapes backslash q ∧ c = '\\'
      · obtain ⟨he, rfl⟩ := he
        match cs with
        | [] => exact ⟨_, _, _, .dangling he⟩
        | c' :: cs =>
          obtain ⟨body, closed, rest, h⟩ := exists_body backslash q cs
          exact ⟨_, _, _, .escaped he h⟩
      · obtain ⟨body, closed, rest, h⟩ := exists_body backslash q cs
        exact ⟨_, _, _, .char hc he h⟩

theorem exists_lexes (backslash : Bool) (cs : List Char) : ∃ ts, Lexes backslash cs ts := by
  match cs with
  | [] => exact ⟨_, .done⟩
  | c :: cs =>
    by_cases hc : c ∈ quotes
    · obtain ⟨body, closed, rest, h⟩ := exists_body backslash c cs
      have hlength : rest.length ≤ cs.length := by
        rw [h.append_eq, List.length_append]
        omega
      obtain ⟨ts, hts⟩ := exists_lexes backslash rest
      exact ⟨_, .literal hc h hts⟩
    · obtain ⟨ts, hts⟩ := exists_lexes backslash cs
      exact ⟨_, .plain hc hts⟩
termination_by cs.length

theorem Lexes.text_eq (h : Lexes backslash cs ts) : Token.text ts = cs := by
  induction h with
  | done => rfl
  | plain hc h ih => rw [← ih]; rfl
  | literal hq hbody h ih => rw [hbody.append_eq, ← ih]; rfl

end Grammar

/-! The scan. -/

section Scanner

variable {backslash : Bool} {q : Char} {cs body rest : List Char} {closed : Bool} {ts : List Token}

theorem isQuote_iff {c : Char} : Scan.isQuote c = true ↔ c ∈ quotes := by
  simp [Scan.isQuote, quotes, or_assoc]

theorem next_outside {c : Char} (hc : c ∉ quotes) : Scan.outside.next backslash c = .outside := by
  rw [Scan.next, if_neg fun h => hc (isQuote_iff.1 h)]

theorem next_open (hq : q ∈ quotes) : Scan.outside.next backslash q = .inside q false := by
  rw [Scan.next, if_pos (isQuote_iff.2 hq)]

theorem ne_mark_of_mem_quotes (hq : q ∈ quotes) : q ≠ '?' := by
  rintro rfl
  exact absurd hq (by decide)

theorem escapes_iff (hq : q ∈ quotes) : Escapes backslash q ↔ backslash = true ∧ q ≠ '\x60' := by
  have hkind : q ∈ ['\'', '"'] ↔ q ≠ '\x60' := by
    simp only [quotes, List.mem_cons, List.not_mem_nil, or_false] at hq
    obtain rfl | rfl | rfl := hq <;> decide
  rw [Escapes, hkind]

theorem next_close (hq : q ∈ quotes) : (Scan.inside q false).next backslash q = .outside := by
  have hne : q ≠ '\\' := by
    rintro rfl
    exact absurd hq (by decide)
  simp [Scan.next, hne]

theorem next_escape (hq : q ∈ quotes) (he : Escapes backslash q) :
    (Scan.inside q false).next backslash '\\' = .inside q true := by
  obtain ⟨hbackslash, hne⟩ := (escapes_iff hq).1 he
  simp [Scan.next, hbackslash, hne]

theorem next_escaped (c : Char) : (Scan.inside q true).next backslash c = .inside q false := rfl

theorem next_char (hq : q ∈ quotes) {c : Char} (hc : c ≠ q) (he : ¬ (Escapes backslash q ∧ c = '\\')) :
    (Scan.inside q false).next backslash c = .inside q false := by
  rw [escapes_iff hq] at he
  have hplain : (backslash && c == '\\' && q != '\x60') = false := by
    by_contra h
    simp only [Bool.not_eq_false, Bool.and_eq_true, beq_iff_eq, bne_iff_ne] at h
    exact he ⟨⟨h.1.1, h.2⟩, h.1.2⟩
  simp [Scan.next, hplain, hc]

theorem splitFrom_inside (escaped : Bool) (read : List Char) (c : Char) (cs : List Char) :
    splitFrom backslash (.inside q escaped) read (c :: cs) =
      splitFrom backslash ((Scan.inside q escaped).next backslash c) (c :: read) cs := by
  rw [splitFrom, if_neg (by simp)]

theorem splitFrom_plain {c : Char} (hc : c ∉ quotes) (hmark : c ≠ '?') (read : List Char) :
    splitFrom backslash .outside read (c :: cs) = splitFrom backslash .outside (c :: read) cs := by
  rw [splitFrom, if_neg fun h => hmark h.2, next_outside hc]

theorem splitFrom_open (hq : q ∈ quotes) (read : List Char) :
    splitFrom backslash .outside read (q :: cs) = splitFrom backslash (.inside q false) (q :: read) cs := by
  rw [splitFrom, if_neg fun h => ne_mark_of_mem_quotes hq h.2, next_open hq]

theorem splitFrom_body (hq : q ∈ quotes) (h : Body backslash q cs body closed rest) (read : List Char) :
    splitFrom backslash (.inside q false) read cs =
      splitFrom backslash .outside (body.reverse ++ read) rest := by
  induction h generalizing read with
  | unterminated => rfl
  | dangling he => rw [splitFrom_inside]; rfl
  | close hrest => rw [splitFrom_inside, next_close hq]; rfl
  | doubled h ih => rw [splitFrom_inside, next_close hq, splitFrom_open hq, ih]; simp
  | escaped he h ih => rw [splitFrom_inside, next_escape hq he, splitFrom_inside, next_escaped, ih]; simp
  | char hc he h ih => rw [splitFrom_inside, next_char hq hc he, ih]; simp

theorem splitFrom_literal (hq : q ∈ quotes) (h : Body backslash q cs body closed rest)
    (read : List Char) :
    splitFrom backslash .outside read (q :: cs) =
      splitFrom backslash .outside ((q :: body).reverse ++ read) rest := by
  rw [splitFrom_open hq, splitFrom_body hq h]
  simp

theorem marks_flush (read : List Char) :
    (flush read).flatMap Part.marks = read.reverse.map fun c => (c, false) := by
  cases read <;> simp [flush, Part.marks]

/-- A scan takes for placeholders the question marks outside of literals. -/
theorem marks_splitFrom (h : Lexes backslash cs ts) (read : List Char) :
    (splitFrom backslash .outside read cs).flatMap Part.marks =
      (read.reverse.map fun c => (c, false)) ++ ts.flatMap Token.marks := by
  induction h generalizing read with
  | done => simpa [splitFrom] using marks_flush read
  | @plain c cs ts hc h ih =>
    by_cases hmark : c = '?'
    · subst hmark
      rw [splitFrom_placeholder, List.flatMap_append, marks_flush, List.flatMap_cons, ih]
      simp [Part.marks, Token.marks]
    · rw [splitFrom_plain hc hmark, ih]
      simp [Token.marks, hmark]
  | literal hq hbody h ih =>
    rw [splitFrom_literal hq hbody, ih]
    simp [Token.marks]

theorem after_body (hq : q ∈ quotes) (h : Body backslash q cs body closed rest) :
    if closed then Scan.after backslash (.inside q false) cs = Scan.after backslash .outside rest
    else Scan.after backslash (.inside q false) cs ≠ .outside := by
  induction h with
  | unterminated => simp
  | dangling he => simp [next_escape hq he]
  | close hrest => simp [next_close hq]
  | doubled h ih => simpa only [Scan.after_cons, next_close hq, next_open hq] using ih
  | escaped he h ih => simpa only [Scan.after_cons, next_escape hq he, next_escaped] using ih
  | char hc he h ih => simpa only [Scan.after_cons, next_char hq hc he] using ih

theorem after_lexes_iff (h : Lexes backslash cs ts) :
    Scan.after backslash .outside cs = .outside ↔ ∀ cs, Token.literal cs false ∉ ts := by
  induction h with
  | done => simp
  | plain hc h ih => simpa [next_outside hc] using ih
  | @literal q cs body rest closed ts hq hbody h ih =>
    have hafter := after_body hq hbody
    cases closed with
    | true =>
      rw [Scan.after_cons, next_open hq, hafter, ih]
      simp
    | false =>
      rw [Scan.after_cons, next_open hq]
      exact iff_of_false hafter fun hclosed => hclosed (q :: body) List.mem_cons_self

theorem endsOutside_iff (s : String) :
    EndsOutside backslash s ↔ Scan.after backslash .outside s.toList = .outside := by
  constructor
  · rintro ⟨ts, hts, hclosed⟩
    exact (after_lexes_iff hts).2 hclosed
  · intro h
    obtain ⟨ts, hts⟩ := exists_lexes backslash s.toList
    exact ⟨ts, hts, (after_lexes_iff hts).1 h⟩

instance (s : String) : Decidable (EndsOutside backslash s) :=
  decidable_of_iff' _ (endsOutside_iff s)

end Scanner

/-! Offsets. -/

section Offsets

/-- An element of a flattened list that only one kind of piece holds, and holds alone. -/
theorem getElem?_flatMap_eq_some_iff {α β : Type} {f : α → List β} {b : β} {xs : List α}
    (h : ∀ x ∈ xs, f x = [b] ∨ b ∉ f x) (k : Nat) :
    (xs.flatMap f)[k]? = some b ↔
      ∃ before x after, xs = before ++ x :: after ∧ f x = [b] ∧ (before.flatMap f).length = k := by
  constructor
  · intro hk
    induction xs generalizing k with
    | nil => simp at hk
    | cons x xs ih =>
      rw [List.flatMap_cons] at hk
      by_cases hlt : k < (f x).length
      · rw [List.getElem?_append_left hlt] at hk
        obtain hx | hx := h x (by simp)
        · have hzero : k = 0 := by simpa [hx] using hlt
          exact ⟨[], x, xs, rfl, hx, by simp [hzero]⟩
        · exact absurd (List.mem_of_getElem? hk) hx
      · rw [List.getElem?_append_right (by omega)] at hk
        obtain ⟨before, y, after, rfl, hy, hlength⟩ := ih (fun y hy => h y (by simp [hy])) _ hk
        refine ⟨x :: before, y, after, rfl, hy, ?_⟩
        rw [List.flatMap_cons, List.length_append, hlength]
        omega
  · rintro ⟨before, x, after, rfl, hx, rfl⟩
    simp [hx]

theorem length_marks_parts (parts : List Part) :
    (parts.flatMap Part.marks).length = (renderFrom (fun _ => "?") 0 parts).length := by
  induction parts with
  | nil => rfl
  | cons part rest ih =>
    rw [List.flatMap_cons, List.length_append, ih]
    cases part with
    | raw s => simp [renderFrom, Part.marks, String.length_toList]
    | param =>
      rw [renderFrom, renderFrom_const "?" (0 + 1) 0, String.length_append]
      have hone : "?".length = 1 := by decide
      simp [Part.marks, hone]

theorem count_param_eq_countP (parts : List Part) :
    parts.count .param = (parts.flatMap Part.marks).countP (·.2) := by
  induction parts with
  | nil => rfl
  | cons part rest ih =>
    rw [List.flatMap_cons, List.countP_append, ← ih]
    cases part with
    | raw s => simp [Part.marks, List.countP_map]
    | param => simp [Part.marks, Nat.add_comm]

theorem length_marks_tokens (ts : List Token) :
    (ts.flatMap Token.marks).length = (Token.text ts).length := by
  rw [Token.text, List.length_flatMap, List.length_flatMap]
  congr 2
  funext t
  cases t <;> simp [Token.marks, Token.characters]

theorem paramAt_iff (parts : List Part) (k : Nat) :
    ParamAt parts k ↔ (parts.flatMap Part.marks)[k]? = some ('?', true) := by
  rw [getElem?_flatMap_eq_some_iff fun part _ => by cases part <;> simp [Part.marks]]
  constructor
  · rintro ⟨before, after, rfl, hlength⟩
    exact ⟨before, .param, after, rfl, rfl, (length_marks_parts before).trans hlength⟩
  · rintro ⟨before, part, after, rfl, hpart, hlength⟩
    cases part with
    | raw s =>
      have hmem : ('?', true) ∈ Part.marks (.raw s) := by simp [hpart]
      simp [Part.marks] at hmem
    | param => exact ⟨before, after, rfl, (length_marks_parts before).symm.trans hlength⟩

theorem markAt_iff (ts : List Token) (k : Nat) :
    MarkAt ts k ↔ (ts.flatMap Token.marks)[k]? = some ('?', true) := by
  rw [getElem?_flatMap_eq_some_iff fun t _ => by
    cases t with
    | plain c => by_cases hc : c = '?' <;> simp [Token.marks, hc]
    | literal cs closed => simp [Token.marks]]
  constructor
  · rintro ⟨before, after, rfl, hlength⟩
    exact ⟨before, .plain '?', after, rfl, rfl, (length_marks_tokens before).trans hlength⟩
  · rintro ⟨before, t, after, rfl, ht, hlength⟩
    cases t with
    | plain c =>
      obtain rfl : c = '?' := by simpa [Token.marks] using ht
      exact ⟨before, after, rfl, (length_marks_tokens before).symm.trans hlength⟩
    | literal cs closed =>
      have hmem : ('?', true) ∈ Token.marks (.literal cs closed) := by simp [ht]
      simp [Token.marks] at hmem

/-- The placeholders of a text are its question marks outside of literals. -/
theorem paramAt_split_iff {backslash : Bool} {s : String} {ts : List Token}
    (h : Lexes backslash s.toList ts) (k : Nat) : ParamAt (split backslash s) k ↔ MarkAt ts k := by
  rw [paramAt_iff, markAt_iff, split, marks_splitFrom h]
  rfl

end Offsets
end Sql
end Joinery
