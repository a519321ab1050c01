import Joinery.Dialect
import Joinery.Proofs.Names

/-! The tokens of SQL expressions.
Blanks, parentheses and commas separate tokens. Names, numbers and placeholders are words, and all other
characters belong to operators. PostgreSQL takes all the operator characters in a row for one operator;
the other dialects take as many of them as make an operator that they have. -/
namespace Joinery
namespace Expression

inductive Token where
  | word (cs : List Char)
  | operator (cs : List Char)
  | opening
  | closing
  | comma
deriving DecidableEq, Repr

def punctuation? : Char → Option (List Token)
  | ' ' => some []
  | '(' => some [.opening]
  | ')' => some [.closing]
  | ',' => some [.comma]
  | _ => none

def isWord (d : Dialect) (c : Char) : Bool :=
  Text.isNameChar c || c == '.' ||
    match d with
    | .postgres => c == '$'
    | .sqlserver => c == '@'
    | .mysql => c == '?'
    | .sqlite => c == '?'

/-- The characters of operators. -/
def isOperator (d : Dialect) (c : Char) : Bool :=
  (punctuation? c).isNone && !isWord d c

/-- The operators of several characters, on dialects that tell operators in a row apart. -/
def longOperators : Dialect → List (List Char)
  | .postgres => []
  | .mysql =>
    ["<<", ">>", "<=", ">=", "<>", "!=", "<=>", "||", "&&", ":=", "->", "->>"].map String.toList
  | .sqlite => ["<<", ">>", "<=", ">=", "<>", "!=", "==", "||", "->", "->>"].map String.toList
  | .sqlserver =>
    ["<<", ">>", "<=", ">=", "<>", "!=", "!<", "!>", "||", "+=", "-=", "*=", "/=", "%=", "&=", "|=",
      "^="].map String.toList

/-- Whether an operator goes on with a further operator character. -/
def joins (d : Dialect) (op : List Char) (c : Char) : Bool :=
  d == .postgres || (longOperators d).any (op ++ [c]).isPrefixOf

inductive Unfinished where
  | blank
  | word (cs : List Char)
  | operator (cs : List Char)
deriving DecidableEq, Repr

namespace Unfinished

def tokens : Unfinished → List Token
  | .blank => []
  | .word cs => [.word cs]
  | .operator cs => [.operator cs]

def isWord : Unfinished → Bool
  | .word _ => true
  | _ => false

/-- The tokens that a further character finishes, and the one that is being read after it. -/
def add (d : Dialect) (o : Unfinished) (c : Char) : List Token × Unfinished :=
  match punctuation? c with
  | some ts => (o.tokens ++ ts, .blank)
  | none =>
    match o, Expression.isWord d c with
    | .word cs, true => ([], .word (cs ++ [c]))
    | o, true => (o.tokens, .word [c])
    | .operator cs, false =>
      if joins d cs c then ([], .operator (cs ++ [c])) else ([.operator cs], .operator [c])
    | o, false => (o.tokens, .operator [c])

end Unfinished

/-- The tokens of a text that comes after an unfinished token. -/
def lex (d : Dialect) (o : Unfinished) : List Char → List Token
  | [] => o.tokens
  | c :: rest => (o.add d c).1 ++ lex d (o.add d c).2 rest

variable {d : Dialect}

theorem lex_punctuation_cons {c : Char} {ts : List Token} (hc : punctuation? c = some ts)
    (o : Unfinished) (rest : List Char) :
    lex d o (c :: rest) = o.tokens ++ ts ++ lex d .blank rest := by
  simp [lex, Unfinished.add, hc]

/-- A separator splits the tokens of a text. -/
theorem lex_punctuation {c : Char} {ts : List Token} (hc : punctuation? c = some ts)
    (o : Unfinished) (cs rest : List Char) :
    lex d o (cs ++ c :: rest) = lex d o cs ++ ts ++ lex d .blank rest := by
  induction cs generalizing o with
  | nil => exact lex_punctuation_cons hc o rest
  | cons b cs ih => simp [lex, ih]

theorem punctuation?_of_isWord {c : Char} (h : isWord d c = true) : punctuation? c = none := by
  unfold punctuation?
  split
  all_goals first | rfl | (cases d <;> revert h <;> decide)

theorem lex_word_append {v w : List Char} (hw : ∀ c ∈ w, isWord d c = true) :
    lex d (.word v) w = [.word (v ++ w)] := by
  induction w generalizing v with
  | nil => simp [lex, Unfinished.tokens]
  | cons c rest ih =>
    have hc := hw c (by simp)
    have hadd : Unfinished.add d (.word v) c = ([], .word (v ++ [c])) := by
      simp [Unfinished.add, punctuation?_of_isWord hc, hc]
    rw [lex, hadd, ih fun c hc => hw c (by simp [hc])]
    simp

/-- Whether a text has the given tokens after anything but a word. -/
def Lexes (d : Dialect) (cs : List Char) (ts : List Token) : Prop :=
  ∀ o : Unfinished, o.isWord = false → lex d o cs = o.tokens ++ ts

theorem Lexes.blank {cs : List Char} {ts : List Token} (h : Lexes d cs ts) :
    lex d .blank cs = ts :=
  h .blank rfl

theorem Lexes.word {w : List Char} (hne : w ≠ []) (hw : ∀ c ∈ w, isWord d c = true) :
    Lexes d w [.word w] := by
  intro o ho
  obtain ⟨c, rest, rfl⟩ := List.exists_cons_of_ne_nil hne
  have hc := hw c (by simp)
  have hadd : o.add d c = (o.tokens, .word [c]) := by
    cases o with
    | word cs => cases ho
    | blank => simp [Unfinished.add, punctuation?_of_isWord hc, hc]
    | operator cs => simp [Unfinished.add, punctuation?_of_isWord hc, hc]
  rw [lex, hadd, lex_word_append fun c hc => hw c (by simp [hc])]
  simp

theorem Lexes.group {text op right : List Char} {ts : List Token}
    (htext : lex d .blank text = ts) (hop : lex d .blank op = [.operator op])
    (hright : lex d .blank right = [.word right]) :
    Lexes d ('(' :: (text ++ ' ' :: (op ++ ' ' :: (right ++ [')']))))
      (.opening :: (ts ++ [.operator op, .word right, .closing])) := by
  intro o _
  rw [lex_punctuation_cons rfl, lex_punctuation rfl, lex_punctuation rfl, lex_punctuation rfl, htext,
    hop, hright]
  simp [lex, Unfinished.tokens]

def arguments (words : List (List Char)) : List Char :=
  words.flatMap fun w => ',' :: ' ' :: w

theorem lex_arguments {words : List (List Char)}
    (hwords : ∀ w ∈ words, lex d .blank w = [.word w]) (o : Unfinished) (text : List Char) :
    lex d o (text ++ arguments words ++ [')']) =
      lex d o text ++ words.flatMap (fun w => [.comma, .word w]) ++ [.closing] := by
  induction words generalizing o text with
  | nil =>
    have hclosing : lex d o (text ++ [')']) = lex d o text ++ [.closing] ++ lex d .blank [] :=
      lex_punctuation rfl o text []
    simpa [arguments, lex, Unfinished.tokens] using hclosing
  | cons w rest ih =>
    have hrest := ih (fun v hv => hwords v (by simp [hv])) .blank w
    have hsplit : text ++ arguments (w :: rest) ++ [')'] =
        text ++ ',' :: ' ' :: (w ++ arguments rest ++ [')']) := by
      simp [arguments]
    rw [hsplit, lex_punctuation rfl, lex_punctuation_cons rfl, hrest, hwords w (by simp)]
    simp [Unfinished.tokens]

theorem Lexes.call {name text : List Char} {words : List (List Char)} {ts : List Token}
    (hname : Lexes d name [.word name]) (htext : lex d .blank text = ts)
    (hwords : ∀ w ∈ words, lex d .blank w = [.word w]) :
    Lexes d (name ++ '(' :: (text ++ arguments words ++ [')']))
      (.word name :: .opening ::
        (ts ++ words.flatMap (fun w => [.comma, .word w]) ++ [.closing])) := by
  intro o ho
  rw [lex_punctuation rfl, hname o ho, lex_arguments hwords, htext]
  simp

/-- The prefix operators that functions are written with. -/
def prefixOperators : Dialect → List (List Char)
  | .postgres => [['|', '/'], ['@'], ['~']]
  | _ => [['~']]

/-- Prefix operators in a row, as a dialect reads them. -/
def glued (d : Dialect) (ops : List (List Char)) : List (List Char) :=
  match d, ops with
  | .postgres, op :: rest => [op ++ rest.flatten]
  | _, ops => ops

theorem glued_of_ne (hd : d ≠ .postgres) (ops : List (List Char)) : glued d ops = ops := by
  cases d
  · exact absurd rfl hd
  all_goals rfl

theorem lex_operator_append {v w : List Char} (hw : ∀ c ∈ w, isOperator .postgres c = true)
    (rest : List Char) :
    lex .postgres (.operator v) (w ++ rest) = lex .postgres (.operator (v ++ w)) rest := by
  induction w generalizing v with
  | nil => simp
  | cons c w ih =>
    have hc := hw c (by simp)
    simp only [isOperator, Bool.and_eq_true, Option.isNone_iff_eq_none, Bool.not_eq_true'] at hc
    have hadd : Unfinished.add .postgres (.operator v) c = ([], .operator (v ++ [c])) := by
      simp [Unfinished.add, joins, hc]
    rw [List.cons_append, lex, hadd, ih fun c hc => hw c (by simp [hc])]
    simp

theorem isOperator_of_mem {op : List Char} (h : op ∈ prefixOperators .postgres) :
    ∀ c ∈ op, isOperator .postgres c = true := by
  have all : ∀ op ∈ prefixOperators .postgres, op.all (isOperator .postgres) = true := by
    decide
  exact List.all_eq_true.1 (all op h)

theorem ne_nil_of_mem {op : List Char} (h : op ∈ prefixOperators d) : op ≠ [] := by
  revert op
  cases d <;> decide

theorem lex_glued {ops : List (List Char)} (hops : ∀ op ∈ ops, op ∈ prefixOperators .postgres)
    {cs : List Char} {ts : List Token} (hcs : Lexes .postgres cs ts) :
    lex .postgres .blank (ops.flatten ++ cs) = (glued .postgres ops).map .operator ++ ts := by
  cases ops with
  | nil => exact hcs.blank
  | cons op rest =>
    have hrow : ∀ c ∈ op ++ rest.flatten, isOperator .postgres c = true := by
      intro c hc
      obtain ⟨own, hown, hc⟩ := List.mem_flatten.1 (show c ∈ (op :: rest).flatten from hc)
      exact isOperator_of_mem (hops own hown) c hc
    have hne : op ++ rest.flatten ≠ [] := by
      simp [ne_nil_of_mem (hops op (by simp))]
    rw [List.flatten_cons]
    generalize hw : op ++ rest.flatten = w at hrow hne
    obtain ⟨c, w, rfl⟩ := List.exists_cons_of_ne_nil hne
    have hc := hrow c (by simp)
    simp only [isOperator, Bool.and_eq_true, Option.isNone_iff_eq_none, Bool.not_eq_true'] at hc
    have hadd : Unfinished.add .postgres .blank c = ([], .operator [c]) := by
      simp [Unfinished.add, Unfinished.tokens, hc]
    have hoperators : ∀ b ∈ w, isOperator .postgres b = true := fun b hb => hrow b (by simp [hb])
    have hrest := lex_operator_append (v := [c]) hoperators cs
    rw [List.cons_append, lex, hadd, hrest, hcs _ rfl]
    simp [glued, hw, Unfinished.tokens]

/-- Tildes in a row stay apart: no longer operator of these dialects begins with two of them. -/
theorem lex_separate (hd : d ≠ .postgres) {ops : List (List Char)}
    (hops : ∀ op ∈ ops, op ∈ prefixOperators d) {cs : List Char} {ts : List Token}
    (hcs : Lexes d cs ts) {o : Unfinished} (ho : o = .blank ∨ o = .operator ['~']) :
    lex d o (ops.flatten ++ cs) = o.tokens ++ (ops.map .operator ++ ts) := by
  induction ops generalizing o with
  | nil => exact hcs o (by obtain rfl | rfl := ho <;> rfl)
  | cons op rest ih =>
    have hop : op = ['~'] := by
      have hmem := hops op (by simp)
      cases d <;> simp_all [prefixOperators]
    have hadd : o.add d '~' = (o.tokens, .operator ['~']) := by
      cases d
      · exact absurd rfl hd
      all_goals obtain rfl | rfl := ho <;> decide
    have hrest := ih (fun op hop => hops op (by simp [hop])) (.inr rfl)
    rw [hop, List.flatten_cons, List.append_assoc, List.singleton_append, lex, hadd, hrest]
    simp [Unfinished.tokens]

theorem lex_prefixes {ops : List (List Char)} (hops : ∀ op ∈ ops, op ∈ prefixOperators d)
    {cs : List Char} {ts : List Token} (hcs : Lexes d cs ts) :
    lex d .blank (ops.flatten ++ cs) = (glued d ops).map .operator ++ ts := by
  by_cases hd : d = .postgres
  · subst hd
    exact lex_glued hops hcs
  · rw [glued_of_ne hd, lex_separate hd hops hcs (.inl rfl)]
    rfl

end Expression
end Joinery
