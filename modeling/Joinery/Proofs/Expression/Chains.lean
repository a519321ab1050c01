import Joinery.Proofs.Compilable
import Joinery.Proofs.Expression.Placeholders
import Joinery.Proofs.Expression.Precedence
import Joinery.Proofs.Placeholder.Filter

/-! The functions of a field as they are read back.
A written field is read as its functions, each applied to the ones before it, on every dialect but
PostgreSQL. PostgreSQL takes the operator of a function written in front together with an operator right
behind it, and gives it an operator that binds more tightly as a part of its operand. -/
namespace Joinery

open Expression

variable {d : Dialect}

namespace Strategy

/-- The function around a term; `index` placeholders have been written before it. -/
def term (d : Dialect) (index count : Nat) (inner : Term) : Strategy → Term
  | .infixOp op => .infixOp op.toList inner (.word (d.placeholder (index + 1)).toList)
  | .call name => .call name.toList (inner :: (marks d index count).map .word)
  | .prefixOp op => .prefixOp op.toList inner

/-- Whether a dialect reads the operator or the name of a function as it is written. -/
def Legible (d : Dialect) : Strategy → Prop
  | .infixOp op => lex d .blank op.toList = [.operator op.toList]
  | .call name => name.toList ≠ [] ∧ name.toList.all (isWord d) = true
  | .prefixOp op => op.toList ∈ prefixOperators d

instance (d : Dialect) (s : Strategy) : Decidable (s.Legible d) := by
  cases s <;> unfold Legible <;> infer_instance

theorem legible {f : Function} {s : Strategy} (h : f.strategy? d = some s) : s.Legible d := by
  have all : ∀ s ∈ f.strategy? d, s.Legible d := by
    cases f <;> cases d <;> decide
  exact all s h

end Strategy

/-- A field with functions around it is a row of prefix operators in front of an operand. -/
structure Expression.Prefixed (d : Dialect) (p : Precedence) (index : Nat) (text : String)
    (ops : List (List Char)) (core : Term) : Prop where
  quoteless : Sql.Quoteless text
  operators : ∀ op ∈ ops, op ∈ prefixOperators d
  operand : ∃ cs ts, numbered d.placeholder index text.toList = ops.flatten ++ cs ∧
    Lexes d cs ts ∧ Expression.Reads p ts core

section Prefixed

variable {p : Precedence} {index : Nat} {text : String} {ops : List (List Char)} {core : Term}

theorem Expression.Prefixed.lex (h : Prefixed d p index text ops core) :
    ∃ ts, Expression.lex d .blank (numbered d.placeholder index text.toList) =
      (glued d ops).map .operator ++ ts ∧ Expression.Reads p ts core := by
  obtain ⟨cs, ts, hwritten, hlexes, hreads⟩ := h.operand
  refine ⟨ts, ?_, hreads⟩
  rw [hwritten, lex_prefixes h.operators hlexes]

theorem Expression.Prefixed.read (h : Prefixed d p index text ops core) :
    Expression.read p (Expression.lex d .blank (numbered d.placeholder index text.toList)) =
      some (wrap (glued d ops) core) := by
  obtain ⟨ts, hlex, hreads⟩ := h.lex
  rw [hlex, hreads.read]

theorem Expression.quoteless_marks (count : Nat) :
    Sql.Quoteless (String.join (List.replicate count ", ?")) := by
  intro c hc
  rw [String.toList_join, List.mem_flatMap] at hc
  obtain ⟨s, hs, hc⟩ := hc
  have hmark : Sql.Quoteless ", ?" := by decide
  rw [List.eq_of_mem_replicate hs] at hc
  exact hmark c hc

/-- The prefix operators of a field with one more function around it. -/
def Strategy.operators (ops : List (List Char)) : Strategy → List (List Char)
  | .prefixOp op => op.toList :: ops
  | _ => []

/-- The operand behind them; `index` placeholders have been written before the function. -/
def Strategy.operand (d : Dialect) (p : Precedence) (index count : Nat) (ops : List (List Char))
    (core : Term) : Strategy → Term
  | .infixOp op =>
    infixed p (glued d ops) core op.toList (.word (d.placeholder (index + 1)).toList)
  | .call name => .call name.toList (wrap (glued d ops) core :: (marks d index count).map .word)
  | .prefixOp _ => core

theorem Expression.Prefixed.apply (h : Prefixed d p index text ops core) {s : Strategy}
    (hplain : Sql.Plain s.word) (hs : s.Legible d) (count : Nat) :
    Prefixed d p index (s.apply text count) (s.operators ops)
      (s.operand d p (index + text.toList.count '?') count ops core) := by
  have hquoteless := Sql.quoteless_of_plain hplain
  have hunmarked := Sql.count_mark_of_plain hplain
  cases s with
  | infixOp op =>
    have hmark : Sql.Quoteless " ?)" := by decide
    have hopening : Sql.Quoteless "(" := by decide
    have hblank : Sql.Quoteless " " := by decide
    obtain ⟨ts, hlex, hreads⟩ := h.lex
    refine ⟨(((hopening.append h.quoteless).append hblank).append hquoteless).append hmark,
      by simp [Strategy.operators], ?_⟩
    refine ⟨_, _, ?_, .group hlex hs (lexes_placeholder d _).blank, hreads.group _ _ _⟩
    have hcount : op.toList.count '?' = 0 := hunmarked
    simp [Strategy.apply, Strategy.operators, numbered_append, numbered, numbered_of_count hcount,
      hcount]
  | call name =>
    have hopening : Sql.Quoteless "(" := by decide
    have hclosing : Sql.Quoteless ")" := by decide
    obtain ⟨ts, hlex, hreads⟩ := h.lex
    refine ⟨(((hquoteless.append hopening).append h.quoteless).append
      (quoteless_marks count)).append hclosing, by simp [Strategy.operators], ?_⟩
    refine ⟨_, _, ?_, .call (.word hs.1 (List.all_eq_true.1 hs.2)) hlex lex_of_mem_marks,
      hreads.call _ _ _⟩
    have hcount : name.toList.count '?' = 0 := hunmarked
    have hmarks := numbered_marks (d := d) (index + text.toList.count '?') count
    simpa [Strategy.apply, Strategy.operators, numbered_append, numbered, numbered_of_count hcount,
      hcount] using hmarks
  | prefixOp op =>
    obtain ⟨cs, ts, hwritten, hlexes, hreads⟩ := h.operand
    refine ⟨hquoteless.append h.quoteless, ?_, cs, ts, ?_, hlexes, hreads⟩
    · simpa [Strategy.operators] using ⟨hs, h.operators⟩
    · have hcount : op.toList.count '?' = 0 := hunmarked
      simp [Strategy.apply, Strategy.operators, numbered_append, numbered_of_count hcount, hcount,
        hwritten]

end Prefixed

/-- The functions that PostgreSQL writes as an operator in front. -/
def Expression.prefixFunctions : List Function :=
  [.squareRoot, .absolute, .bitNot]

/-- The functions that PostgreSQL writes as an infix operator which binds more tightly than those. -/
def Expression.tightFunctions : List Function :=
  [.plus, .minus, .times, .divided, .modulo, .power]

/-- Whether PostgreSQL takes the operator of `f` in front of a column and that of `g` around both for one
operator, or reads `g` as a part of what `f` is applied to. -/
def Expression.Captures (f g : Function) : Prop :=
  f ∈ prefixFunctions ∧ (g ∈ prefixFunctions ∨ g ∈ tightFunctions)

instance (f g : Function) : Decidable (Captures f g) :=
  inferInstanceAs (Decidable (_ ∧ _))

def Strategy.Listed (f : Function) : Strategy → Prop
  | .prefixOp _ => f ∈ prefixFunctions ∧ f ∉ tightFunctions
  | .infixOp op =>
    f ∉ prefixFunctions ∧
      if f ∈ tightFunctions then op.toList ∈ tightOperators else op.toList ∈ looseOperators
  | .call _ => False

instance (f : Function) (s : Strategy) : Decidable (s.Listed f) := by
  cases s <;> unfold Strategy.Listed <;> infer_instance

theorem Strategy.listed {f : Function} {s : Strategy} (h : f.strategy? .postgres = some s) :
    s.Listed f := by
  have all : ∀ s ∈ f.strategy? .postgres, s.Listed f := by
    cases f <;> decide
  exact all s h

/-- Whether prefix operators in front of an operand are read as they are written, and the operand is the
expected one. -/
def Expression.Faithful (d : Dialect) (ops : List (List Char)) (core expected : Term) : Prop :=
  core = expected ∧ (d = .postgres → ops.length ≤ 1)

section Faithful

variable {p : Precedence} {ops : List (List Char)} (core expected : Term)

theorem Expression.wrap_glued_eq_iff (hops : ∀ op ∈ ops, op ∈ prefixOperators d) :
    wrap (glued d ops) core = wrap ops expected ↔ Faithful d ops core expected := by
  by_cases hd : d = .postgres
  · subst hd
    match ops with
    | [] => simp [glued, wrap, Faithful]
    | [op] => simp [glued, wrap, Faithful]
    | op :: next :: rest =>
      have hnext : next ≠ [] := ne_nil_of_mem (hops next (by simp))
      simp [glued, wrap, Faithful, hnext]
  · simp [glued_of_ne hd, Faithful, hd]

theorem Expression.infixLevel_le_iff (hp : p.Documented .postgres) {o : List Char}
    (ho : o ∈ prefixOperators .postgres) {f : Function} {op : String}
    (hf : f.strategy? .postgres = some (.infixOp op)) :
    p.infixLevel op.toList ≤ p.prefixLevel o ↔ f ∉ tightFunctions := by
  have hlevels := hp o ho
  have hlisted := (Strategy.listed hf).2
  by_cases htight : f ∈ tightFunctions
  · rw [if_pos htight] at hlisted
    have hlt := hlevels.1 _ hlisted
    exact iff_of_false (Nat.not_le.2 hlt) (fun hnot => hnot htight)
  · rw [if_neg htight] at hlisted
    exact iff_of_true (hlevels.2 _ hlisted) htight

theorem Expression.infixed_eq_iff (hp : p.Documented d) (hops : ∀ op ∈ ops, op ∈ prefixOperators d)
    {f : Function} {op : String} (hf : f.strategy? d = some (.infixOp op)) (right : Term) :
    infixed p (glued d ops) core op.toList right = .infixOp op.toList (wrap ops expected) right ↔
      Faithful d ops core expected ∧ (d = .postgres → ops ≠ [] → f ∉ tightFunctions) := by
  by_cases hd : d = .postgres
  · subst hd
    cases ops with
    | nil => simp [glued, infixed, waiting, reduce, close, wrap, Faithful]
    | cons o rest =>
      have hwrap := wrap_glued_eq_iff (d := .postgres) core expected hops
      rw [glued] at hwrap ⊢
      rw [infixed_singleton_iff, hwrap, and_comm]
      refine and_congr_right fun hfaithful => ?_
      have hlone : rest = [] := by simpa using hfaithful.2 rfl
      have hle := infixLevel_le_iff hp (hops o (by simp)) hf
      simpa [hlone] using hle
  · have hle : ∀ o ∈ ops, p.infixLevel op.toList ≤ p.prefixLevel o := by
      intro o ho
      have hmem := hops o ho
      cases d
      · exact absurd rfl hd
      all_goals exact hp o hmem op.toList
    rw [glued_of_ne hd, infixed_of_le hle]
    simp [Faithful, hd]

/-- The operand that is meant with one more function; `index` placeholders have been written before
it. -/
def Strategy.meant (d : Dialect) (index count : Nat) (ops : List (List Char)) (t : Term) :
    Strategy → Term
  | .prefixOp _ => t
  | s => s.term d index count (wrap ops t)

theorem Strategy.wrap_meant (s : Strategy) (index count : Nat) (t : Term) :
    wrap (s.operators ops) (s.meant d index count ops t) = s.term d index count (wrap ops t) := by
  cases s <;> rfl

/-- One more function is read as it is written, unless one written in front before it captures it. -/
theorem Expression.faithful_operand_iff (hp : p.Documented d)
    (hops : ∀ op ∈ ops, op ∈ prefixOperators d) {f : Function} {s : Strategy} (hf : f.strategy? d = some s) (index count : Nat) :
    Faithful d (s.operators ops) (s.operand d p index count ops core)
        (s.meant d index count ops expected) ↔
      Faithful d ops core expected ∧
        (d = .postgres → ops ≠ [] → ¬ (f ∈ prefixFunctions ∨ f ∈ tightFunctions)) := by
  have hlisted (hd : d = .postgres) : s.Listed f := by
    subst hd
    exact Strategy.listed hf
  cases s with
  | infixOp op =>
    have hinfix := infixed_eq_iff core expected hp hops hf (.word (d.placeholder (index + 1)).toList)
    have hloose : (d = .postgres → ops ≠ [] → f ∉ tightFunctions) ↔
        (d = .postgres → ops ≠ [] → ¬ (f ∈ prefixFunctions ∨ f ∈ tightFunctions)) := by
      refine forall_congr' fun hd => ?_
      simp [(hlisted hd).1]
    rw [← hloose, ← hinfix]
    simp [Faithful, Strategy.operators, Strategy.operand, Strategy.meant, Strategy.term]
  | call name =>
    have hd : d ≠ .postgres := hlisted
    have hwrap := wrap_glued_eq_iff core expected hops
    simp only [Faithful, Strategy.operators, Strategy.operand, Strategy.meant, Strategy.term] at *
    simp [hwrap, hd]
  | prefixOp op =>
    by_cases hd : d = .postgres
    · cases ops <;> simp [Faithful, Strategy.operators, Strategy.operand, Strategy.meant, hd,
        (hlisted hd).1]
    · simp [Faithful, Strategy.operand, Strategy.meant, hd]

end Faithful

/-- The functions applied to a term, each to the ones before it; `index` placeholders have been written
before them. -/
def FunctionCall.nested (d : Dialect) : Nat → List FunctionCall → Term → Option Term
  | _, [], t => some t
  | index, call :: rest, t => do
    let s ← call.function.strategy? d
    let count := call.values.length
    nested d (index + s.placeholders count) rest (s.term d index count t)

theorem Strategy.count_apply {s : Strategy} (hplain : Sql.Plain s.word) (text : String)
    (count : Nat) :
    (s.apply text count).toList.count '?' = text.toList.count '?' + s.placeholders count := by
  have hword := Sql.count_mark_of_plain hplain
  have hmarks : (String.join (List.replicate count ", ?")).toList.count '?' = count := by
    induction count with
    | zero => rfl
    | succ count ih =>
      rw [List.replicate_succ, String.join_cons, String.toList_append, List.count_append, ih]
      exact Nat.add_comm 1 count
  cases s with
  | infixOp op =>
    have hop : op.toList.count '?' = 0 := hword
    simp [apply, placeholders, hop]
  | call name =>
    have hname : name.toList.count '?' = 0 := hword
    simpa [apply, placeholders, hname] using hmarks
  | prefixOp op =>
    have hop : op.toList.count '?' = 0 := hword
    simp [apply, placeholders, hop]

/-- Whether no function of a list captures the next one; the first one stands around prefix operators. -/
def Expression.Uncaptured (ops : List (List Char)) (fs : List Function) : Prop :=
  (∀ f ∈ fs.head?, ops ≠ [] → ¬ (f ∈ prefixFunctions ∨ f ∈ tightFunctions)) ∧
    fs.IsChain fun f g => ¬ Captures f g

theorem Expression.uncaptured_cons_iff {ops : List (List Char)} {f : Function} {fs : List Function}
    {s : Strategy} (hf : f.strategy? .postgres = some s) :
    Uncaptured ops (f :: fs) ↔
      (ops ≠ [] → ¬ (f ∈ prefixFunctions ∨ f ∈ tightFunctions)) ∧
        Uncaptured (s.operators ops) fs := by
  have hlisted := Strategy.listed hf
  have hoperators : s.operators ops ≠ [] ↔ f ∈ prefixFunctions := by
    cases s with
    | infixOp op => simp [Strategy.operators, hlisted.1]
    | call name => exact hlisted.elim
    | prefixOp op => simp [Strategy.operators, hlisted.1]
  simp only [Uncaptured, List.head?_cons, Option.mem_some_iff, forall_eq', List.isChain_cons, hoperators,
    Captures, not_and]

variable {p : Precedence} {index : Nat} {text : String} {ops : List (List Char)}
  {core : Term}

/-- What functions around a field are read as, and when it is what they mean. -/
theorem FunctionCall.read_applyAll (hp : p.Documented d) {calls : List FunctionCall}
    (hcalls : ∀ call ∈ calls, (call.function.strategy? d).isSome = true)
    (h : Prefixed d p index text ops core) (expected : Term) (values : List Value) :
    ∃ text' values' t t', applyAll d calls text values = .ok (text', values') ∧
      Sql.Quoteless text' ∧
      nested d (index + text.toList.count '?') calls (wrap ops expected) = some t ∧
      Expression.read p (lex d .blank (numbered d.placeholder index text'.toList)) = some t' ∧
      (t' = t ↔ Faithful d ops core expected ∧
        (d = .postgres → Uncaptured ops (calls.map (·.function)))) := by
  -- On the functions still to be written. What stands already is a prefixed operand; what it is read as
  -- and what it means go on from there side by side.
  induction calls generalizing text values ops core expected with
  | nil =>
    refine ⟨text, values, _, _, rfl, h.quoteless, rfl, h.read, ?_⟩
    rw [wrap_glued_eq_iff core expected h.operators]
    simp [Uncaptured]
  | cons call rest ih =>
    rw [List.forall_mem_cons] at hcalls
    obtain ⟨s, hs⟩ := Option.isSome_iff_exists.1 hcalls.1
    have hplain := Strategy.plain_word hs
    have hnext := h.apply hplain (Strategy.legible hs) call.values.length
    have hcount := Strategy.count_apply hplain text call.values.length
    have hfaithful := faithful_operand_iff core expected hp h.operators hs
      (index + text.toList.count '?') call.values.length
    obtain ⟨text', values', t, t', hok, hquoteless, hnested, hread, hiff⟩ :=
      ih hcalls.2 hnext
        (s.meant d (index + text.toList.count '?') call.values.length ops expected)
        (values ++ call.values.take (s.placeholders call.values.length))
    rw [Strategy.wrap_meant, hcount, ← Nat.add_assoc] at hnested
    refine ⟨text', values', t, t', ?_, hquoteless, ?_, hread, ?_⟩
    · rw [applyAll, bind_eq_ok]
      exact ⟨s, by simp [Function.resolve, hs], hok⟩
    · simpa [nested, hs] using hnested
    · rw [hiff, hfaithful, List.map_cons]
      by_cases hd : d = .postgres
      · subst hd
        simp [uncaptured_cons_iff hs, and_assoc]
      · simp [hd]

abbrev Expression.Identifier (s : String) : Prop :=
  Spelled (fun c => Text.isNameChar c || c == '.') s

theorem Expression.plain_of_identifier {s : String} (h : Identifier s) : Sql.Plain s := by
  intro c hc
  obtain hname | hdot := Bool.or_eq_true_iff.1 (h c hc)
  · exact nameClass_isPlain.name c hname
  · rw [beq_iff_eq.1 hdot]
    exact nameClass_isPlain.dot

theorem Expression.Prefixed.ofIdentifier {column : String} (hne : column.toList ≠ [])
    (h : Identifier column) (index : Nat) : Prefixed d p index column [] (.word column.toList) where
  quoteless := Sql.quoteless_of_plain (plain_of_identifier h)
  operators := by simp
  operand := by
    have hword : ∀ c ∈ column.toList, isWord d c = true := by
      intro c hc
      have hname := h c hc
      simp only [isWord, hname, Bool.true_or]
    refine ⟨column.toList, [.word column.toList], ?_, .word hne hword, .word _⟩
    rw [numbered_of_count (Sql.count_mark_of_plain (plain_of_identifier h))]
    rfl

/-- The column of a field with its functions is read back as a term, wherever it stands in a statement. It
is the functions applied to the column, each to the ones before it, if and only if the dialect is not
PostgreSQL or no function captures the next one. -/
theorem Plan.read_column (plan : Plan) (hp : p.Documented plan.dialect) {t : Table}
    (ht : Identifier t.aliasName) {f : Field} (hcolumn : Identifier f.columnName)
    (hf : f.Resolves plan.dialect) (index : Nat) :
    ∃ q meant term, plan.column t f = .ok q ∧
      FunctionCall.nested plan.dialect index f.functions (.word (t.column f.columnName).toList) =
        some meant ∧
      Expression.read p (lex plan.dialect .blank
        (Sql.renderFrom plan.dialect.placeholder index q.parts).toList) = some term ∧
      (term = meant ↔ (plan.dialect = .postgres →
        (f.functions.map (·.function)).IsChain fun f g => ¬ Captures f g)) := by
  have hdot : Identifier "." := by decide
  have hidentifier : Identifier (t.column f.columnName) := (ht.append hdot).append hcolumn
  have hcount := Sql.count_mark_of_plain (plain_of_identifier hidentifier)
  have hchain : Prefixed plan.dialect p index (t.column f.columnName) []
      (.word (t.column f.columnName).toList) := .ofIdentifier (by simp [Table.column]) hidentifier index
  obtain ⟨text, values, meant, term, hok, hquoteless, hnested, hread, hiff⟩ :=
    FunctionCall.read_applyAll hp hf hchain (.word (t.column f.columnName).toList) []
  refine ⟨.fragment text values, meant, term, ?_, ?_, ?_, ?_⟩
  · rw [column, Field.applied, bind_eq_ok]
    exact ⟨_, hok, rfl⟩
  · rw [hcount] at hnested
    exact hnested
  · rw [Sql.fragment, Sql.split, Sql.renderFrom_splitFrom_quoteless hquoteless]
    simpa using hread
  · rw [hiff]
    simp [Faithful, Uncaptured]

namespace Sample

/-- Levels that tell PostgreSQL's operators apart as far as its manual does. -/
def precedence : Precedence where
  prefixLevel _ := 0
  infixLevel op := if op ∈ tightOperators then 1 else 0

theorem documented_precedence : precedence.Documented .postgres := by
  show ∀ op ∈ prefixOperators .postgres, _
  decide

def sellers (d : Dialect) : Plan :=
  .ofConditions d seller []

/-- The name of a seller under functions. -/
def nameUnder (calls : List FunctionCall) : Field :=
  { sellerName with functions := calls }

end Sample

/-- A root around a sum, with a bitwise AND around the root. -/
theorem Plan.read_column_sumRootAnd :
    ∃ q meant, (Sample.sellers .postgres).column (.root Sample.seller)
        (Sample.nameUnder [⟨.plus, [.int 1]⟩, ⟨.squareRoot, []⟩, ⟨.bitAnd, [.int 2]⟩]) = .ok q ∧
      FunctionCall.nested .postgres 0 [⟨.plus, [.int 1]⟩, ⟨.squareRoot, []⟩, ⟨.bitAnd, [.int 2]⟩]
        (.word "sellers.name".toList) = some meant ∧
      Expression.read Sample.precedence (lex .postgres .blank
        (Sql.renderFrom Dialect.postgres.placeholder 0 q.parts).toList) = some meant := by
  obtain ⟨q, meant, term, hq, hmeant, hterm, hiff⟩ :=
    Plan.read_column (p := Sample.precedence) (Sample.sellers .postgres)
      (t := .root Sample.seller)
      (f := Sample.nameUnder [⟨.plus, [.int 1]⟩, ⟨.squareRoot, []⟩, ⟨.bitAnd, [.int 2]⟩])
      Sample.documented_precedence (by decide) (by decide +kernel)
      (by unfold Field.Resolves; decide) 0
  have hsame := hiff.2 fun _ => by decide
  have hname : (Table.root Sample.seller).column
      (Sample.nameUnder [⟨.plus, [.int 1]⟩, ⟨.squareRoot, []⟩, ⟨.bitAnd, [.int 2]⟩]).columnName =
      "sellers.name" := by decide +kernel
  rw [hname] at hmeant
  exact ⟨q, meant, hq, hmeant, hsame ▸ hterm⟩

/-- A sum around a root is read as the root of the sum. -/
theorem Plan.read_column_rootSum :
    ((Sample.sellers .postgres).column (.root Sample.seller)
        (Sample.nameUnder [⟨.squareRoot, []⟩, ⟨.plus, [.int 1]⟩])).toOption.map (·.render .postgres) =
      some "(|/sellers.name + $1)" ∧
    ¬ ∀ (plan : Plan) (p : Precedence) (t : Table) (f : Field) (index : Nat),
      p.Documented plan.dialect → Identifier t.aliasName → Identifier f.columnName →
      f.Resolves plan.dialect →
      (∀ call ∈ f.functions, call.values.length = call.function.arity) →
      ∃ q meant, plan.column t f = .ok q ∧
        FunctionCall.nested plan.dialect index f.functions (.word (t.column f.columnName).toList) =
          some meant ∧
        Expression.read p (lex plan.dialect .blank
          (Sql.renderFrom plan.dialect.placeholder index q.parts).toList) = some meant := by
  refine ⟨by decide +kernel, fun h => ?_⟩
  obtain ⟨q, meant, hq, hmeant, hread⟩ := h (Sample.sellers .postgres) Sample.precedence
    (.root Sample.seller) (Sample.nameUnder [⟨.squareRoot, []⟩, ⟨.plus, [.int 1]⟩]) 0
    Sample.documented_precedence (by decide) (by decide +kernel)
    (by unfold Field.Resolves; decide) (by decide)
  obtain rfl := Except.ok.inj hq
  obtain rfl := Option.some.inj hmeant
  cases hread

end Joinery
