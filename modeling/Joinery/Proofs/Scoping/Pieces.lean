import Joinery.Proofs.Rows.World
import Joinery.Proofs.Vanishing

/-! Filters in pieces.
A written predicate is cut into its columns, the raw SQL in it, and the text between. A piece knows the name
of the table that it is written with, and the names of the tests for related rows around it. Put together,
the pieces are the text that the predicate is written as. -/
namespace Joinery

inductive Purpose where
  | compared
  /-- Another field is compared with it. -/
  | operand (f : Field)
  /-- It relates the rows of a test to those of its parent. -/
  | key
  /-- It marks deleted rows. -/
  | guard
deriving Repr

inductive Piece where
  | text (s : String)
  /-- A column within tests, the innermost first. -/
  | column (tests : List String) (purpose : Purpose) (aliasName name : String)
  /-- Raw SQL in the scope of a table. -/
  | raw (tests : List String) (aliasName sql : String)
deriving Repr

namespace Piece

def written : Piece → String
  | .text s => s
  | .column _ _ aliasName name => aliasName ++ "." ++ name
  | .raw _ aliasName sql => inScope sql aliasName

def textOf (ps : List Piece) : String :=
  String.join (ps.map written)

def separated (separator : String) (parts : List (List Piece)) : List Piece :=
  [.text separator].intercalate parts

@[simp] theorem textOf_nil : textOf [] = "" := rfl

@[simp] theorem textOf_cons (p : Piece) (ps : List Piece) :
    textOf (p :: ps) = p.written ++ textOf ps := by
  simp [textOf]

@[simp] theorem textOf_append (ps qs : List Piece) : textOf (ps ++ qs) = textOf ps ++ textOf qs := by
  simp [textOf]

@[simp] theorem textOf_separated (separator : String) (parts : List (List Piece)) :
    textOf (separated separator parts) = String.intercalate separator (parts.map textOf) := by
  induction parts with
  | nil => rfl
  | cons part rest ih =>
    cases rest with
    | nil => simp [separated]
    | cons next rest =>
      rw [separated] at ih
      rw [separated, List.intercalate_cons_cons, textOf_append, textOf_append, ih]
      simp [written, String.intercalate_cons_of_ne_nil]

theorem textOf_flatMap (before : String) (parts : List (List Piece)) :
    textOf (parts.flatMap fun x => .text before :: x) =
      String.join ((parts.map textOf).map (before ++ ·)) := by
  induction parts with
  | nil => rfl
  | cons part rest ih => simp [ih, written, String.append_assoc]

end Piece

/-! The functions around a column. -/

/-- The texts before and after what a function is applied to. -/
def Strategy.around (s : Strategy) (count : Nat) : String × String :=
  match s with
  | .infixOp op => ("(", " " ++ op ++ " ?)")
  | .call name => (name ++ "(", String.join (List.replicate count ", ?") ++ ")")
  | .prefixOp op => (op, "")

theorem Strategy.apply_eq (s : Strategy) (inner : String) (count : Nat) :
    s.apply inner count = (s.around count).1 ++ inner ++ (s.around count).2 := by
  cases s <;> simp [apply, around, String.append_assoc]

def FunctionCall.around (d : Dialect) : List FunctionCall → Except QueryError (String × String)
  | [] => .ok ("", "")
  | call :: rest => do
    let strategy ← call.function.resolve d
    let outer ← around d rest
    let inner := strategy.around call.values.length
    return (outer.1 ++ inner.1, inner.2 ++ outer.2)

theorem FunctionCall.applyAll_eq (d : Dialect) (calls : List FunctionCall) (text : String)
    (values : List Value) : (applyAll d calls text values).map Prod.fst =
      (around d calls).map fun texts => texts.1 ++ text ++ texts.2 := by
  induction calls generalizing text values with
  | nil => simp [applyAll, around, Except.map]
  | cons call rest ih =>
    rw [applyAll, around]
    cases call.function.resolve d with
    | error e => rfl
    | ok strategy =>
      have hrest := ih (strategy.apply text call.values.length)
        (values ++ call.values.take (strategy.placeholders call.values.length))
      simp only [bind, Except.bind] at hrest ⊢
      rw [hrest]
      cases around d rest with
      | error e => rfl
      | ok outer => simp [Except.map, pure, Except.pure, Strategy.apply_eq, String.append_assoc]

def Field.pieces (d : Dialect) (f : Field) (column : Piece) : Except QueryError (List Piece) := do
  let texts ← FunctionCall.around d f.functions
  return [.text texts.1, column, .text texts.2]

namespace Plan

/-! Predicates in pieces. -/

def operandPieces (p : Plan) (tests : List String) : Operand → Except QueryError (List Piece)
  | .value _ => .ok [.text "?"]
  | .field f => do
    let aliasName ← p.aliasFor f
    f.pieces p.dialect (.column tests (.operand f) aliasName f.columnName)

def rightHandPieces (o : Operator) (operands : List (List Piece)) : Except QueryError (List Piece) :=
  match o with
  | .isNull => .ok []
  | .isNotNull => .ok []
  | .between => range
  | .notBetween => range
  | .inList => list
  | .notInList => list
  | _ => .ok (operands.flatMap fun x => .text " " :: x)
where
  range : Except QueryError (List Piece) :=
    match operands with
    | [first, last] => .ok (.text " " :: first ++ .text " AND " :: last)
    | _ => .error (.malformed (.noRange o.name))
  list : Except QueryError (List Piece) :=
    .ok (.text " (" :: Piece.separated ", " operands ++ [.text ")"])

def comparisonPieces (p : Plan) (lhs : List Piece) (o : Operator) (operands : List (List Piece))
    (escape : Option Value) : Except QueryError (List Piece) := do
  let token ← o.resolve p.dialect
  let negation := if o.negatedOn p.dialect then "NOT " else ""
  let rhs ← rightHandPieces o operands
  let compared := .text negation :: lhs ++ .text (" " ++ token) :: rhs
  match escape with
  | none => return compared
  | some _ =>
    let escapeToken ← Operator.escape.resolve p.dialect
    return compared ++ [.text (" " ++ escapeToken ++ " ?")]

def connectedPieces (c : Connective) (token : String) (written : List (List Piece)) :
    Except QueryError (List Piece) :=
  if written.isEmpty then
    if c.mayVanish then .ok [] else .error (.malformed (.noCondition c.operator.name))
  else
    match c with
    | .not =>
      .ok (.text ("(" ++ token ++ " (") ::
        Piece.separated (" " ++ Operator.and.token ++ " ") written ++ [.text "))"])
    | _ => .ok (.text "(" :: Piece.separated (" " ++ token ++ " ") written ++ [.text ")"])

def guardPieces (tests : List String) (t : Table) (affected : String → Bool) : List (List Piece) :=
  (t.guardedMark? affected).toList.map fun mark =>
    [.column tests .guard t.aliasName mark, .text " IS NULL"]

def subqueryPieces (tests : List String) (t parent : Table) (r : Relation)
    (conditions : List (List Piece)) : List Piece :=
  let keys := [.column tests .key t.aliasName r.foreignColumn, .text " = ",
    .column tests .key parent.aliasName r.localColumn]
  .text ("EXISTS (SELECT 1 FROM " ++ r.target.table ++ " " ++ t.aliasName ++ " WHERE ") ::
    Piece.separated " AND " (keys :: conditions) ++ [.text ")"]

mutual

def predicatePieces (p : Plan) (tests : List String) (t : Table) :
    Predicate → Except QueryError (List Piece)
  | .compare f o values escape => do
    let lhs ← f.pieces p.dialect (.column tests .compared t.aliasName f.columnName)
    p.comparisonPieces lhs o (values.map fun _ => [.text "?"]) escape
  | .compareFields f o operands => do
    let lhs ← f.pieces p.dialect (.column tests .compared t.aliasName f.columnName)
    let operands ← operands.mapM (p.operandPieces tests)
    p.comparisonPieces lhs o operands none
  | .connect c conditions => do
    let token ← c.operator.resolve p.dialect
    connectedPieces c token (← predicatesPieces p tests t conditions)
  | .related r conditions => do
    let table := t.reach r
    let inner := table.aliasName :: tests
    let written ← predicatesPieces p inner table conditions
    let live := guardPieces inner table fun mark => conditions.any (·.affects mark)
    return subqueryPieces inner table t r (written ++ live)
  | .raw sql _ => .ok [.raw tests t.aliasName sql]

def predicatesPieces (p : Plan) (tests : List String) (t : Table) :
    List Predicate → Except QueryError (List (List Piece))
  | [] => return []
  | c :: rest => do
    let q ← predicatePieces p tests t c
    let written ← predicatesPieces p tests t rest
    return if (Piece.textOf q).isEmpty then written else q :: written

end

end Plan

/-! The text of the pieces. -/

theorem map_bind_congr {ε α β γ α' β' γ' : Type} {x : Except ε α} {y : Except ε β} {f : α → γ}
    {g : β → γ} {k : α → Except ε α'} {l : β → Except ε β'} {f' : α' → γ'} {g' : β' → γ'}
    (h : x.map f = y.map g) (hnext : ∀ a b, y = .ok b → f a = g b → (k a).map f' = (l b).map g') :
    (x >>= k).map f' = (y >>= l).map g' := by
  cases x with
  | error e =>
    cases y with
    | error e' => simpa [Except.map, bind, Except.bind] using h
    | ok b => simp [Except.map] at h
  | ok a =>
    cases y with
    | error e' => simp [Except.map] at h
    | ok b => exact hnext a b rfl (by simpa [Except.map] using h)

theorem map_bind_left {ε α α' β' γ' : Type} {x : Except ε α} {k : α → Except ε α'}
    {l : α → Except ε β'} {f' : α' → γ'} {g' : β' → γ'} (h : ∀ a, (k a).map f' = (l a).map g') :
    (x >>= k).map f' = (x >>= l).map g' :=
  map_bind_congr (f := id) (g := id) rfl fun a b _ hab => (show a = b from hab) ▸ h a

theorem map_mapM_congr {ε α β γ δ : Type} {k : α → Except ε β} {l : α → Except ε γ} {f : β → δ}
    {g : γ → δ} {xs : List α} (h : ∀ x ∈ xs, (k x).map f = (l x).map g) :
    (xs.mapM k).map (List.map f) = (xs.mapM l).map (List.map g) := by
  induction xs with
  | nil => rfl
  | cons x rest ih =>
    have hrest := ih fun y hy => h y (by simp [hy])
    rw [List.mapM_cons, List.mapM_cons]
    refine map_bind_congr (h x (by simp)) fun a b _ hab => ?_
    refine map_bind_congr hrest fun as bs _ habs => ?_
    simp [Except.map, pure, Except.pure, hab, habs]

namespace Plan

variable {p : Plan} {t : Table}

theorem textOf_pieces {d : Dialect} {f : Field} (column : Piece) :
    (f.pieces d column).map Piece.textOf = (f.applied d column.written).map Sql.toText := by
  have hcalls := FunctionCall.applyAll_eq d f.functions column.written []
  refine map_bind_congr hcalls.symm fun texts written _ h => ?_
  simpa [Except.map, pure, Except.pure, Piece.written, String.append_assoc] using h

theorem textOf_operandPieces (tests : List String) (x : Operand) :
    (p.operandPieces tests x).map Piece.textOf = (p.operand x).map Sql.toText := by
  cases x with
  | value v => simp [operandPieces, operand, Except.map, Piece.written]
  | field f => exact map_bind_left fun aliasName => textOf_pieces _

theorem toText_foldl (qs : List Sql) (q : Sql) :
    (qs.foldl (fun q x => q ++ .text " " ++ x) q).toText =
      q.toText ++ String.join ((qs.map Sql.toText).map (" " ++ ·)) := by
  induction qs generalizing q with
  | nil => simp
  | cons x rest ih =>
    rw [List.foldl_cons, ih]
    simp [String.append_assoc]

theorem textOf_rightHandPieces (o : Operator) {parts : List (List Piece)} {operands : List Sql}
    (h : parts.map Piece.textOf = operands.map Sql.toText) :
    (rightHandPieces o parts).map Piece.textOf = (rightHandSide o operands).map Sql.toText := by
  have hrange : (rightHandPieces.range o parts).map Piece.textOf =
      (rightHandSide.range o operands).map Sql.toText := by
    have hlength : parts.length = operands.length := by simpa using congrArg List.length h
    match parts, operands with
    | [], [] => rfl
    | [_], [_] => rfl
    | [part, part'], [q, q'] =>
      simp only [List.map_cons, List.cons.injEq] at h
      simp [rightHandPieces.range, rightHandSide.range, Except.map, Piece.written, h.1, h.2.1,
        String.append_assoc]
    | _ :: _ :: _ :: _, _ :: _ :: _ :: _ => rfl
  have hlist : (rightHandPieces.list parts).map Piece.textOf =
      (rightHandSide.list operands).map Sql.toText := by
    simp [rightHandPieces.list, rightHandSide.list, Except.map, Piece.written, Sql.toText_joined, h,
      String.append_assoc]
  have hothers : Piece.textOf (parts.flatMap fun x => Piece.text " " :: x) =
      (operands.foldl (fun q x => q ++ Sql.text " " ++ x) Sql.empty).toText := by
    rw [toText_foldl, Piece.textOf_flatMap, h, Sql.toText_empty, String.empty_append]
  unfold rightHandPieces rightHandSide
  split
  · rfl
  · rfl
  · exact hrange
  · exact hrange
  · exact hlist
  · exact hlist
  · simpa [Except.map] using hothers

theorem textOf_comparisonPieces {lhs : List Piece} {lhs' : Sql} (hlhs : Piece.textOf lhs = lhs'.toText)
    (o : Operator) {parts : List (List Piece)} {operands : List Sql}
    (h : parts.map Piece.textOf = operands.map Sql.toText) (escape : Option Value) :
    (p.comparisonPieces lhs o parts escape).map Piece.textOf =
      (p.comparison lhs' o operands escape).map Sql.toText := by
  refine map_bind_left fun token => map_bind_congr (textOf_rightHandPieces o h) fun rhs rhs' _ hrhs => ?_
  have hnegation : (if o.negatedOn p.dialect then Sql.text "NOT " else .empty).toText =
      if o.negatedOn p.dialect then "NOT " else "" := by
    split <;> simp
  cases escape with
  | none =>
    simp [Except.map, pure, Except.pure, Piece.written, hlhs, hrhs, hnegation, String.append_assoc]
  | some character =>
    refine map_bind_left fun escapeToken => ?_
    simp [Except.map, pure, Except.pure, Piece.written, hlhs, hrhs, hnegation, String.append_assoc]

theorem textOf_connectedPieces (c : Connective) (token : String) {parts : List (List Piece)}
    {written : List Sql} (h : parts.map Piece.textOf = written.map Sql.toText) :
    (connectedPieces c token parts).map Piece.textOf = (connected c token written).map Sql.toText := by
  have hempty : parts.isEmpty = written.isEmpty := by
    simpa using congrArg List.isEmpty h
  unfold connectedPieces connected
  rw [hempty]
  split
  · split <;> rfl
  · cases c <;> simp [Except.map, Piece.written, Sql.toText_joined, h, String.append_assoc]

theorem textOf_guardPieces (tests : List String) (t : Table) (affected : String → Bool) :
    (guardPieces tests t affected).map Piece.textOf = (t.liveness? affected).toList := by
  rw [guardPieces, Table.liveness?_eq]
  cases t.guardedMark? affected with
  | none => rfl
  | some mark => simp [Piece.written, Table.column, String.append_assoc]

theorem textOf_subqueryPieces (tests : List String) (parent : Table) (r : Relation)
    {parts : List (List Piece)} {written : List Sql} (h : parts.map Piece.textOf = written.map Sql.toText)
    (affected : String → Bool) :
    Piece.textOf (subqueryPieces tests (parent.reach r) parent r
        (parts ++ guardPieces tests (parent.reach r) affected)) =
      (subquery (parent.reach r) parent r written ((parent.reach r).liveness? affected)).toText := by
  have hkeys : Piece.textOf [.column tests .key (parent.reach r).aliasName r.foreignColumn, .text " = ",
      .column tests .key parent.aliasName r.localColumn] = parent.keyEquality r := by
    simp [Piece.written, Table.keyEquality, Table.column, String.append_assoc]
  simp [subqueryPieces, subquery, Sql.toText_joined, Piece.written, textOf_guardPieces, hkeys, h,
    String.append_assoc, Function.comp_def]

theorem toText_isEmpty_predicate {c : Predicate} {q : Sql} (h : p.predicate t c = .ok q) :
    q.toText.isEmpty = q.isEmpty := by
  have hwritten (htext : q.toText ≠ "") : q.toText.isEmpty = q.isEmpty := by
    rw [Sql.isEmpty_of_toText_ne htext]
    simpa using htext
  cases c with
  | compare f o values escape =>
    obtain ⟨lhs, -, h⟩ := predicate_compare_eq_ok.1 h
    exact hwritten (comparison_toText_ne h)
  | compareFields f o operands =>
    obtain ⟨lhs, -, written, -, h⟩ := predicate_compareFields_eq_ok.1 h
    exact hwritten (comparison_toText_ne h)
  | connect c ps =>
    obtain ⟨token, -, written, -, h⟩ := predicate_connect_eq_ok.1 h
    unfold connected at h
    split at h
    · split at h
      · rw [← Except.ok.inj h]
        rfl
      · cases h
    · refine hwritten ?_
      split at h
      · rw [← Except.ok.inj h]
        simp
      · rw [← Except.ok.inj h]
        simp
  | related r ps =>
    obtain ⟨written, -, rfl⟩ := predicate_related_eq_ok.1 h
    exact hwritten (by simp [subquery])
  | raw sql values =>
    rw [predicate] at h
    rw [← pure_eq_ok.1 h, Sql.toText_fragmentFor, Bool.eq_iff_iff, Sql.isEmpty_fragmentFor]
    simp

mutual

/-- The pieces of a predicate are the text that it is written as. -/
theorem textOf_predicatePieces (tests : List String) (t : Table) :
    (c : Predicate) → (p.predicatePieces tests t c).map Piece.textOf = (p.predicate t c).map Sql.toText
  | .compare f o values escape => by
    rw [predicatePieces, predicate]
    refine map_bind_congr (textOf_pieces _) fun lhs lhs' _ hlhs => ?_
    exact textOf_comparisonPieces hlhs o (by simp [Function.comp_def, Piece.written]) escape
  | .compareFields f o operands => by
    rw [predicatePieces, predicate]
    refine map_bind_congr (textOf_pieces _) fun lhs lhs' _ hlhs => ?_
    refine map_bind_congr (map_mapM_congr fun x _ => textOf_operandPieces tests x) fun xs ys _ hxs => ?_
    exact textOf_comparisonPieces hlhs o hxs none
  | .connect c ps => by
    rw [predicatePieces, predicate]
    refine map_bind_left fun token => ?_
    exact map_bind_congr (textOf_predicatesPieces tests t ps) fun parts written _ h =>
      textOf_connectedPieces c token h
  | .related r ps => by
    rw [predicatePieces, predicate]
    refine map_bind_congr (textOf_predicatesPieces _ (t.reach r) ps) fun parts written _ h => ?_
    simp [Except.map, pure, Except.pure, textOf_subqueryPieces _ t r h]
  | .raw sql values => by
    simp [predicatePieces, predicate, Except.map, pure, Except.pure, Piece.written]

theorem textOf_predicatesPieces (tests : List String) (t : Table) :
    (ps : List Predicate) → (p.predicatesPieces tests t ps).map (List.map Piece.textOf) =
      (p.predicates t ps).map (List.map Sql.toText)
  | [] => rfl
  | c :: rest => by
    rw [predicatesPieces, predicates]
    refine map_bind_congr (textOf_predicatePieces tests t c) fun part q hq hpart => ?_
    refine map_bind_congr (textOf_predicatesPieces tests t rest) fun parts written _ hparts => ?_
    rw [hpart, toText_isEmpty_predicate hq]
    cases q.isEmpty <;> simp [Except.map, pure, Except.pure, hpart, hparts]

end

end Plan

/-! The pieces that name a table. -/

namespace Piece

def isText : Piece → Bool
  | .text _ => true
  | _ => false

/-- The columns, and the raw SQL. -/
def named (ps : List Piece) : List Piece :=
  ps.filter fun x => !x.isText

@[simp] theorem named_nil : named [] = [] := rfl

@[simp] theorem named_text (s : String) (ps : List Piece) : named (.text s :: ps) = named ps := rfl

@[simp] theorem named_column (tests : List String) (purpose : Purpose) (aliasName name : String)
    (ps : List Piece) : named (.column tests purpose aliasName name :: ps) =
      .column tests purpose aliasName name :: named ps := rfl

@[simp] theorem named_append (ps qs : List Piece) :
    named (ps ++ qs) = named ps ++ named qs := by
  simp [named]

@[simp] theorem named_separated (separator : String) (parts : List (List Piece)) :
    named (separated separator parts) = parts.flatMap named := by
  induction parts with
  | nil => rfl
  | cons part rest ih =>
    cases rest with
    | nil => simp [separated]
    | cons next rest =>
      rw [separated] at ih
      rw [separated, List.intercalate_cons_cons, named_append, named_append, ih]
      simp

theorem named_flatMap (before : String) (parts : List (List Piece)) :
    named (parts.flatMap fun x => .text before :: x) = parts.flatMap named := by
  induction parts with
  | nil => rfl
  | cons part rest ih => simp [ih]

end Piece

namespace Plan

variable {p : Plan} {t : Table} {tests : List String} {pieces : List Piece}

theorem named_pieces {d : Dialect} {f : Field} {column : Piece}
    (h : f.pieces d column = .ok pieces) : Piece.named pieces = Piece.named [column] := by
  obtain ⟨texts, -, h⟩ := bind_eq_ok.1 h
  rw [← pure_eq_ok.1 h, Piece.named_text, ← List.singleton_append, Piece.named_append]
  simp

theorem named_rightHandPieces {o : Operator} {parts : List (List Piece)}
    (h : rightHandPieces o parts = .ok pieces) : Piece.named pieces ⊆ parts.flatMap Piece.named := by
  have hrange (h : rightHandPieces.range o parts = .ok pieces) :
      Piece.named pieces ⊆ parts.flatMap Piece.named := by
    unfold rightHandPieces.range at h
    split at h
    · simp [← Except.ok.inj h]
    · cases h
  have hlist (h : rightHandPieces.list parts = .ok pieces) :
      Piece.named pieces ⊆ parts.flatMap Piece.named := by
    simp [← Except.ok.inj h]
  unfold rightHandPieces at h
  split at h
  · simp [← Except.ok.inj h]
  · simp [← Except.ok.inj h]
  · exact hrange h
  · exact hrange h
  · exact hlist h
  · exact hlist h
  · rw [← Except.ok.inj h, Piece.named_flatMap]
    exact List.Subset.refl _

theorem named_comparisonPieces {lhs : List Piece} {o : Operator} {parts : List (List Piece)}
    {escape : Option Value} (h : p.comparisonPieces lhs o parts escape = .ok pieces) :
    ∃ operands, Piece.named pieces = Piece.named lhs ++ operands ∧
      operands ⊆ parts.flatMap Piece.named := by
  simp only [comparisonPieces, bind_eq_ok] at h
  obtain ⟨token, -, rhs, hrhs, h⟩ := h
  refine ⟨Piece.named rhs, ?_, named_rightHandPieces hrhs⟩
  cases escape with
  | none => simp [← pure_eq_ok.1 h]
  | some character =>
    obtain ⟨escapeToken, -, h⟩ := bind_eq_ok.1 h
    simp [← pure_eq_ok.1 h]

theorem named_connectedPieces {c : Connective} {token : String} {parts : List (List Piece)}
    (h : connectedPieces c token parts = .ok pieces) :
    Piece.named pieces = parts.flatMap Piece.named := by
  unfold connectedPieces at h
  split at h
  · rename_i hnone
    split at h
    · rw [← Except.ok.inj h, List.isEmpty_iff.1 hnone]
      rfl
    · cases h
  · split at h
    · simp [← Except.ok.inj h]
    · simp [← Except.ok.inj h]

theorem named_subqueryPieces (parent : Table) (r : Relation) (conditions : List (List Piece)) :
    Piece.named (subqueryPieces tests t parent r conditions) =
      .column tests .key t.aliasName r.foreignColumn :: .column tests .key parent.aliasName r.localColumn ::
        conditions.flatMap Piece.named := by
  simp [subqueryPieces]

end Plan
end Joinery
