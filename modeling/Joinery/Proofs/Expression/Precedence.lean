import Joinery.Proofs.Expression.Tokens
import Mathlib.Data.List.Basic

/-! Reading tokens by the precedence of operators.
An operator in front of an operand is a prefix operator. The operand of an operator ends before the first
infix operator that binds more loosely, or as loosely: infix operators are taken from left to right. -/
namespace Joinery
namespace Expression

inductive Term where
  | word (cs : List Char)
  | prefixOp (op : List Char) (t : Term)
  | infixOp (op : List Char) (left right : Term)
  | call (name : List Char) (args : List Term)
deriving Repr

structure Precedence where
  prefixLevel : List Char → Nat
  infixLevel : List Char → Nat

def tightOperators : List (List Char) :=
  [['^'], ['*'], ['/'], ['%'], ['+'], ['-']]

/-- The infix operators that bind as tightly as PostgreSQL's prefix operators. -/
def looseOperators : List (List Char) :=
  [['#'], ['|', '|'], ['&'], ['|'], ['<', '<'], ['>', '>']]

/-- What the dialects say about their prefix operators. -/
def Precedence.Documented (p : Precedence) : Dialect → Prop
  | .postgres =>
    ∀ op ∈ prefixOperators .postgres,
      (∀ i ∈ tightOperators, p.prefixLevel op < p.infixLevel i) ∧
        ∀ i ∈ looseOperators, p.infixLevel i ≤ p.prefixLevel op
  | d => ∀ op ∈ prefixOperators d, ∀ i, p.infixLevel i ≤ p.prefixLevel op

/-- An operator that waits for the end of its last operand. -/
inductive Pending where
  | prefixOp (op : List Char)
  | infixOp (op : List Char) (left : Term)
deriving Repr

namespace Pending

def apply : Pending → Term → Term
  | .prefixOp op, t => .prefixOp op t
  | .infixOp op left, t => .infixOp op left t

def level (p : Precedence) : Pending → Nat
  | .prefixOp op => p.prefixLevel op
  | .infixOp op _ => p.infixLevel op

end Pending

/-- Ends the operands of the waiting operators, last ones first, that bind as tightly as a level. -/
def reduce (p : Precedence) (level : Nat) : List Pending → Term → List Pending × Term
  | [], t => ([], t)
  | o :: rest, t =>
    if level ≤ o.level p then reduce p level rest (o.apply t) else (o :: rest, t)

def close (pending : List Pending) (t : Term) : Term :=
  pending.foldl (fun t o => o.apply t) t

structure Frame where
  /-- The function whose arguments stand between the parentheses. -/
  callee : Option (List Char)
  args : List Term
  pending : List Pending
  operand : Option Term

structure State where
  frame : Frame
  outer : List Frame

namespace State

def initial : State :=
  ⟨⟨none, [], [], none⟩, []⟩

def place (s : State) (t : Term) : State :=
  { s with frame.operand := some t }

def wait (s : State) (pending : List Pending) : State :=
  { s with frame.pending := pending, frame.operand := none }

def enter (s : State) (callee : Option (List Char)) : State :=
  ⟨⟨callee, [], [], none⟩, { s.frame with operand := none } :: s.outer⟩

end State

def Frame.value (f : Frame) (t : Term) : Term :=
  match f.callee with
  | none => close f.pending t
  | some name => .call name (f.args ++ [close f.pending t])

def step (p : Precedence) (s : State) (token : Token) : Option State :=
  match token, s.frame.operand with
  | .word cs, none => some (s.place (.word cs))
  | .operator op, none => some (s.wait (.prefixOp op :: s.frame.pending))
  | .operator op, some t =>
    let (pending, left) := reduce p (p.infixLevel op) s.frame.pending t
    some (s.wait (.infixOp op left :: pending))
  | .opening, none => some (s.enter none)
  | .opening, some (.word name) => some (s.enter (some name))
  | .comma, some t =>
    s.frame.callee.map fun _ =>
      { s with frame := ⟨s.frame.callee, s.frame.args ++ [close s.frame.pending t], [], none⟩ }
  | .closing, some t =>
    match s.outer with
    | [] => none
    | f :: rest => some (State.place ⟨f, rest⟩ (s.frame.value t))
  | _, _ => none

def run (p : Precedence) (s : State) (ts : List Token) : Option State :=
  ts.foldlM (step p) s

/-- The term of a list of tokens, if it is one. -/
def read (p : Precedence) (ts : List Token) : Option Term :=
  match run p .initial ts with
  | some ⟨⟨none, _, pending, some t⟩, []⟩ => some (close pending t)
  | _ => none

variable {p : Precedence}

@[simp] theorem run_nil (s : State) : run p s [] = some s := rfl

@[simp] theorem run_cons (s : State) (token : Token) (ts : List Token) :
    run p s (token :: ts) = (step p s token).bind (run p · ts) := rfl

theorem run_append (s : State) (ts us : List Token) :
    run p s (ts ++ us) = (run p s ts).bind (run p · us) :=
  List.foldlM_append

/-- Whether tokens are read as an operand, wherever one is expected. -/
def Reads (p : Precedence) (ts : List Token) (t : Term) : Prop :=
  ∀ s : State, s.frame.operand = none → run p s ts = some (s.place t)

theorem Reads.word (cs : List Char) : Reads p [.word cs] (.word cs) := by
  intro s hs
  simp [step, hs]

def wrap (ops : List (List Char)) (t : Term) : Term :=
  ops.foldr .prefixOp t

def waiting (ops : List (List Char)) : List Pending :=
  (ops.map .prefixOp).reverse

theorem close_waiting (ops : List (List Char)) (t : Term) : close (waiting ops) t = wrap ops t := by
  simp [close, waiting, wrap, List.foldl_reverse, List.foldr_map, Pending.apply]

theorem run_operators {s : State} (hs : s.frame.operand = none) (ops : List (List Char)) :
    run p s (ops.map .operator) = some (s.wait (waiting ops ++ s.frame.pending)) := by
  induction ops generalizing s with
  | nil =>
    obtain ⟨⟨callee, args, pending, operand⟩, outer⟩ := s
    cases hs
    rfl
  | cons op rest ih =>
    have hrest := ih (s := s.wait (.prefixOp op :: s.frame.pending)) rfl
    rw [List.map_cons, run_cons]
    simp only [step, hs, Option.bind_some, hrest]
    simp [State.wait, waiting]

theorem Reads.prefixes {ts : List Token} {t : Term} (h : Reads p ts t) (ops : List (List Char))
    {s : State} (hs : s.frame.operand = none) :
    run p s (ops.map .operator ++ ts) =
      some ((s.wait (waiting ops ++ s.frame.pending)).place t) := by
  rw [run_append, run_operators hs]
  exact h _ rfl

theorem Reads.read {ts : List Token} {t : Term} (h : Reads p ts t) (ops : List (List Char)) :
    read p (ops.map .operator ++ ts) = some (wrap ops t) := by
  rw [Expression.read, h.prefixes ops rfl]
  simp [State.wait, State.place, State.initial, close_waiting]

/-- The term of an infix operator after an operand with operators in front of it. -/
def infixed (p : Precedence) (ops : List (List Char)) (t : Term) (op : List Char) (right : Term) :
    Term :=
  let (pending, left) := reduce p (p.infixLevel op) (waiting ops) t
  close pending (.infixOp op left right)

theorem reduce_of_le {level : Nat} {pending : List Pending}
    (h : ∀ o ∈ pending, level ≤ o.level p) (t : Term) :
    reduce p level pending t = ([], close pending t) := by
  induction pending generalizing t with
  | nil => rfl
  | cons o rest ih =>
    rw [List.forall_mem_cons] at h
    rw [reduce, if_pos h.1, ih h.2]
    rfl

/-- An infix operator that binds no more tightly than the prefix operators before it stands around
them. -/
theorem infixed_of_le {ops : List (List Char)} {op : List Char}
    (h : ∀ o ∈ ops, p.infixLevel op ≤ p.prefixLevel o) (t right : Term) :
    infixed p ops t op right = .infixOp op (wrap ops t) right := by
  have hwaiting : ∀ o ∈ waiting ops, p.infixLevel op ≤ o.level p := by
    simpa [waiting, Pending.level] using h
  simp only [infixed, reduce_of_le hwaiting, close_waiting]
  rfl

/-- An infix operator that binds more tightly belongs to the operand of the prefix operator. -/
theorem infixed_of_lt {o op : List Char} (h : p.prefixLevel o < p.infixLevel op) (t right : Term) :
    infixed p [o] t op right = .prefixOp o (.infixOp op t right) := by
  have hnot : ¬ p.infixLevel op ≤ p.prefixLevel o := Nat.not_le.2 h
  simp [infixed, waiting, reduce, Pending.level, hnot, close, Pending.apply]

theorem infixed_singleton_iff {o op : List Char} {t u right : Term} :
    infixed p [o] t op right = .infixOp op u right ↔
      p.infixLevel op ≤ p.prefixLevel o ∧ wrap [o] t = u := by
  by_cases hle : p.infixLevel op ≤ p.prefixLevel o
  · rw [infixed_of_le (by simpa using hle)]
    simp [hle]
  · rw [infixed_of_lt (Nat.lt_of_not_le hle)]
    simp [hle]

@[simp] theorem wrap_inj {ops : List (List Char)} {t u : Term} :
    wrap ops t = wrap ops u ↔ t = u := by
  induction ops with
  | nil => rfl
  | cons op rest ih => simpa [wrap] using ih

theorem Reads.group {ts : List Token} {t : Term} (h : Reads p ts t) (ops : List (List Char))
    (op right : List Char) :
    Reads p (.opening :: ((ops.map .operator ++ ts) ++ [.operator op, .word right, .closing]))
      (infixed p ops t op (.word right)) := by
  intro s hs
  have hinner := h.prefixes ops (s := s.enter none) rfl
  obtain ⟨⟨callee, args, pending, operand⟩, outer⟩ := s
  cases hs
  rw [run_cons, show step p _ .opening = some (State.enter _ none) from rfl, Option.bind_some,
    run_append, hinner]
  simp [step, State.enter, State.wait, State.place, Frame.value, infixed, close, Pending.apply]

theorem run_arguments (name : List Char) (words : List (List Char)) (args : List Term)
    (pending : List Pending) (t : Term) (outer : Frame) (rest : List Frame) :
    run p ⟨⟨some name, args, pending, some t⟩, outer :: rest⟩
        (words.flatMap (fun w => [.comma, .word w]) ++ [.closing]) =
      some (State.place ⟨outer, rest⟩
        (.call name (args ++ close pending t :: words.map .word))) := by
  induction words generalizing args pending t with
  | nil => simp [step, Frame.value]
  | cons w more ih =>
    have hmore := ih (args ++ [close pending t]) [] (.word w)
    simp only [List.flatMap_cons, List.cons_append, List.nil_append, run_cons, step,
      Option.map_some, Option.bind_some, State.place, hmore]
    simp [close]

theorem Reads.call {ts : List Token} {t : Term} (h : Reads p ts t) (ops : List (List Char))
    (name : List Char) (words : List (List Char)) :
    Reads p (.word name :: .opening ::
        ((ops.map .operator ++ ts) ++ words.flatMap (fun w => [.comma, .word w]) ++ [.closing]))
      (.call name (wrap ops t :: words.map .word)) := by
  intro s hs
  obtain ⟨⟨callee, args, pending, operand⟩, outer⟩ := s
  cases hs
  set s : State := ⟨⟨callee, args, pending, none⟩, outer⟩ with hstate
  have hinner := h.prefixes ops (s := s.enter (some name)) rfl
  have hentered : step p (s.place (.word name)) .opening = some (s.enter (some name)) := rfl
  rw [run_cons, show step p s (.word name) = some (s.place (.word name)) from rfl, Option.bind_some,
    run_cons, hentered, Option.bind_some, List.append_assoc, run_append, hinner]
  simpa [State.enter, State.wait, State.place, close_waiting, hstate] using
    run_arguments (p := p) name words [] (waiting ops) t
      ⟨callee, args, pending, none⟩ outer

end Expression
end Joinery
