import Joinery.Error

/-! The operator catalog.
Every operator has a standard token and a name, and some exist in one dialect only. -/
namespace Joinery

/-- Comparison and logical operators. -/
inductive Operator where
  | eq
  | notEq
  | lt
  | ltOrEq
  | gt
  | gtOrEq
  | between
  | notBetween
  | isDistinct
  | isNotDistinct
  | isNull
  | isNotNull
  | like
  | escape
  | inList
  | notInList
  | and
  | or
  | not
  | xor
  | regexp
  | nullSafeEq
  | ilike
  | similarTo
  | posixMatch
  | posixIMatch
  | glob
deriving DecidableEq, Repr

namespace Operator

def all : List Operator :=
  [.eq, .notEq, .lt, .ltOrEq, .gt, .gtOrEq, .between, .notBetween, .isDistinct, .isNotDistinct,
    .isNull, .isNotNull, .like, .escape, .inList, .notInList, .and, .or, .not, .xor, .regexp,
    .nullSafeEq, .ilike, .similarTo, .posixMatch, .posixIMatch, .glob]

theorem mem_all (o : Operator) : o ∈ all := by
  cases o <;> decide

/-- The standard token, whatever the dialect. -/
def token : Operator → String
  | .eq => "="
  | .notEq => "<>"
  | .lt => "<"
  | .ltOrEq => "<="
  | .gt => ">"
  | .gtOrEq => ">="
  | .between => "BETWEEN"
  | .notBetween => "NOT BETWEEN"
  | .isDistinct => "IS DISTINCT FROM"
  | .isNotDistinct => "IS NOT DISTINCT FROM"
  | .isNull => "IS NULL"
  | .isNotNull => "IS NOT NULL"
  | .like => "LIKE"
  | .escape => "ESCAPE"
  | .inList => "IN"
  | .notInList => "NOT IN"
  | .and => "AND"
  | .or => "OR"
  | .not => "NOT"
  | .xor => "XOR"
  | .regexp => "REGEXP"
  | .nullSafeEq => "<=>"
  | .ilike => "ILIKE"
  | .similarTo => "SIMILAR TO"
  | .posixMatch => "~"
  | .posixIMatch => "~*"
  | .glob => "GLOB"

/-- The name in diagnostics, headed by the engine where there is only one. -/
def name : Operator → String
  | .eq => "Eq"
  | .notEq => "NotEq"
  | .lt => "Lt"
  | .ltOrEq => "LtOrEq"
  | .gt => "Gt"
  | .gtOrEq => "GtOrEq"
  | .between => "Between"
  | .notBetween => "NotBetween"
  | .isDistinct => "IsDistinct"
  | .isNotDistinct => "IsNotDistinct"
  | .isNull => "IsNull"
  | .isNotNull => "IsNotNull"
  | .like => "Like"
  | .escape => "Escape"
  | .inList => "ArrayIn"
  | .notInList => "ArrayNotIn"
  | .and => "And"
  | .or => "Or"
  | .not => "Not"
  | .xor => "mysql.Xor"
  | .regexp => "mysql.Regexp"
  | .nullSafeEq => "mysql.NullSafeEqual"
  | .ilike => "psql.ILike"
  | .similarTo => "psql.SimilarTo"
  | .posixMatch => "psql.PosixMatch"
  | .posixIMatch => "psql.PosixIMatch"
  | .glob => "sqlite.Glob"

def ofName? (s : String) : Option Operator :=
  all.find? (fun o => o.name == s)

@[simp] theorem ofName?_name (o : Operator) : ofName? o.name = some o := by
  cases o <;> decide

/-- The only dialect that has the operator, if it is restricted. -/
def dialect? : Operator → Option Dialect
  | .xor => some .mysql
  | .regexp => some .mysql
  | .nullSafeEq => some .mysql
  | .ilike => some .postgres
  | .similarTo => some .postgres
  | .posixMatch => some .postgres
  | .posixIMatch => some .postgres
  | .glob => some .sqlite
  | _ => none

def supports (o : Operator) (d : Dialect) : Bool :=
  match o.dialect? with
  | some only => only == d
  | none => true

/-- The token on a dialect that supports the operator. MySQL compares for distinctness by its
null-safe equality. -/
def tokenOn (o : Operator) (d : Dialect) : String :=
  match o, d with
  | .isDistinct, .mysql => nullSafeEq.token
  | .isNotDistinct, .mysql => nullSafeEq.token
  | _, _ => o.token

def resolve (o : Operator) (d : Dialect) : Except QueryError String :=
  if o.supports d then .ok (o.tokenOn d) else .error (.unsupported o.name d)

/-- Whether the comparison is written `NOT lhs token rhs` on the dialect. -/
def negatedOn (o : Operator) (d : Dialect) : Bool :=
  o == .isDistinct && d == .mysql

def arity : Operator → Arity
  | .isNull => .exactly 0
  | .isNotNull => .exactly 0
  | .not => .exactly 0
  | .between => .exactly 2
  | .notBetween => .exactly 2
  | .inList => .atLeast 1
  | .notInList => .atLeast 1
  | .xor => .atLeast 1
  | .and => .atLeast 0
  | .or => .atLeast 0
  | _ => .exactly 1

def isConnector : Operator → Bool
  | .and => true
  | .or => true
  | .not => true
  | .xor => true
  | _ => false

def isComparison (o : Operator) : Bool :=
  !o.isConnector && o != .escape

/-- Accepts a comparison by `o` against `count` values. -/
def check (o : Operator) (count : Nat) : Except QueryError Unit :=
  if o.isComparison = false then .error (.malformed (.noComparison o.name))
  else if o.arity.accepts count then .ok ()
  else .error (.malformed (.wrongArity o.name o.arity count))

theorem check_eq_ok_iff {o : Operator} {count : Nat} :
    o.check count = .ok () ↔ o.isComparison = true ∧ o.arity.accepts count = true := by
  unfold check
  split <;> simp_all

end Operator
end Joinery
