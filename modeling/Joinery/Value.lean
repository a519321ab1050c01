import Joinery.Decimal.Layout
import Joinery.Json
import Joinery.Time.Instant
import Joinery.Uuid

/-! Parameter values bound to statements. -/
namespace Joinery

inductive Value where
  | null
  | bool (b : Bool)
  | int (n : Int)
  | float (x : Binary64)
  | text (s : String)
  | uuid (u : Uuid)
  | timestamp (t : Instant)
deriving Repr

namespace Value

def isNull : Value → Bool
  | .null => true
  | _ => false

/-- Values of one kind are equal when they are the same number, text or moment; no kind equals
another. -/
def beq : Value → Value → Bool
  | .null, .null => true
  | .bool a, .bool b => a == b
  | .int m, .int n => m == n
  | .float x, .float y => x.numEq y
  | .text s, .text t => s == t
  | .uuid u, .uuid v => u == v
  | .timestamp s, .timestamp t => s == t
  | _, _ => false

instance : BEq Value := ⟨beq⟩

def display : Value → String
  | .null => "NULL"
  | .bool b => if b then "true" else "false"
  | .int n => toString n
  | .float x => Decimal.plainText x
  | .text s => Text.quoted s
  | .uuid u => u.text
  | .timestamp t => t.text

def json : Value → String
  | .null => "null"
  | .bool b => if b then "true" else "false"
  | .int n => toString n
  | .float x => Decimal.jsonText x
  | .text s => Json.quote s
  | .uuid u => Json.quote u.text
  | .timestamp t => Json.quote (t.textWith "Z")

end Value
end Joinery
