import Joinery.Error
import Joinery.Uuid

/-! Checks that related rows were loaded.
A relation can be absent because there is no related row, or because none was asked for; the key tells
the two apart. -/
namespace Joinery
namespace LoadState

def lastSegment (segment : List Char) : List Char → List Char
  | [] => segment.reverse
  | ':' :: ':' :: rest => lastSegment [] rest
  | c :: rest => lastSegment (c :: segment) rest

/-- The name of a row type without its path and parameters. -/
def typeName (full : String) : String :=
  String.ofList (lastSegment [] (full.toList.takeWhile (· != '<')))

def notLoaded (rowType : String) : QueryError :=
  .relationNotLoaded (typeName rowType)

/-- A related row that is part of its owner must be there and be loaded. -/
def verifyEmbedded {α : Type} (rowType : String) (isLoaded : α → Bool) (related : Option α) :
    Except QueryError α :=
  match related with
  | some row => if isLoaded row then .ok row else .error (notLoaded rowType)
  | none => .error (notLoaded rowType)

/-- Under a key that can be missing, no row with a key means that it was not loaded. -/
def verifyKeyed {κ α : Type} (rowType : String) (key : Option κ) (related : Option α) :
    Except QueryError (Option α) :=
  if key.isSome && related.isNone then .error (notLoaded rowType) else .ok related

def verifyKeyedBy {κ α : Type} (rowType : String) (isNil : κ → Bool) (key : κ)
    (related : Option α) : Except QueryError (Option α) :=
  if !isNil key && related.isNone then .error (notLoaded rowType) else .ok related

/-- A collection that was loaded is a list, perhaps an empty one. -/
def verifyCollection {α : Type} (rowType : String) (rows : Option (List α)) :
    Except QueryError (List α) :=
  match rows with
  | some list => .ok list
  | none => .error (notLoaded rowType)

end LoadState
end Joinery
