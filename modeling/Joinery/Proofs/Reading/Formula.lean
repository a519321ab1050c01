import Joinery.Proofs.Reading.Items

/-! Conditions read off the items of SQL, with the precedence of its connectives: `NOT` before `AND`,
`AND` before `XOR`, `XOR` before `OR`. A `BETWEEN` takes the next `AND` for itself. -/
namespace Joinery
namespace Reading

/-- A condition over atoms, which are known by their items. -/
inductive Formula where
  | atom (items : List Item)
  | not (f : Formula)
  | all (fs : List Formula)
  | any (fs : List Formula)
  | xor (fs : List Formula)
deriving Repr

namespace Formula

mutual

def eval (v : List Item → Bool) : Formula → Bool
  | .atom items => v items
  | .not f => !f.eval v
  | .all fs => (evals v fs).all id
  | .any fs => (evals v fs).any id
  | .xor fs => (evals v fs).foldr Bool.xor false

def evals (v : List Item → Bool) : List Formula → List Bool
  | [] => []
  | f :: rest => f.eval v :: evals v rest

end

theorem evals_eq_map (v : List Item → Bool) (fs : List Formula) : evals v fs = fs.map (eval v) := by
  induction fs with
  | nil => rfl
  | cons f rest ih => simp [evals, ih]

/-- A connective over formulas; over one formula it is that formula. -/
def collect (connect : List Formula → Formula) : List Formula → Formula
  | [f] => f
  | fs => connect fs

variable {v : List Item → Bool}

theorem eval_collect_all (fs : List Formula) :
    (collect .all fs).eval v = (fs.map (eval v)).all id := by
  unfold collect
  split <;> simp [eval, evals_eq_map]

theorem eval_collect_any (fs : List Formula) :
    (collect .any fs).eval v = (fs.map (eval v)).any id := by
  unfold collect
  split <;> simp [eval, evals_eq_map]

theorem eval_collect_xor (fs : List Formula) :
    (collect .xor fs).eval v = (fs.map (eval v)).foldr Bool.xor false := by
  unfold collect
  split <;> simp [eval, evals_eq_map]

end Formula

inductive Keyword where
  | and
  | or
  | xor
  | not
  | between
deriving DecidableEq, Repr

def Keyword.all : List Keyword :=
  [.and, .or, .xor, .not, .between]

theorem Keyword.mem_all (k : Keyword) : k ∈ all := by
  cases k <;> decide

def Keyword.text : Keyword → List Char
  | .and => ['A', 'N', 'D']
  | .or => ['O', 'R']
  | .xor => ['X', 'O', 'R']
  | .not => ['N', 'O', 'T']
  | .between => ['B', 'E', 'T', 'W', 'E', 'E', 'N']

def Keyword.item (k : Keyword) : Item :=
  .word k.text

def Item.is (k : Keyword) : Item → Bool
  | .word cs => cs.map Char.toUpper == k.text
  | .group _ => false

theorem Keyword.is_item (j k : Keyword) : j.item.is k = decide (j = k) := by
  cases j <;> cases k <;> decide

/-- An item with the condition that it is when it stands alone. -/
abbrev Marked := Item × Formula

/-- The parts between the `AND`s that no `BETWEEN` takes; `ranges` of them are awaited. -/
def conjuncts (ranges : Nat) : List Marked → List (List Marked)
  | [] => [[]]
  | x :: rest =>
    if x.1.is .between then (conjuncts (ranges + 1) rest).modifyHead (x :: ·)
    else if x.1.is .and then
      match ranges with
      | 0 => [] :: conjuncts 0 rest
      | ranges + 1 => (conjuncts ranges rest).modifyHead (x :: ·)
    else (conjuncts ranges rest).modifyHead (x :: ·)

/-- A condition without connectives but leading `NOT`s: an item alone, or else an atom. -/
def operand : List Marked → Formula
  | [] => .atom []
  | [x] => x.2
  | x :: rest => if x.1.is .not then .not (operand rest) else .atom (x.1 :: rest.map Prod.fst)

def conjunction (xs : List Marked) : Formula :=
  .collect .all ((conjuncts 0 xs).map operand)

def exclusion (xs : List Marked) : Formula :=
  .collect .xor ((xs.splitOnP fun x => x.1.is .xor).map conjunction)

def disjunction (xs : List Marked) : Formula :=
  .collect .any ((xs.splitOnP fun x => x.1.is .or).map exclusion)

mutual

def Item.reading : Item → Formula
  | .word cs => .atom [.word cs]
  | .group xs => disjunction (marked xs)

def marked : List Item → List Marked
  | [] => []
  | x :: rest => (x, x.reading) :: marked rest

end

def reading (xs : List Item) : Formula :=
  disjunction (marked xs)

/-- The condition that a text is. -/
def readSql (backslash : Bool) (s : String) : Option Formula :=
  (items backslash s).map reading

theorem marked_eq_map (xs : List Item) : marked xs = xs.map fun x => (x, x.reading) := by
  induction xs with
  | nil => rfl
  | cons x rest ih => simp [marked, ih]

theorem marked_append (xs ys : List Item) : marked (xs ++ ys) = marked xs ++ marked ys := by
  simp [marked_eq_map]

theorem mem_marked {x : Marked} {xs : List Item} (h : x ∈ marked xs) : x.1 ∈ xs := by
  rw [marked_eq_map, List.mem_map] at h
  obtain ⟨y, hy, rfl⟩ := h
  exact hy

/-- How many `BETWEEN`s await their `AND` after the items; none when an `AND` belongs to no range. -/
def ranges (awaited : Nat) : List Item → Option Nat
  | [] => some awaited
  | x :: rest =>
    if x.is .between then ranges (awaited + 1) rest
    else if x.is .and then
      match awaited with
      | 0 => none
      | awaited + 1 => ranges awaited rest
    else ranges awaited rest

/-- Items that no connective but a leading `NOT` divides. -/
structure Undivided (xs : List Item) : Prop where
  or : ∀ x ∈ xs, x.is .or = false
  xor : ∀ x ∈ xs, x.is .xor = false
  and : ranges 0 xs = some 0

theorem ranges_append (awaited : Nat) (xs ys : List Item) :
    ranges awaited (xs ++ ys) = (ranges awaited xs).bind (ranges · ys) := by
  fun_induction ranges awaited xs with
  | case1 n => rfl
  | case2 n x rest h ih => simpa [ranges, h] using ih
  | case3 x rest h h' => simp [ranges, h, h']
  | case4 x rest h h' n ih => simpa [ranges, h, h'] using ih
  | case5 n x rest h h' ih => simpa [ranges, h, h'] using ih

theorem conjuncts_ne_nil (n : Nat) (xs : List Marked) : conjuncts n xs ≠ [] := by
  fun_induction conjuncts n xs <;> simp_all

theorem conjuncts_append {n m : Nat} {xs : List Item} (h : ranges n xs = some m)
    (ys : List Marked) :
    conjuncts n (marked xs ++ ys) = (conjuncts m ys).modifyHead (marked xs ++ ·) := by
  fun_induction ranges n xs with
  | case1 n =>
    obtain ⟨z, zs, hz⟩ := List.exists_cons_of_ne_nil (conjuncts_ne_nil m ys)
    simp [marked, Option.some.inj h, hz]
  | case2 n x rest hx ih => simp [marked, conjuncts, hx, ih h, Function.comp_def]
  | case3 x rest hx hx' => cases h
  | case4 x rest hx hx' n ih => simp [marked, conjuncts, hx, hx', ih h, Function.comp_def]
  | case5 n x rest hx hx' ih => simp [marked, conjuncts, hx, hx', ih h, Function.comp_def]

/-- A division that cuts off good items at a keyword cuts good items apart that the keyword joins. -/
theorem divide_intercalate {divide : List Marked → List (List Marked)} {k : Keyword}
    {Good : List Item → Prop} (single : ∀ xs, Good xs → divide (marked xs) = [marked xs])
    (cons : ∀ xs ys, Good xs → divide (marked xs ++ marked (k.item :: ys)) =
      marked xs :: divide (marked ys))
    {xss : List (List Item)} (hne : xss ≠ []) (h : ∀ xs ∈ xss, Good xs) :
    divide (marked ([k.item].intercalate xss)) = xss.map marked := by
  induction xss with
  | nil => exact absurd rfl hne
  | cons xs rest ih =>
    have hxs := h xs (by simp)
    cases rest with
    | nil => simpa using single xs hxs
    | cons ys rest =>
      rw [List.intercalate_cons_cons, List.append_assoc, List.singleton_append, marked_append,
        cons xs _ hxs, ih (by simp) fun zs hzs => h zs (by simp [hzs])]
      rfl

theorem splitOnP_marked {k : Keyword} {xs : List Item} (h : ∀ x ∈ xs, x.is k = false) :
    (marked xs).splitOnP (fun x => x.1.is k) = [marked xs] :=
  List.splitOnP_eq_singleton fun x hx => h x.1 (mem_marked hx)

theorem splitOnP_intercalate {k : Keyword} {xss : List (List Item)} (hne : xss ≠ [])
    (h : ∀ xs ∈ xss, ∀ x ∈ xs, x.is k = false) :
    (marked ([k.item].intercalate xss)).splitOnP (fun x => x.1.is k) = xss.map marked := by
  refine divide_intercalate (fun xs hxs => splitOnP_marked hxs) (fun xs ys hxs => ?_) hne h
  have hfree : ∀ x ∈ marked xs, x.1.is k = false := fun x hx => hxs x.1 (mem_marked hx)
  exact List.splitOnP_append_cons_of_forall_mem hfree (k.item, k.item.reading)
    (by simp [Keyword.is_item]) (marked ys)

theorem conjuncts_marked {xs : List Item} (h : ranges 0 xs = some 0) :
    conjuncts 0 (marked xs) = [marked xs] := by
  have hxs := conjuncts_append h []
  rw [List.append_nil] at hxs
  simp [hxs, conjuncts]

theorem conjuncts_intercalate {xss : List (List Item)} (hne : xss ≠ [])
    (h : ∀ xs ∈ xss, ranges 0 xs = some 0) :
    conjuncts 0 (marked ([Keyword.and.item].intercalate xss)) = xss.map marked := by
  refine divide_intercalate (fun xs hxs => conjuncts_marked hxs) (fun xs ys hxs => ?_) hne h
  simp [conjuncts_append hxs, marked, conjuncts, Keyword.is_item]

theorem is_intercalate {j k : Keyword} (hne : j ≠ k) {xss : List (List Item)}
    (h : ∀ xs ∈ xss, ∀ x ∈ xs, x.is k = false) :
    ∀ x ∈ [j.item].intercalate xss, x.is k = false := by
  intro x hx
  obtain hx | ⟨xs, hxs, hx⟩ := Text.mem_intercalate hx
  · rw [List.mem_singleton.1 hx, Keyword.is_item]
    exact decide_eq_false hne
  · exact h xs hxs x hx

def operandOf (xs : List Item) : Formula :=
  operand (marked xs)

theorem conjunction_undivided {xs : List Item} (h : Undivided xs) :
    conjunction (marked xs) = operandOf xs := by
  rw [conjunction, conjuncts_marked h.and]
  rfl

theorem exclusion_undivided {xs : List Item} (h : Undivided xs) :
    exclusion (marked xs) = operandOf xs := by
  rw [exclusion, splitOnP_marked h.xor]
  exact conjunction_undivided h

theorem reading_undivided {xs : List Item} (h : Undivided xs) : reading xs = operandOf xs := by
  rw [reading, disjunction, splitOnP_marked h.or]
  exact exclusion_undivided h

variable {xss : List (List Item)}

theorem reading_conjunction (hne : xss ≠ []) (h : ∀ xs ∈ xss, Undivided xs) :
    reading ([Keyword.and.item].intercalate xss) = .collect .all (xss.map operandOf) := by
  have hor := is_intercalate (j := .and) (k := .or) (by decide) fun xs hxs => (h xs hxs).or
  have hxor := is_intercalate (j := .and) (k := .xor) (by decide) fun xs hxs => (h xs hxs).xor
  rw [reading, disjunction, splitOnP_marked hor, List.map_singleton, Formula.collect, exclusion,
    splitOnP_marked hxor, List.map_singleton, Formula.collect, conjunction,
    conjuncts_intercalate hne fun xs hxs => (h xs hxs).and, List.map_map]
  rfl

theorem reading_exclusion (hne : xss ≠ []) (h : ∀ xs ∈ xss, Undivided xs) :
    reading ([Keyword.xor.item].intercalate xss) = .collect .xor (xss.map operandOf) := by
  have hor := is_intercalate (j := .xor) (k := .or) (by decide) fun xs hxs => (h xs hxs).or
  have hparts : (xss.map marked).map conjunction = xss.map operandOf := by
    rw [List.map_map]
    exact List.map_congr_left fun xs hxs => conjunction_undivided (h xs hxs)
  rw [reading, disjunction, splitOnP_marked hor, List.map_singleton, Formula.collect, exclusion,
    splitOnP_intercalate hne fun xs hxs => (h xs hxs).xor, hparts]

theorem reading_disjunction (hne : xss ≠ []) (h : ∀ xs ∈ xss, Undivided xs) :
    reading ([Keyword.or.item].intercalate xss) = .collect .any (xss.map operandOf) := by
  have hparts : (xss.map marked).map exclusion = xss.map operandOf := by
    rw [List.map_map]
    exact List.map_congr_left fun xs hxs => exclusion_undivided (h xs hxs)
  rw [reading, disjunction, splitOnP_intercalate hne fun xs hxs => (h xs hxs).or, hparts]

theorem undivided_group (xs : List Item) : Undivided [.group xs] :=
  ⟨by simp [Item.is], by simp [Item.is], rfl⟩

theorem operandOf_group (xs : List Item) : operandOf [.group xs] = reading xs := rfl

theorem reading_group (xs : List Item) : reading [.group xs] = reading xs :=
  (reading_undivided (undivided_group xs)).trans (operandOf_group xs)

theorem undivided_not {xs : List Item} (h : Undivided xs) : Undivided (Keyword.not.item :: xs) where
  or := by simpa [Keyword.is_item] using h.or
  xor := by simpa [Keyword.is_item] using h.xor
  and := by simpa [ranges, Keyword.is_item] using h.and

theorem operandOf_not {xs : List Item} (hne : xs ≠ []) :
    operandOf (Keyword.not.item :: xs) = .not (operandOf xs) := by
  obtain ⟨x, rest, rfl⟩ := List.exists_cons_of_ne_nil hne
  simp [operandOf, marked, operand, Keyword.is_item]

/-- Two items or more are an atom, unless they start with `NOT`. -/
theorem operandOf_atom {x y : Item} {rest : List Item} (h : x.is .not = false) :
    operandOf (x :: y :: rest) = .atom (x :: y :: rest) := by
  simp [operandOf, marked, operand, h, marked_eq_map, Function.comp_def]

/-- Whether an item is no keyword at all. -/
def Item.Free (x : Item) : Prop :=
  ∀ k, x.is k = false

instance (x : Item) : Decidable x.Free :=
  decidable_of_iff (∀ k ∈ Keyword.all, x.is k = false)
    ⟨fun h k => h k k.mem_all, fun h k _ => h k⟩

theorem Item.free_group (xs : List Item) : (Item.group xs).Free :=
  fun _ => rfl

/-- Items without `OR` and `XOR` after which `after` ranges are open, when `before` were. -/
def Spans (before after : Nat) (xs : List Item) : Prop :=
  (∀ x ∈ xs, x.is .or = false ∧ x.is .xor = false) ∧ ranges before xs = some after

instance (before after : Nat) (xs : List Item) : Decidable (Spans before after xs) :=
  inferInstanceAs (Decidable (_ ∧ _))

theorem Spans.append {n m k : Nat} {xs ys : List Item} (hx : Spans n m xs) (hy : Spans m k ys) :
    Spans n k (xs ++ ys) := by
  refine ⟨fun x h => ?_, ?_⟩
  · exact (List.mem_append.1 h).elim (hx.1 x) (hy.1 x)
  · rw [ranges_append, hx.2, Option.bind_some, hy.2]

theorem Spans.undivided {xs : List Item} (h : Spans 0 0 xs) : Undivided xs :=
  ⟨fun x hx => (h.1 x hx).1, fun x hx => (h.1 x hx).2, h.2⟩

theorem ranges_free {awaited : Nat} {xs : List Item}
    (h : ∀ x ∈ xs, x.is .between = false ∧ x.is .and = false) : ranges awaited xs = some awaited := by
  induction xs with
  | nil => rfl
  | cons x rest ih =>
    obtain ⟨hbetween, hand⟩ := h x (by simp)
    simpa [ranges, hbetween, hand] using ih fun y hy => h y (by simp [hy])

theorem spans_free {n : Nat} {xs : List Item} (h : ∀ x ∈ xs, x.Free) : Spans n n xs :=
  ⟨fun x hx => ⟨h x hx .or, h x hx .xor⟩, ranges_free fun x hx => ⟨h x hx .between, h x hx .and⟩⟩

end Reading
end Joinery
