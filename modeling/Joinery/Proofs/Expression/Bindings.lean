import Joinery.Proofs.Expression.Chains
import Joinery.Proofs.Placeholder.Numbering

/-! The values that the functions of a field bind, and the placeholders that they are bound to.
Each function writes its placeholders behind those of the functions inside of it, so that placeholders and
values stand in the same order. There are as many of the one as of the other, unless an infix operator is
given no value. -/
namespace Joinery

variable {d : Dialect}

/-- The place of a value in a chain of functions: which function it is given to, and as which of its values. -/
structure Slot where
  call : Nat
  value : Nat
deriving DecidableEq, Repr

/-- A text in which each placeholder is labelled with the place of the value that it is written for. -/
abbrev Traced :=
  List (Char × Option Slot)

namespace Traced

def ofText (s : String) : Traced :=
  s.toList.map fun c => (c, none)

def mark (slot : Slot) : Traced :=
  [('?', some slot)]

/-- The labels, from left to right. -/
def slots (t : Traced) : List Slot :=
  t.filterMap (·.2)

@[simp] theorem slots_append (t u : Traced) : slots (t ++ u) = t.slots ++ u.slots :=
  List.filterMap_append

@[simp] theorem slots_ofText (s : String) : (ofText s).slots = [] := by
  simp [slots, ofText]

@[simp] theorem slots_mark (slot : Slot) : (mark slot).slots = [slot] := rfl

/-- Whether a labelled text is a text without quotes, and its question marks are what is labelled. -/
structure Traces (t : Traced) (s : String) : Prop where
  text : t.map (·.1) = s.toList
  quoteless : ∀ x ∈ t, x.1 ∉ Sql.quotes
  labelled : ∀ x ∈ t, x.2.isSome = (x.1 == '?')

variable {t u : Traced} {s r : String}

theorem Traces.append (ht : t.Traces s) (hu : u.Traces r) : Traces (t ++ u) (s ++ r) where
  text := by rw [List.map_append, ht.text, hu.text, String.toList_append]
  quoteless := List.forall_mem_append.2 ⟨ht.quoteless, hu.quoteless⟩
  labelled := List.forall_mem_append.2 ⟨ht.labelled, hu.labelled⟩

theorem traces_ofText (h : Sql.Plain s) : (ofText s).Traces s where
  text := by
    rw [ofText, List.map_map]
    exact List.map_id _
  quoteless := by
    rw [ofText, List.forall_mem_map]
    exact fun c hc => Sql.notMem_quotes_of_isPlain (h c hc)
  labelled := by
    rw [ofText, List.forall_mem_map]
    intro c hc
    have hplain := h c hc
    simp only [isPlain, Bool.and_eq_true, bne_iff_ne] at hplain
    simp [hplain.2]

theorem traces_mark (slot : Slot) : (mark slot).Traces "?" where
  text := rfl
  quoteless := List.forall_mem_singleton.2 (show '?' ∉ Sql.quotes by decide)
  labelled := List.forall_mem_singleton.2 rfl

/-- A scan takes for placeholders what is labelled. -/
theorem Traces.marks_split (h : t.Traces s) (backslash : Bool) :
    (Sql.split backslash s).flatMap Sql.Part.marks = t.map fun x => (x.1, x.2.isSome) := by
  have hplain : ∀ c ∈ s.toList, c ∉ Sql.quotes := by
    simpa [← h.text] using h.quoteless
  have hlexes : Sql.Lexes backslash s.toList (s.toList.map .plain) := by
    simpa using Sql.Lexes.prepend hplain .done
  have hmarks : ∀ x ∈ t, Sql.Token.marks (.plain x.1) = [(x.1, x.2.isSome)] := by
    intro x hx
    rw [Sql.Token.marks, h.labelled x hx]
  rw [Sql.split, Sql.marks_splitFrom hlexes, ← h.text]
  simp only [List.reverse_nil, List.map_nil, List.nil_append, List.map_map, List.flatMap_map,
    Function.comp_apply]
  rw [List.map_eq_flatMap]
  exact List.flatMap_congr hmarks

theorem Traces.count_split (h : t.Traces s) (backslash : Bool) :
    (Sql.split backslash s).count .param = t.slots.length := by
  rw [Sql.count_param_eq_countP, h.marks_split, List.countP_map, slots, List.length_filterMap_eq_countP]
  rfl

end Traced

open Traced (ofText mark)

namespace Strategy

/-- The function around `inner`, written as call number `call` of its chain. -/
def traced (call count : Nat) (inner : Traced) : Strategy → Traced
  | .infixOp op => ofText "(" ++ inner ++ ofText (" " ++ op ++ " ") ++ mark ⟨call, 0⟩ ++ ofText ")"
  | .call name =>
    ofText (name ++ "(") ++ inner ++
      (List.range count).flatMap (fun value => ofText ", " ++ mark ⟨call, value⟩) ++ ofText ")"
  | .prefixOp op => ofText op ++ inner

theorem traces_marks (call : Nat) (values : List Nat) :
    Traced.Traces (values.flatMap fun value => ofText ", " ++ mark ⟨call, value⟩)
      (String.join (List.replicate values.length ", ?")) := by
  induction values with
  | nil => exact Traced.traces_ofText (by decide : Sql.Plain "")
  | cons value rest ih =>
    have hcomma : (ofText ", ").Traces ", " := Traced.traces_ofText (by decide)
    rw [List.flatMap_cons, List.length_cons, List.replicate_succ, String.join_cons]
    exact (hcomma.append (Traced.traces_mark _)).append ih

theorem traces_apply {s : Strategy} (hplain : Sql.Plain s.word) {t : Traced} {inner : String}
    (h : t.Traces inner) (call count : Nat) : (s.traced call count t).Traces (s.apply inner count) := by
  have hopen : (ofText "(").Traces "(" := Traced.traces_ofText (by decide)
  have hclose : (ofText ")").Traces ")" := Traced.traces_ofText (by decide)
  cases s with
  | infixOp op =>
    have hblank : Sql.Plain " " := by decide
    have hop : Sql.Plain (" " ++ op ++ " ") := (hblank.append hplain).append hblank
    have hall := (((hopen.append h).append (Traced.traces_ofText hop)).append
      (Traced.traces_mark ⟨call, 0⟩)).append hclose
    simpa [apply, traced, String.append_assoc] using hall
  | call name =>
    have hname : Sql.Plain (name ++ "(") := Spelled.append hplain (by decide)
    have hmarks := traces_marks call (List.range count)
    rw [List.length_range] at hmarks
    have hall := (((Traced.traces_ofText hname).append h).append hmarks).append hclose
    simpa [apply, traced, String.append_assoc] using hall
  | prefixOp op => exact (Traced.traces_ofText hplain).append h

/-- A function writes the labels of its own values behind those of the functions inside of it. -/
theorem slots_traced (s : Strategy) (call count : Nat) (inner : Traced) :
    (s.traced call count inner).slots =
      inner.slots ++ (List.range (s.placeholders count)).map (Slot.mk call) := by
  have hmarks : Traced.slots ((List.range count).flatMap fun value => ofText ", " ++ mark ⟨call, value⟩) =
      (List.range count).map (Slot.mk call) := by
    rw [Traced.slots, List.filterMap_flatMap, List.map_eq_flatMap]
    exact List.flatMap_congr fun value _ => Traced.slots_append (ofText ", ") (mark ⟨call, value⟩)
  cases s with
  | infixOp op => simp [traced, placeholders]
  | call name => simpa [traced, placeholders] using hmarks
  | prefixOp op => simp [traced, placeholders]

end Strategy

namespace FunctionCall

/-- The functions around a text, the first of them as call number `index`. -/
def traced (d : Dialect) : Nat → List FunctionCall → Traced → Option Traced
  | _, [], t => some t
  | index, call :: rest, t => do
    let s ← call.function.strategy? d
    traced d (index + 1) rest (s.traced index call.values.length t)

def placeholders (d : Dialect) (call : FunctionCall) : Nat :=
  match call.function.strategy? d with
  | some s => s.placeholders call.values.length
  | none => 0

/-- The values of a call that it binds. -/
def bound (d : Dialect) (call : FunctionCall) : List Value :=
  call.values.take (call.placeholders d)

/-- The values that a chain binds, each with its place; the first call has the number `index`. -/
def placed (d : Dialect) : Nat → List FunctionCall → List (Slot × Value)
  | _, [] => []
  | index, call :: rest =>
    (call.bound d).zipIdx.map (fun (v, value) => (⟨index, value⟩, v)) ++ placed d (index + 1) rest

def marked (d : Dialect) : Nat → List FunctionCall → List Slot
  | _, [] => []
  | index, call :: rest =>
    (List.range (call.placeholders d)).map (Slot.mk index) ++ marked d (index + 1) rest

/-- Whether a call that is written with an infix operator has a value for its right-hand side. -/
def HasOperand (d : Dialect) (call : FunctionCall) : Prop :=
  ∀ op, call.function.strategy? d = some (.infixOp op) → call.values ≠ []

/-- Only an infix operator can lack a value for a placeholder. -/
theorem placeholders_le_iff {call : FunctionCall} :
    call.placeholders d ≤ call.values.length ↔ call.HasOperand d := by
  unfold placeholders HasOperand
  cases call.function.strategy? d with
  | none => simp
  | some s =>
    cases s with
    | infixOp op => simp [Strategy.placeholders, Nat.one_le_iff_ne_zero]
    | call name => simp [Strategy.placeholders]
    | prefixOp op => simp [Strategy.placeholders]

instance (call : FunctionCall) : Decidable (call.HasOperand d) :=
  decidable_of_iff _ placeholders_le_iff

theorem hasOperand_of_arity {call : FunctionCall} (h : call.values.length = call.function.arity) :
    call.HasOperand d := by
  intro op hop hnil
  have harity := Strategy.placeholders_arity hop
  rw [← h, hnil] at harity
  exact Nat.one_ne_zero harity

theorem map_snd_placed (index : Nat) (calls : List FunctionCall) :
    (placed d index calls).map (·.2) = calls.flatMap (bound d) := by
  induction calls generalizing index with
  | nil => rfl
  | cons call rest ih =>
    rw [placed, List.map_append, ih, List.map_map, List.flatMap_cons]
    congr 1
    exact List.zipIdx_map_fst 0 _

theorem length_placed (index : Nat) (calls : List FunctionCall) :
    (placed d index calls).length = (calls.flatMap (bound d)).length := by
  rw [← map_snd_placed index, List.length_map]

theorem marked_eq {calls : List FunctionCall} (h : ∀ call ∈ calls, call.HasOperand d) (index : Nat) :
    marked d index calls = (placed d index calls).map (·.1) := by
  induction calls generalizing index with
  | nil => rfl
  | cons call rest ih =>
    rw [List.forall_mem_cons, ← placeholders_le_iff] at h
    have hlength : (call.bound d).length = call.placeholders d := by
      rw [bound, List.length_take, Nat.min_eq_left h.1]
    rw [marked, placed, List.map_append, ih h.2, List.map_map]
    congr 1
    rw [← hlength, List.range_eq_range', ← List.zipIdx_map_snd, List.map_map]
    rfl

theorem length_placed_cons (index : Nat) (call : FunctionCall) (rest : List FunctionCall) :
    (placed d index (call :: rest)).length =
      min (call.placeholders d) call.values.length + (placed d (index + 1) rest).length := by
  rw [placed, List.length_append, List.length_map, List.length_zipIdx, bound, List.length_take]

theorem length_marked_cons (index : Nat) (call : FunctionCall) (rest : List FunctionCall) :
    (marked d index (call :: rest)).length =
      call.placeholders d + (marked d (index + 1) rest).length := by
  rw [marked, List.length_append, List.length_map, List.length_range]

theorem length_placed_le (index : Nat) (calls : List FunctionCall) :
    (placed d index calls).length ≤ (marked d index calls).length := by
  induction calls generalizing index with
  | nil => exact Nat.le_refl 0
  | cons call rest ih =>
    rw [length_placed_cons, length_marked_cons]
    exact Nat.add_le_add (Nat.min_le_left _ _) (ih (index + 1))

theorem length_marked_eq_iff (index : Nat) {calls : List FunctionCall} :
    (marked d index calls).length = (placed d index calls).length ↔
      ∀ call ∈ calls, call.HasOperand d := by
  constructor
  · intro h
    -- No call binds more values than it writes placeholders, so none makes up for what another one lacks.
    induction calls generalizing index with
    | nil => simp
    | cons call rest ih =>
      have hle := length_placed_le (d := d) (index + 1) rest
      rw [length_placed_cons, length_marked_cons] at h
      rw [List.forall_mem_cons, ← placeholders_le_iff]
      exact ⟨by omega, ih (index + 1) (by omega)⟩
  · intro h
    rw [marked_eq h, List.length_map]

/-- The functions of a field as they are written, with their labels and their values. -/
theorem traces_applyAll {calls : List FunctionCall}
    (hcalls : ∀ call ∈ calls, (call.function.strategy? d).isSome = true) {t : Traced} {text : String}
    (h : t.Traces text) (index : Nat) (values : List Value) :
    ∃ text' t', applyAll d calls text values = .ok (text', values ++ calls.flatMap (bound d)) ∧
      traced d index calls t = some t' ∧ t'.Traces text' ∧ t'.slots = t.slots ++ marked d index calls := by
  -- On the functions still to be written; the text that they stand around keeps its labels.
  induction calls generalizing t text index values with
  | nil => exact ⟨text, t, by simp [applyAll], rfl, h, by simp [marked]⟩
  | cons call rest ih =>
    rw [List.forall_mem_cons] at hcalls
    obtain ⟨s, hs⟩ := Option.isSome_iff_exists.1 hcalls.1
    have hplaceholders : call.placeholders d = s.placeholders call.values.length := by
      simp [placeholders, hs]
    have hnext := Strategy.traces_apply (Strategy.plain_word hs) h index call.values.length
    obtain ⟨text', t', hok, htraced, htraces, hslots⟩ :=
      ih hcalls.2 hnext (index + 1) (values ++ call.bound d)
    refine ⟨text', t', ?_, ?_, htraces, ?_⟩
    · rw [applyAll, bind_eq_ok]
      refine ⟨s, by simp [Function.resolve, hs], ?_⟩
      rw [List.flatMap_cons, ← List.append_assoc, ← hok, bound, hplaceholders]
    · rw [traced, hs]
      exact htraced
    · rw [hslots, Strategy.slots_traced, marked, hplaceholders, List.append_assoc]

end FunctionCall

/-- A column with functions around it has as many placeholders as values if and only if every infix operator
is given a value. Then its `k`-th placeholder from the left is the one written for the `k`-th value of the
chain, which binds the values of its calls in order, of each call as many as its form has placeholders for.
It is so where every function is given as many values as it takes. -/
theorem Field.placeholders_applied {f : Field} (hf : f.Resolves d) {column : String}
    (hcolumn : Sql.Plain column) :
    ∃ q t, f.applied d column = .ok q ∧
      FunctionCall.traced d 0 f.functions (ofText column) = some t ∧
      q.parts.flatMap Sql.Part.marks = t.map (fun x => (x.1, x.2.isSome)) ∧
      q.params = f.functions.flatMap (FunctionCall.bound d) ∧
      (q.placeholderCount = q.params.length ↔ ∀ call ∈ f.functions, call.HasOperand d) ∧
      ((∀ call ∈ f.functions, call.HasOperand d) →
        t.slots = (FunctionCall.placed d 0 f.functions).map (·.1) ∧
        q.params = (FunctionCall.placed d 0 f.functions).map (·.2)) ∧
      ((∀ call ∈ f.functions, call.values.length = call.function.arity) →
        ∀ call ∈ f.functions, call.HasOperand d) := by
  obtain ⟨text, t, hok, htraced, htraces, hslots⟩ :=
    FunctionCall.traces_applyAll hf (Traced.traces_ofText hcolumn) 0 []
  rw [List.nil_append] at hok
  rw [Traced.slots_ofText, List.nil_append] at hslots
  refine ⟨.fragment text (f.functions.flatMap (FunctionCall.bound d)), t, ?_, htraced,
    htraces.marks_split false, rfl, ?_, fun h => ⟨?_, ?_⟩,
    fun h call hcall => FunctionCall.hasOperand_of_arity (h call hcall)⟩
  · rw [applied, bind_eq_ok]
    exact ⟨_, hok, rfl⟩
  · have hcount := htraces.count_split false
    rw [← FunctionCall.length_marked_eq_iff 0, FunctionCall.length_placed, ← hslots, ← hcount]
    rfl
  · rw [hslots, FunctionCall.marked_eq h]
  · exact (FunctionCall.map_snd_placed 0 _).symm

/-- A product with one value too many, a call with two and a difference with one. A product without a value
leaves a placeholder without one. -/
theorem Field.placeholders_applied_nameUnder :
    let column := "sellers.name"
    let f := Sample.nameUnder
      [⟨.times, [.int 2, .int 9]⟩, ⟨.concat, [.text "a", .text "b"]⟩, ⟨.minus, [.int 3]⟩]
    let g := Sample.nameUnder [⟨.times, []⟩, ⟨.concat, [.text "a"]⟩]
    (∃ q t, f.applied .sqlserver column = .ok q ∧
      FunctionCall.traced .sqlserver 0 f.functions (ofText column) = some t ∧
      q.render .sqlserver = "(CONCAT((sellers.name * @p1), @p2, @p3) - @p4)" ∧
      q.parts.flatMap Sql.Part.marks = t.map (fun x => (x.1, x.2.isSome)) ∧
      t.slots = [⟨0, 0⟩, ⟨1, 0⟩, ⟨1, 1⟩, ⟨2, 0⟩] ∧ q.params = [.int 2, .text "a", .text "b", .int 3]) ∧
    ∃ q, g.applied .sqlserver column = .ok q ∧ q.placeholderCount ≠ q.params.length := by
  intro column f g
  have hcolumn : Sql.Plain column := by decide
  constructor
  · obtain ⟨q, t, hq, ht, hmarks, -, -, hplaced, -⟩ :=
      Field.placeholders_applied (d := .sqlserver) (f := f) (by unfold Field.Resolves; decide) hcolumn
    obtain ⟨hslots, hparams⟩ := hplaced (by decide)
    refine ⟨q, t, hq, ht, ?_, hmarks, hslots, hparams⟩
    obtain rfl := Except.ok.inj hq
    decide +kernel
  · obtain ⟨q, t, hq, -, -, -, hcount, -, -⟩ :=
      Field.placeholders_applied (d := .sqlserver) (f := g) (by unfold Field.Resolves; decide) hcolumn
    refine ⟨q, hq, ?_⟩
    rw [ne_eq, hcount]
    decide

end Joinery
