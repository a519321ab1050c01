import Joinery.Source.Expr
import Mathlib.Data.List.Perm.Basic

/-! The calls of a file that begin statements, and the statements that are collected.
An expression occurs in a file inside other expressions, each of which either goes on with its chain of methods
to it, or holds it beside that chain. A call that begins a statement is collected, once and under all methods of
its chain, unless it stands beside the chain of another statement or in a list of the vector macro. -/
namespace Joinery

namespace Lint
namespace CallTree

/-- The tree at the base of a chain of methods. -/
def base : CallTree → CallTree
  | .method _ (receiver :: _) _ => base receiver
  | t => t

end CallTree
end Lint

namespace Source

open Lint (CallTree Position)

namespace Expr

/-- The expressions directly inside an expression, in the order of the text, each with whether the chain of
methods goes on through it. -/
def branches : Expr → List (Expr × Bool)
  | .path _ _ inner _ => inner.map (·, false)
  | .call function arguments _ => (function :: arguments).map (·, false)
  | .method receiver _ inner arguments _ => (receiver, true) :: (inner ++ arguments).map (·, false)
  | .array elements _ => elements.map (·, false)
  | .vector elements _ => elements.map (·, false)
  | .wrapped wrapper inner => [(inner, wrapper.isChained)]
  | .attributed attributes inner => attributes.map (·, false) ++ [(inner, true)]
  | .other inner _ => inner.map (·, false)

def isMethod : Expr → Bool
  | .method .. => true
  | _ => false

def isVector : Expr → Bool
  | .vector .. => true
  | _ => false

/-- Whether an expression is a statement, perhaps under attributes. -/
def isStatement (names : List String) : Expr → Bool
  | .attributed _ inner => isCallSite names inner
  | e => isCallSite names e

theorem sizeOf_lt_of_mem_branches {e : Expr} {b : Expr × Bool} (h : b ∈ e.branches) :
    sizeOf b.1 < sizeOf e := by
  have hlist (es : List Expr) (hb : b ∈ es.map (·, false)) : sizeOf b.1 < sizeOf es := by
    obtain ⟨x, hx, rfl⟩ := List.mem_map.1 hb
    exact List.sizeOf_lt_of_mem hx
  cases e with
  | path segments generics inner start =>
    have := hlist _ h
    rw [path.sizeOf_spec]
    omega
  | call function arguments start =>
    have := hlist _ h
    rw [List.cons.sizeOf_spec] at this
    rw [call.sizeOf_spec]
    omega
  | method receiver name inner arguments position =>
    rw [method.sizeOf_spec]
    obtain rfl | h := List.mem_cons.1 h
    · dsimp only
      omega
    · rw [List.map_append, List.mem_append] at h
      obtain h | h := h
      · have := hlist _ h
        omega
      · have := hlist _ h
        omega
  | array elements start =>
    have := hlist _ h
    rw [array.sizeOf_spec]
    omega
  | vector elements start =>
    have := hlist _ h
    rw [vector.sizeOf_spec]
    omega
  | wrapped wrapper inner =>
    obtain rfl := List.mem_singleton.1 h
    rw [wrapped.sizeOf_spec]
    dsimp only
    omega
  | attributed attributes inner =>
    rw [attributed.sizeOf_spec]
    obtain h | h := List.mem_append.1 h
    · have := hlist _ h
      omega
    · obtain rfl := List.mem_singleton.1 h
      dsimp only
      omega
  | other inner start =>
    have := hlist _ h
    rw [other.sizeOf_spec]
    omega

/-- Induction over expressions, with the hypothesis for everything directly inside. -/
@[elab_as_elim]
theorem induct {motive : Expr → Prop} (step : ∀ e : Expr, (∀ b ∈ e.branches, motive b.1) → motive e)
    (e : Expr) : motive e :=
  step e fun b _ => induct step b.1
termination_by sizeOf e
decreasing_by exact sizeOf_lt_of_mem_branches ‹_›

end Expr

/-- An expression in a file with the expressions around it, the innermost first. Each of these is marked by
whether its chain of methods goes on through the part that leads to the expression. -/
structure Occurrence where
  expr : Expr
  around : List (Expr × Bool)

namespace Expr

mutual

/-- An expression and everything inside it, in the order of the text. -/
def occurrences (around : List (Expr × Bool)) (e : Expr) : List Occurrence :=
  ⟨e, around⟩ ::
    match e with
    | .path _ _ inner _ => occurrencesOf ((e, false) :: around) inner
    | .call function arguments _ =>
      occurrences ((e, false) :: around) function ++ occurrencesOf ((e, false) :: around) arguments
    | .method receiver _ inner arguments _ =>
      occurrences ((e, true) :: around) receiver ++ (occurrencesOf ((e, false) :: around) inner ++
        occurrencesOf ((e, false) :: around) arguments)
    | .array elements _ => occurrencesOf ((e, false) :: around) elements
    | .vector elements _ => occurrencesOf ((e, false) :: around) elements
    | .wrapped wrapper inner => occurrences ((e, wrapper.isChained) :: around) inner
    | .attributed attributes inner =>
      occurrencesOf ((e, false) :: around) attributes ++ occurrences ((e, true) :: around) inner
    | .other inner _ => occurrencesOf ((e, false) :: around) inner
termination_by structural e

def occurrencesOf (around : List (Expr × Bool)) (es : List Expr) : List Occurrence :=
  match es with
  | [] => []
  | e :: rest => occurrences around e ++ occurrencesOf around rest
termination_by structural es

end

theorem occurrencesOf_eq_flatMap (around : List (Expr × Bool)) (es : List Expr) :
    occurrencesOf around es = es.flatMap (occurrences around) := by
  induction es with
  | nil => rfl
  | cons e rest ih => rw [occurrencesOf, ih, List.flatMap_cons]

theorem occurrences_eq (around : List (Expr × Bool)) (e : Expr) :
    occurrences around e =
      ⟨e, around⟩ :: e.branches.flatMap fun b => occurrences ((e, b.2) :: around) b.1 := by
  rw [occurrences.eq_def]
  cases e <;> simp [branches, occurrencesOf_eq_flatMap, List.flatMap_map]

def occurrencesIn (file : List Expr) : List Occurrence :=
  occurrencesOf [] file

end Expr

namespace Occurrence

open Source.Expr

/-- Whether one of the expressions around is a statement whose chain does not lead to the expression. The first
argument tells whether chains go on through all parts so far. -/
def besideAny (names : List String) : Bool → List (Expr × Bool) → Bool
  | _, [] => false
  | chained, (host, through) :: rest =>
    (host.isStatement names && !(chained && through)) || besideAny names (chained && through) rest

/-- Whether an expression stands beside the chain of a statement: in its arguments, type arguments or
attributes. -/
def isBeside (names : List String) (o : Occurrence) : Bool :=
  besideAny names true o.around

def isInVector (o : Occurrence) : Bool :=
  o.around.any fun host => host.1.isVector

/-- The outermost method call whose chain leads to an expression. -/
def outermost? : List (Expr × Bool) → Option Expr
  | (host, true) :: rest => (outermost? rest).or (if host.isMethod then some host else none)
  | _ => none

/-- An expression under all methods of its chain. -/
def statement (o : Occurrence) : CallTree :=
  callTree ((outermost? o.around).getD o.expr)

/-- Whether an expression is a call that begins a statement, outside of other statements and of lists of the
vector macro. -/
def leads (names : List String) (o : Occurrence) : Bool :=
  isCallOf names o.expr && !o.isBeside names && !o.isInVector

end Occurrence

namespace Expr

open Occurrence

variable {names : List String} {around rest : List (Expr × Bool)} {e host m : Expr} {through : Bool}

/-- Whether expressions stand around an expression as they are marked. -/
def Around : Expr → List (Expr × Bool) → Prop
  | _, [] => True
  | e, (host, through) :: rest => (e, through) ∈ host.branches ∧ Around host rest

/-- Whether nothing inside is collected. -/
def hidden (names : List String) (around : List (Expr × Bool)) : Bool :=
  besideAny names true around || around.any fun host => host.1.isVector

theorem besideAny_false (chained : Bool) (h : besideAny names chained around = true) :
    besideAny names false around = true := by
  induction around generalizing chained with
  | nil => cases h
  | cons host rest ih =>
    rw [besideAny, Bool.or_eq_true] at h ⊢
    obtain h | h := h
    · exact .inl (by rw [(Bool.and_eq_true_iff.1 h).1]; rfl)
    · exact .inr (ih _ h)

theorem hidden_cons (h : hidden names around = true) : hidden names ((host, through) :: around) = true := by
  rw [hidden, Bool.or_eq_true] at h
  obtain h | h := h
  · have hbelow : besideAny names through around = true := by
      cases through with
      | false => exact besideAny_false true h
      | true => exact h
    simp [hidden, besideAny, hbelow]
  · simp [hidden, h]

theorem host_of_chained (h : (e, true) ∈ host.branches) :
    (∃ name inner arguments position, host = .method e name inner arguments position) ∨
      (∃ wrapper, wrapper.isChained = true ∧ host = .wrapped wrapper e) ∨
      ∃ attributes, host = .attributed attributes e := by
  cases host with
  | method receiver name inner arguments position =>
    obtain rfl : e = receiver := by simpa [branches] using h
    exact .inl ⟨_, _, _, _, rfl⟩
  | wrapped wrapper inner =>
    obtain ⟨rfl, hchained⟩ : e = inner ∧ true = wrapper.isChained := by simpa [branches] using h
    exact .inr (.inl ⟨wrapper, hchained.symm, rfl⟩)
  | attributed attributes inner =>
    obtain rfl : e = inner := by simpa [branches] using h
    exact .inr (.inr ⟨_, rfl⟩)
  | path segments generics inner start => simp [branches] at h
  | call function arguments start => simp [branches] at h
  | array elements start => simp [branches] at h
  | vector elements start => simp [branches] at h
  | other inner start => simp [branches] at h

theorem chainBase_of_chained (h : (e, true) ∈ host.branches) : host.chainBase = e.chainBase := by
  obtain ⟨name, inner, arguments, position, rfl⟩ | ⟨wrapper, hchained, rfl⟩ | ⟨attributes, rfl⟩ :=
    host_of_chained h
  · rfl
  · rw [chainBase, if_pos hchained]
  · rfl

theorem isCallOf_of_isCallSite (h : isCallSite names e = true) : isCallOf names e.chainBase = true := by
  cases e with
  | call function arguments start => exact h
  | method receiver name inner arguments position => exact h
  | path segments generics inner start => cases h
  | array elements start => cases h
  | vector elements start => cases h
  | wrapped wrapper inner => cases h
  | attributed attributes inner => cases h
  | other inner start => cases h

theorem isCallOf_of_isStatement (h : isStatement names e = true) : isCallOf names e.chainBase = true := by
  unfold isStatement at h
  split at h
  · rw [chainBase]
    exact isCallOf_of_isCallSite h
  · exact isCallOf_of_isCallSite h

theorem chainBase_of_isCallOf (h : isCallOf names e = true) : e.chainBase = e := by
  unfold isCallOf at h
  split at h
  · rfl
  · cases h

theorem isStatement_of_not_isCallOf (h : isCallOf names e.chainBase = false) : isStatement names e = false :=
  Bool.eq_false_iff.2 fun hstatement => Bool.eq_false_iff.1 h (isCallOf_of_isStatement hstatement)

/-- Where a chain begins with another call, nothing stands beside it as a statement. -/
theorem besideAny_of_not_isCallOf (he : Around e around) (hbase : isCallOf names e.chainBase = false) :
    besideAny names false around = besideAny names true around := by
  induction around generalizing e with
  | nil => rfl
  | cons first rest ih =>
    obtain ⟨host, through⟩ := first
    cases through with
    | false => rfl
    | true =>
      obtain ⟨hmem, hhost⟩ := he
      rw [← chainBase_of_chained hmem] at hbase
      simpa [besideAny, isStatement_of_not_isCallOf hbase] using ih hhost hbase

theorem besideAny_of_outermost_none (he : Around e around) (hsite : isCallSite names e = false)
    (h : outermost? around = none) : besideAny names false around = besideAny names true around := by
  induction around generalizing e with
  | nil => rfl
  | cons first rest ih =>
    obtain ⟨host, through⟩ := first
    cases through with
    | false => rfl
    | true =>
      obtain ⟨hmem, hhost⟩ := he
      rw [outermost?, Option.or_eq_none_iff] at h
      obtain ⟨name, inner, arguments, position, rfl⟩ | ⟨wrapper, -, rfl⟩ | ⟨attributes, rfl⟩ :=
        host_of_chained hmem
      · simp [isMethod] at h
      · simpa [besideAny, isStatement, isCallSite] using ih hhost rfl h.1
      · simpa [besideAny, isStatement, hsite] using ih hhost rfl h.1

theorem besideAny_of_outermost_some (he : Around e around) (hbase : isCallOf names e.chainBase = true)
    (h : outermost? around = some m) : besideAny names false around = true := by
  induction around generalizing e with
  | nil => cases h
  | cons first rest ih =>
    obtain ⟨host, through⟩ := first
    cases through with
    | false => cases h
    | true =>
      obtain ⟨hmem, hhost⟩ := he
      rw [← chainBase_of_chained hmem] at hbase
      rw [besideAny]
      cases hrest : outermost? rest with
      | some m' =>
        obtain rfl : m' = m := by simpa [outermost?, hrest] using h
        simp [ih hhost hbase hrest]
      | none =>
        obtain ⟨name, inner, arguments, position, rfl⟩ | ⟨wrapper, -, rfl⟩ | ⟨attributes, rfl⟩ :=
          host_of_chained hmem
        · have hsite : isStatement names (.method e name inner arguments position) = true := hbase
          simp [hsite]
        · simp [outermost?, hrest, isMethod] at h
        · simp [outermost?, hrest, isMethod] at h

/-! What is collected at an expression in its place. -/

def collected (names : List String) (around : List (Expr × Bool)) (e : Expr) : List CallTree :=
  ((occurrences around e).filter (leads names)).map statement

theorem leads_eq : leads names ⟨e, around⟩ = (isCallOf names e && !hidden names around) := by
  simp [leads, isBeside, isInVector, hidden, Bool.and_assoc]

theorem collected_eq (names : List String) (around : List (Expr × Bool)) (e : Expr) :
    collected names around e =
      (if isCallOf names e && !hidden names around then [statement ⟨e, around⟩] else []) ++
        e.branches.flatMap fun b => collected names ((e, b.2) :: around) b.1 := by
  rw [collected, occurrences_eq, List.filter_cons, List.filter_flatMap, leads_eq]
  split <;> simp [collected, List.map_flatMap]

theorem collected_of_hidden (h : hidden names around = true) : collected names around e = [] := by
  induction e using induct generalizing around with
  | step e ih =>
    rw [collected_eq, h, Bool.not_true, Bool.and_false]
    exact List.flatMap_eq_nil_iff.2 fun b hb => ih b hb (hidden_cons h)

theorem callSitesIn_eq_flatMap (names : List String) (es : List Expr) :
    callSitesIn names es = es.flatMap (callSites names) := by
  induction es with
  | nil => rfl
  | cons e rest ih => rw [callSitesIn, ih, List.flatMap_cons]

/-- What is collected where a chain goes on through an expression: the statement that begins with its base, or
the statements inside it. -/
def sitesAt (names : List String) (around : List (Expr × Bool)) (e : Expr) : List CallTree :=
  match outermost? around with
  | some m => if isCallOf names e.chainBase then [callTree m] else callSites names e
  | none => callSites names e

theorem sitesAt_of_not_isCallOf (h : isCallOf names e.chainBase = false) :
    sitesAt names around e = callSites names e := by
  unfold sitesAt
  split
  · rw [h]
    rfl
  · rfl

/-- Whether what is collected at an expression is as expected, where nothing around hides it. -/
def Collects (names : List String) (e : Expr) : Prop :=
  ∀ around, Around e around → hidden names around = false → collected names around e = sitesAt names around e

theorem hidden_beside (h : hidden names around = false) : hidden names ((e, false) :: around) =
    (isStatement names e || isVector e || besideAny names false around) := by
  obtain ⟨-, hvector⟩ := Bool.or_eq_false_iff.1 h
  simp only [hidden, besideAny, List.any_cons, hvector, Bool.and_false, Bool.not_false, Bool.and_true,
    Bool.or_false]
  ac_rfl

theorem besideAny_of_not_hidden (he : Around e around) (h : hidden names around = false)
    (hbase : isCallOf names e.chainBase = false) : besideAny names false around = false :=
  (besideAny_of_not_isCallOf he hbase).trans (Bool.or_eq_false_iff.1 h).1

theorem collected_beside (he : Around e around) (h : hidden names around = false) {es : List Expr}
    (hes : ∀ x ∈ es, (x, false) ∈ e.branches ∧ Collects names x) :
    (es.map (·, false)).flatMap (fun b => collected names ((e, b.2) :: around) b.1) =
      if isStatement names e || isVector e || besideAny names false around then []
      else callSitesIn names es := by
  rw [← hidden_beside h, List.flatMap_map]
  cases hbelow : hidden names ((e, false) :: around) with
  | true => exact List.flatMap_eq_nil_iff.2 fun x _ => collected_of_hidden hbelow
  | false =>
    rw [if_neg Bool.false_ne_true, callSitesIn_eq_flatMap]
    exact List.flatMap_congr fun x hx => (hes x hx).2 _ ⟨(hes x hx).1, he⟩ hbelow

theorem collected_plain (he : Around e around) (h : hidden names around = false)
    (hbase : isCallOf names e.chainBase = false) (hvector : isVector e = false) {es : List Expr}
    (hbranches : e.branches = es.map (·, false)) (hes : ∀ x ∈ es, Collects names x) :
    collected names around e = callSitesIn names es := by
  have hself : isCallOf names e = false :=
    Bool.eq_false_iff.2 fun hcall => Bool.eq_false_iff.1 hbase ((chainBase_of_isCallOf hcall).symm ▸ hcall)
  have hbeside := besideAny_of_not_hidden he h hbase
  have hmem : ∀ x ∈ es, (x, false) ∈ e.branches ∧ Collects names x := fun x hx =>
    ⟨hbranches ▸ List.mem_map_of_mem hx, hes x hx⟩
  rw [collected_eq, hbranches, collected_beside he h hmem]
  simp [hself, isStatement_of_not_isCallOf hbase, hvector, hbeside]

theorem hidden_chained (hmem : (e, true) ∈ host.branches) :
    hidden names ((host, true) :: around) = hidden names around := by
  have hvector : isVector host = false := by
    obtain ⟨name, inner, arguments, position, rfl⟩ | ⟨wrapper, -, rfl⟩ | ⟨attributes, rfl⟩ :=
      host_of_chained hmem <;> rfl
  simp [hidden, besideAny, hvector]

/-- Nothing hides the part that a chain goes on to, unless it hides the chain. -/
theorem Collects.chained (hinner : Collects names e) (hmem : (e, true) ∈ host.branches)
    (he : Around host around) (h : hidden names around = false) :
    collected names ((host, true) :: around) e = sitesAt names ((host, true) :: around) e :=
  hinner _ ⟨hmem, he⟩ ((hidden_chained hmem).trans h)

theorem callSites_of_isCallSite (h : isCallSite names e = true) : callSites names e = [callTree e] := by
  cases e with
  | call function arguments start => rw [callSites, if_pos h]
  | method receiver name inner arguments position => rw [callSites, if_pos h]
  | path segments generics inner start => cases h
  | array elements start => cases h
  | vector elements start => cases h
  | wrapped wrapper inner => cases h
  | attributed attributes inner => cases h
  | other inner start => cases h

theorem sitesAt_of_isCallSite (h : isCallSite names e = true) :
    sitesAt names around e = [callTree ((outermost? around).getD e)] := by
  unfold sitesAt
  split
  · rename_i m hm
    rw [if_pos (isCallOf_of_isCallSite h), hm]
    rfl
  · rename_i hm
    rw [hm]
    exact callSites_of_isCallSite h

theorem sitesAt_receiver {name : String} {inner arguments : List Expr} {position : Position} :
    sitesAt names ((.method e name inner arguments position, true) :: around) e =
      if isCallOf names e.chainBase then
        [callTree ((outermost? around).getD (.method e name inner arguments position))]
      else callSites names e := by
  rw [sitesAt, outermost?]
  cases outermost? around <;> rfl

theorem sitesAt_chained (h : isMethod host = false) :
    sitesAt names ((host, true) :: around) e = sitesAt names around e := by
  rw [sitesAt, outermost?, h]
  cases houtermost : outermost? around <;> simp [sitesAt, houtermost]

/-- A call that begins a statement is collected, and nothing inside it. -/
theorem collects_call {function : Expr} {arguments : List Expr} {start : Position}
    (hes : ∀ x ∈ function :: arguments, Collects names x) :
    Collects names (.call function arguments start) := by
  intro around he h
  cases hbase : isCallOf names (.call function arguments start) with
  | false =>
    rw [sitesAt_of_not_isCallOf hbase, collected_plain he h hbase rfl rfl hes, callSites, isCallSite, hbase]
    rfl
  | true =>
    have hmem : ∀ x ∈ function :: arguments, (x, false) ∈ (call function arguments start).branches ∧
        Collects names x := fun x hx => ⟨List.mem_map_of_mem hx, hes x hx⟩
    have hsite : isCallSite names (.call function arguments start) = true := hbase
    have hstatement : isStatement names (.call function arguments start) = true := hbase
    rw [sitesAt_of_isCallSite hsite, collected_eq, branches, collected_beside he h hmem, hbase, h, hstatement]
    rfl

/-- A method call is a statement if its chain begins one, and nothing beside its chain is collected then. -/
theorem collects_method {receiver : Expr} {name : String} {inner arguments : List Expr} {position : Position}
    (hreceiver : Collects names receiver) (hes : ∀ x ∈ inner ++ arguments, Collects names x) :
    Collects names (.method receiver name inner arguments position) := by
  intro around he h
  have hchained : (receiver, true) ∈ (method receiver name inner arguments position).branches :=
    List.mem_cons_self
  have hmem : ∀ x ∈ inner ++ arguments,
      (x, false) ∈ (method receiver name inner arguments position).branches ∧ Collects names x :=
    fun x hx => ⟨List.mem_cons_of_mem _ (List.mem_map_of_mem hx), hes x hx⟩
  have hself : isCallOf names (.method receiver name inner arguments position) = false := rfl
  rw [collected_eq, branches, List.flatMap_cons, hreceiver.chained hchained he h, sitesAt_receiver,
    collected_beside he h hmem]
  cases hbase : isCallOf names receiver.chainBase with
  | true =>
    have hsite : isCallSite names (.method receiver name inner arguments position) = true := hbase
    rw [sitesAt_of_isCallSite hsite]
    simp [hself, isStatement, hsite]
  | false =>
    have hsite : isCallSite names (.method receiver name inner arguments position) = false := hbase
    have hbeside := besideAny_of_not_hidden he h hbase
    rw [sitesAt_of_not_isCallOf (e := .method receiver name inner arguments position) hbase, callSites, hsite]
    simp [hself, isStatement, hsite, hbeside, isVector, callSitesIn_eq_flatMap]

theorem collects_attributed {attributes : List Expr} {inner : Expr} (hinner : Collects names inner)
    (hes : ∀ x ∈ attributes, Collects names x) : Collects names (.attributed attributes inner) := by
  intro around he h
  have hchained : (inner, true) ∈ (attributed attributes inner).branches :=
    List.mem_append_right _ (List.mem_singleton.2 rfl)
  have hmem : ∀ x ∈ attributes, (x, false) ∈ (attributed attributes inner).branches ∧ Collects names x :=
    fun x hx => ⟨List.mem_append_left _ (List.mem_map_of_mem hx), hes x hx⟩
  have hself : isCallOf names (.attributed attributes inner) = false := rfl
  rw [collected_eq, branches, List.flatMap_append, collected_beside he h hmem, List.flatMap_singleton,
    hinner.chained hchained he h, sitesAt_chained rfl]
  cases hbase : isCallOf names inner.chainBase with
  | false =>
    have hsite : isCallSite names inner = false :=
      Bool.eq_false_iff.2 fun h => Bool.eq_false_iff.1 hbase (isCallOf_of_isCallSite h)
    have hbeside := besideAny_of_not_hidden he h hbase
    rw [sitesAt_of_not_isCallOf hbase, sitesAt_of_not_isCallOf (e := .attributed attributes inner) hbase,
      callSites]
    simp [hself, isStatement, isVector, hsite, hbeside]
  | true =>
    cases houtermost : outermost? around with
    | some m =>
      have hbeside := besideAny_of_outermost_some he hbase houtermost
      simp [hself, sitesAt, houtermost, hbeside, chainBase, hbase]
    | none =>
      have hbeside : besideAny names false around = false :=
        (besideAny_of_outermost_none he rfl houtermost).trans (Bool.or_eq_false_iff.1 h).1
      cases hsite : isCallSite names inner <;>
        simp [hself, sitesAt, houtermost, hbeside, isStatement, isVector, callSites, hsite]

theorem collects_wrapped {wrapper : Wrapper} {inner : Expr} (hinner : Collects names inner) :
    Collects names (.wrapped wrapper inner) := by
  intro around he h
  cases hchained : wrapper.isChained with
  | false =>
    have hbase : isCallOf names (wrapped wrapper inner).chainBase = false := by
      rw [chainBase, hchained]
      rfl
    have hbranches : (wrapped wrapper inner).branches = [inner].map (·, false) := by
      rw [branches, hchained]
      rfl
    rw [sitesAt_of_not_isCallOf hbase, collected_plain he h hbase rfl hbranches (by simpa using hinner), callSites,
      callSitesIn, callSitesIn, List.append_nil]
  | true =>
    have hmem : (inner, true) ∈ (wrapped wrapper inner).branches := by simp [branches, hchained]
    have hself : isCallOf names (.wrapped wrapper inner) = false := rfl
    rw [collected_eq, branches, hchained, List.flatMap_singleton, hinner.chained hmem he h, sitesAt_chained rfl]
    simp [hself, sitesAt, chainBase, hchained, callSites]

/-- At every expression that nothing hides, the statement of its chain is collected, or the statements inside
it. -/
theorem collects (names : List String) (e : Expr) : Collects names e := by
  induction e using induct with
  | step e ih =>
    cases e with
    | path segments generics inner start =>
      intro around he h
      rw [sitesAt_of_not_isCallOf rfl, callSites]
      exact collected_plain he h rfl rfl rfl fun x hx => ih (x, false) (List.mem_map_of_mem hx)
    | call function arguments start =>
      exact collects_call fun x hx => ih (x, false) (List.mem_map_of_mem hx)
    | method receiver name inner arguments position =>
      exact collects_method (ih (receiver, true) List.mem_cons_self) fun x hx =>
        ih (x, false) (List.mem_cons_of_mem _ (List.mem_map_of_mem hx))
    | array elements start =>
      intro around he h
      rw [sitesAt_of_not_isCallOf rfl, callSites]
      exact collected_plain he h rfl rfl rfl fun x hx => ih (x, false) (List.mem_map_of_mem hx)
    | vector elements start =>
      intro around he h
      have hmem : ∀ x ∈ elements, (x, false) ∈ (vector elements start).branches ∧ Collects names x :=
        fun x hx => ⟨List.mem_map_of_mem hx, ih (x, false) (List.mem_map_of_mem hx)⟩
      rw [sitesAt_of_not_isCallOf rfl, callSites, collected_eq, branches, collected_beside he h hmem]
      rfl
    | wrapped wrapper inner =>
      exact collects_wrapped (ih (inner, wrapper.isChained) (List.mem_singleton.2 rfl))
    | attributed attributes inner =>
      exact collects_attributed (ih (inner, true) (List.mem_append_right _ (List.mem_singleton.2 rfl)))
        fun x hx => ih (x, false) (List.mem_append_left _ (List.mem_map_of_mem hx))
    | other inner start =>
      intro around he h
      rw [sitesAt_of_not_isCallOf rfl, callSites]
      exact collected_plain he h rfl rfl rfl fun x hx => ih (x, false) (List.mem_map_of_mem hx)

/-! The base of a collected statement. -/

theorem around_of_mem {o : Occurrence} (he : Around e around) (h : o ∈ occurrences around e) :
    Around o.expr o.around := by
  induction e using induct generalizing around with
  | step e ih =>
    rw [occurrences_eq, List.mem_cons, List.mem_flatMap] at h
    obtain rfl | ⟨b, hb, ho⟩ := h
    · exact he
    · have hbelow : Around b.1 ((e, b.2) :: around) := ⟨hb, he⟩
      exact ih b hb hbelow ho

theorem chainBase_outermost (he : Around e around) (h : outermost? around = some m) :
    m.chainBase = e.chainBase := by
  induction around generalizing e with
  | nil => cases h
  | cons first rest ih =>
    obtain ⟨host, through⟩ := first
    cases through with
    | false => cases h
    | true =>
      rw [← chainBase_of_chained he.1]
      obtain hrest | ⟨-, hhost⟩ := Option.or_eq_some_iff.1 h
      · exact ih he.2 hrest
      · obtain ⟨-, rfl⟩ : host.isMethod = true ∧ host = m := by simpa using hhost
        rfl

theorem base_callTree (h : isCallOf names e.chainBase = true) : (callTree e).base = callTree e.chainBase := by
  fun_induction chainBase e with
  | case1 receiver name inner arguments position ih => exact ih h
  | case2 wrapper inner hchained ih => exact ih h
  | case3 wrapper inner hchained => cases h
  | case4 attributes inner ih => exact ih h
  | case5 e hmethod hwrapped hattributed =>
    unfold isCallOf at h
    split at h
    · rfl
    · cases h

theorem base_statement {o : Occurrence} (ho : Around o.expr o.around) (h : isCallOf names o.expr = true) :
    o.statement.base = callTree o.expr := by
  have hself := chainBase_of_isCallOf h
  have hbase {m : Expr} (hm : m.chainBase = o.expr) : (callTree m).base = callTree o.expr := by
    have hcall : isCallOf names m.chainBase = true := hm ▸ h
    rw [base_callTree hcall, hm]
  rw [Occurrence.statement]
  cases houtermost : outermost? o.around with
  | none => exact hbase hself
  | some m => exact hbase ((chainBase_outermost ho houtermost).trans hself)

variable {file : List Expr}

theorem around_of_mem_occurrencesIn {o : Occurrence} (h : o ∈ occurrencesIn file) : Around o.expr o.around := by
  rw [occurrencesIn, occurrencesOf_eq_flatMap] at h
  obtain ⟨e, -, ho⟩ := List.mem_flatMap.1 h
  have he : Around e [] := trivial
  exact around_of_mem he ho

/-- The statements of a file are those of the calls that lead them, in the order of the text. -/
theorem callSitesIn_eq_map (names : List String) (file : List Expr) :
    callSitesIn names file = ((occurrencesIn file).filter (leads names)).map statement := by
  rw [callSitesIn_eq_flatMap, occurrencesIn, occurrencesOf_eq_flatMap, List.filter_flatMap, List.map_flatMap]
  exact List.flatMap_congr fun e _ => (collects names e [] trivial rfl).symm

theorem map_base_callSitesIn (names : List String) (file : List Expr) :
    (callSitesIn names file).map CallTree.base =
      ((occurrencesIn file).filter (leads names)).map fun o => callTree o.expr := by
  rw [callSitesIn_eq_map, List.map_map]
  refine List.map_congr_left fun o ho => ?_
  obtain ⟨hmem, hleads⟩ := List.mem_filter.1 ho
  simp only [leads, Bool.and_eq_true] at hleads
  exact base_statement (around_of_mem_occurrencesIn hmem) hleads.1.1

/-- The statements of a file are collected by the calls that lead them, in the order of the text, and each is
the chain of methods on its call. So every call that begins a statement is the base of just one statement
collected, if and only if each of these calls leads: none stands beside the chain of another statement, and none
in a list of the vector macro. -/
theorem statements_collected (names : List String) (file : List Expr) :
    callSitesIn names file = ((occurrencesIn file).filter (leads names)).map statement ∧
    (callSitesIn names file).map CallTree.base =
      ((occurrencesIn file).filter (leads names)).map (fun o => callTree o.expr) ∧
    (((callSitesIn names file).map CallTree.base).Perm
        (((occurrencesIn file).filter fun o => isCallOf names o.expr).map fun o => callTree o.expr) ↔
      ∀ o ∈ occurrencesIn file, isCallOf names o.expr = true → leads names o = true) := by
  refine ⟨callSitesIn_eq_map names file, map_base_callSitesIn names file, ?_⟩
  have hleads : (occurrencesIn file).filter (leads names) =
      ((occurrencesIn file).filter fun o => isCallOf names o.expr).filter (leads names) := by
    rw [List.filter_filter]
    refine List.filter_congr fun o _ => ?_
    simp only [leads]
    cases isCallOf names o.expr <;> simp
  rw [map_base_callSitesIn, hleads]
  constructor
  · intro hperm o ho hcall
    -- nothing is left out where there are as many statements as calls
    have hlength := hperm.length_eq
    rw [List.length_map, List.length_map, List.length_filter_eq_length_iff] at hlength
    exact hlength o (List.mem_filter.2 ⟨ho, hcall⟩)
  · intro hall
    rw [List.filter_eq_self.2]
    intro o ho
    obtain ⟨hmem, hcall⟩ := List.mem_filter.1 ho
    exact hall o hmem hcall

end Expr
end Source

namespace Sample

open Source

def statementNames : List String :=
  ["query", "update", "delete"]

def sellersExpr : Expr :=
  .method (.call (.path ["query"] ["Seller"] [] ⟨2, 5⟩) [.vector [] ⟨2, 21⟩] ⟨2, 5⟩) "compile" []
    [.path ["d"] [] [] ⟨2, 37⟩] ⟨2, 29⟩

def companiesExpr : Expr :=
  .method (.call (.path ["delete"] ["Company"] [] ⟨2, 53⟩) [.vector [] ⟨2, 71⟩] ⟨2, 53⟩) "compile" []
    [.path ["d"] [] [] ⟨2, 87⟩] ⟨2, 79⟩

/-- The first statement, with a closure after it in which the second stands. -/
def nestedExpr : Expr :=
  .method sellersExpr "and_then" [] [.other [companiesExpr] ⟨2, 49⟩] ⟨2, 40⟩

end Sample

namespace Source
namespace Expr

open Lint (CallTree)
open Occurrence

/-- Two statements one after the other are both collected. -/
theorem statements_separate :
    (∀ o ∈ occurrencesIn [Sample.sellersExpr, Sample.companiesExpr],
      isCallOf Sample.statementNames o.expr = true → leads Sample.statementNames o = true) ∧
    ((callSitesIn Sample.statementNames [Sample.sellersExpr, Sample.companiesExpr]).map CallTree.base).Perm
      (((occurrencesIn [Sample.sellersExpr, Sample.companiesExpr]).filter fun o =>
        isCallOf Sample.statementNames o.expr).map fun o => callTree o.expr) := by
  have hall : ∀ o ∈ occurrencesIn [Sample.sellersExpr, Sample.companiesExpr],
      isCallOf Sample.statementNames o.expr = true → leads Sample.statementNames o = true := by
    decide
  exact ⟨hall, (statements_collected _ _).2.2.2 hall⟩

/-- The call in the closure begins a statement of its own, outside of all macros, which is not collected. -/
theorem statement_uncollected :
    ∃ o ∈ occurrencesIn [Sample.nestedExpr], isCallOf Sample.statementNames o.expr = true ∧
      o.isInVector = false ∧
      ∀ t ∈ callSitesIn Sample.statementNames [Sample.nestedExpr], t.base ≠ callTree o.expr := by
  have hsites : callSitesIn Sample.statementNames [Sample.nestedExpr] = [callTree Sample.nestedExpr] := rfl
  refine ⟨⟨.call (.path ["delete"] ["Company"] [] ⟨2, 53⟩) [.vector [] ⟨2, 71⟩] ⟨2, 53⟩,
    [(Sample.companiesExpr, true), (.other [Sample.companiesExpr] ⟨2, 49⟩, false), (Sample.nestedExpr, false)]⟩,
    ?_, rfl, rfl, ?_⟩
  · simp [occurrencesIn, occurrencesOf, occurrences, Sample.nestedExpr, Sample.sellersExpr, Sample.companiesExpr]
  · rw [hsites]
    simp [Sample.nestedExpr, Sample.sellersExpr, callTree, callTrees, CallTree.base]

end Expr
end Source
end Joinery
