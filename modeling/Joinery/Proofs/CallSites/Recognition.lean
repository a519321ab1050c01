import Joinery.Proofs.CallSites.Occurrences
import Joinery.Proofs.JoinSafety.Parallel

/-! What the reader of a file and the analysis take for a statement.
Every tree that is collected from a file is a chain of methods with a receiver each, on a call that begins a
statement. So the analysis takes it apart, and can only fail at a field of its conditions or methods. -/
namespace Joinery
namespace Lint

namespace CallTree

mutual

def hasReceivers : CallTree → Bool
  | .call _ _ children _ => allHaveReceivers children
  | .method _ children _ => !children.isEmpty && allHaveReceivers children
  | .list children _ => allHaveReceivers children
  | .other _ => true

def allHaveReceivers : List CallTree → Bool
  | [] => true
  | t :: rest => hasReceivers t && allHaveReceivers rest

end

theorem allHaveReceivers_iff {ts : List CallTree} :
    allHaveReceivers ts = true ↔ ∀ t ∈ ts, t.hasReceivers = true := by
  induction ts with
  | nil => simp [allHaveReceivers]
  | cons t rest ih => simp [allHaveReceivers, ih]

end CallTree

section Followed

variable {α β : Type} {whole : Prop} {x : Except InspectError α} {f : α → Except InspectError β}

/-- A result that is no error but at a field, or for want of a receiver in a tree that is not whole. -/
def Followed (whole : Prop) (x : Except InspectError α) : Prop :=
  ∀ e, x = .error e → e ≠ .notStatement ∧ (whole → e ≠ .noReceiver)

namespace Followed

theorem ok (a : α) : Followed whole (.ok a) :=
  fun _ h => nomatch h

theorem noReceiver (h : ¬ whole) : Followed whole (.error .noReceiver : Except InspectError α) := by
  intro e he
  obtain rfl := Except.error.inj he
  exact ⟨by decide, fun hwhole => absurd hwhole h⟩

theorem field {e : InspectError} (h : e ≠ .notStatement) (h' : e ≠ .noReceiver) :
    Followed whole (.error e : Except InspectError α) := by
  intro e' he'
  obtain rfl := Except.error.inj he'
  exact ⟨h, fun _ => h'⟩

theorem bind (hx : Followed whole x) (hf : ∀ a, Followed whole (f a)) : Followed whole (x >>= f) := by
  cases x with
  | error e => exact fun e' he' => hx e' (congrArg Except.error (Except.error.inj he'))
  | ok a => exact hf a

end Followed
end Followed

variable {whole : Prop} {t : CallTree} {ts : List CallTree}

/-- Whether trees have all receivers, if the tree that they are of is whole. -/
def Received (whole : Prop) (ts : List CallTree) : Prop :=
  whole → ∀ t ∈ ts, t.hasReceivers = true

namespace Received

theorem head (h : Received whole (t :: ts)) : Received whole [t] :=
  fun hwhole x hx => h hwhole x (List.mem_of_mem_head? (by simpa [eq_comm] using hx))

theorem tail (h : Received whole (t :: ts)) : Received whole ts :=
  fun hwhole x hx => h hwhole x (List.mem_cons_of_mem _ hx)

theorem call {path generics : List String} {p : Position}
    (h : Received whole [.call path generics ts p]) : Received whole ts := fun hwhole =>
  CallTree.allHaveReceivers_iff.1 (h hwhole _ (List.mem_singleton.2 rfl))

theorem list {p : Position} (h : Received whole [.list ts p]) : Received whole ts := fun hwhole =>
  CallTree.allHaveReceivers_iff.1 (h hwhole _ (List.mem_singleton.2 rfl))

theorem method {name : String} {p : Position} (h : Received whole [.method name ts p]) :
    Received whole ts := fun hwhole =>
  CallTree.allHaveReceivers_iff.1 (Bool.and_eq_true_iff.1 (h hwhole _ (List.mem_singleton.2 rfl))).2

theorem not_whole {name : String} {p : Position} (h : Received whole [.method name [] p]) : ¬ whole :=
  fun hwhole => Bool.false_ne_true (h hwhole _ (List.mem_singleton.2 rfl))

end Received

variable {a : Analyzer} {joined : List String} {v : Visit}

theorem followed_fieldModel (h : Received whole [t]) : Followed whole (fieldModel t) := by
  induction t using CallTree.induct with
  | call path generics children p ih =>
    obtain ⟨model, hmodel⟩ | hmodel := fieldModel_call path generics children p
    · exact hmodel ▸ .ok _
    · exact hmodel ▸ .field nofun nofun
  | method name children p ih =>
    cases children with
    | nil => exact .noReceiver h.not_whole
    | cons receiver args => exact ih receiver List.mem_cons_self h.method.head
  | list children p ih => exact .field nofun nofun
  | other p => exact .field nofun nofun

theorem hasReceivers_operands (h : t.hasReceivers = true) : ∀ o ∈ operands t, o.hasReceivers = true := by
  induction t using CallTree.induct with
  | call path generics children p ih => simpa [operands] using h
  | other p =>
    intro o ho
    cases ho
  | list children p ih =>
    rw [operands, operandList_eq_flatMap]
    intro o ho
    obtain ⟨t, ht, ho⟩ := List.mem_flatMap.1 ho
    exact ih t ht (CallTree.allHaveReceivers_iff.1 h t ht) o ho
  | method name children p ih =>
    cases children with
    | nil => cases h
    | cons receiver args =>
      rw [operands]
      split
      · exact ih receiver List.mem_cons_self (Bool.and_eq_true_iff.1 h).1
      · simpa using h

theorem Received.operandList (h : Received whole ts) : Received whole (operandList ts) := by
  intro hwhole o ho
  rw [operandList_eq_flatMap] at ho
  obtain ⟨t, ht, ho⟩ := List.mem_flatMap.1 ho
  exact hasReceivers_operands (h hwhole t ht) o ho

namespace Analyzer

theorem followed_checkFields (h : Received whole ts) : Followed whole (checkFields joined v ts) := by
  induction ts generalizing v with
  | nil => exact .ok v
  | cons t rest ih => exact (followed_fieldModel h.head).bind fun _ => ih h.tail

theorem followed_comparison (h : Received whole ts) (hne : ts ≠ []) :
    Followed whole (a.comparison ts joined v) := by
  unfold comparison
  split
  · exact absurd rfl hne
  · split
    · rename_i args fields p
      cases fields with
      | nil => exact .noReceiver h.head.not_whole
      | cons field rest =>
        exact (followed_fieldModel h.head.method.head).bind fun _ =>
          (followed_checkFields h.tail.operandList).bind fun _ => .ok _
    · rename_i args fields p
      cases fields with
      | nil => exact .noReceiver h.head.not_whole
      | cons field rest => exact (followed_fieldModel h.head.method.head).bind fun _ => .ok _
    · exact (followed_fieldModel h.head).bind fun _ => .ok _

theorem followed_conditions_of (hts : ∀ t ∈ ts, ∀ joined v, Received whole [t] →
      Followed whole (a.condition joined v t)) (h : Received whole ts) :
    Followed whole (a.conditions joined v ts) := by
  induction ts generalizing joined v with
  | nil => exact .ok _
  | cons t rest ih =>
    exact (hts t List.mem_cons_self joined v h.head).bind fun _ =>
      ih (fun u hu => hts u (List.mem_cons_of_mem _ hu)) h.tail

theorem followed_condition (h : Received whole [t]) : Followed whole (a.condition joined v t) := by
  refine Analyzer.condition_induct (a := a) (motive := fun _ _ t x => Received whole [t] → Followed whole x)
    ?skipped ?list ?call ?wrapped ?compared ?tested ?incomplete joined v t h
  case skipped => exact fun _ _ _ _ => .ok _
  case list => exact fun _ _ _ _ ih h => followed_conditions_of ih h.list
  case call => exact fun _ _ _ _ _ _ _ ih h => followed_conditions_of ih h.call
  case wrapped => exact fun _ _ _ _ _ _ ih h => ih h.method.head
  case compared => exact fun _ _ _ _ _ _ h => followed_comparison h.method (List.cons_ne_nil _ _)
  case tested =>
    exact fun _ _ _ _ _ _ _ _ ih h =>
      (followed_conditions_of ih h.method.tail).bind fun _ => .ok _
  case incomplete => exact fun _ _ _ _ h => .noReceiver h.not_whole

theorem followed_checkAssigned (h : Received whole ts) : Followed whole (checkAssigned joined v ts) := by
  induction ts generalizing v with
  | nil => exact .ok v
  | cons t rest ih =>
    simp only [checkAssigned]
    refine (followed_fieldModel h.head).bind fun _ => ?_
    split
    · exact (followed_checkFields h.head.method.tail.operandList).bind fun _ => ih h.tail
    · exact ih h.tail

theorem followed_checkMethods {methods : List (List CallTree)} (h : ∀ args ∈ methods, Received whole args) :
    Followed whole (checkMethods joined v methods) := by
  induction methods generalizing v with
  | nil => exact .ok v
  | cons args rest ih =>
    obtain ⟨hargs, hrest⟩ := List.forall_mem_cons.1 h
    exact (followed_checkAssigned hargs.operandList).bind fun _ => ih hrest

variable {outer : List (List CallTree)} {c : Analyzer.Chain}

/-- A tree is taken apart just if it is a chain of methods on a call that begins a statement. -/
theorem isCallSite_iff_chain (a : Analyzer) (outer : List (List CallTree)) (t : CallTree) :
    a.isCallSite t = true ↔ ∃ c, a.chain outer t = .ok c := by
  induction t using CallTree.induct generalizing outer with
  | call path generics children p ih =>
    rw [isCallSite, chain]
    split
    · rename_i hname
      simp [hname]
    · rename_i hname
      simp [hname]
  | method name children p ih =>
    cases children with
    | nil => simp [isCallSite, chain]
    | cons receiver args =>
      rw [isCallSite, chain]
      split
      · exact ih receiver List.mem_cons_self _
      · exact ih receiver List.mem_cons_self _
  | list children p ih => simp [isCallSite, chain]
  | other p => simp [isCallSite, chain]

theorem chain_eq_error (outer : List (List CallTree)) (h : a.isCallSite t = false) :
    a.chain outer t = .error .notStatement ∨ a.chain outer t = .error .noReceiver := by
  induction t using CallTree.induct generalizing outer with
  | call path generics children p ih =>
    have hname : path.getLast?.any a.config.isQueryFunction = false := h
    rw [chain, hname]
    exact .inl rfl
  | method name children p ih =>
    cases children with
    | nil => exact .inr rfl
    | cons receiver args =>
      rw [chain]
      split
      · exact ih receiver List.mem_cons_self _ h
      · exact ih receiver List.mem_cons_self _ h
  | list children p ih => exact .inl rfl
  | other p => exact .inl rfl

theorem received_chain (h : a.chain outer t = .ok c) (ht : Received whole [t])
    (houter : ∀ args ∈ outer, Received whole args) :
    Received whole c.arguments ∧ ∀ args ∈ c.checked, Received whole args := by
  induction t using CallTree.induct generalizing outer with
  | call path generics children p ih =>
    rw [chain] at h
    split at h
    · obtain rfl := Except.ok.inj h
      exact ⟨ht.call, houter⟩
    · cases h
  | method name children p ih =>
    cases children with
    | nil => cases h
    | cons receiver args =>
      rw [chain] at h
      split at h
      · exact ih receiver List.mem_cons_self h ht.method.head
          (List.forall_mem_cons.2 ⟨ht.method.tail, houter⟩)
      · exact ih receiver List.mem_cons_self h ht.method.head houter
  | list children p ih => cases h
  | other p => cases h

/-- The walk of a statement fails at its fields only, if none of its methods lacks a receiver. -/
theorem followed_walk (h : a.isCallSite t = true) : Followed (t.hasReceivers = true) (a.walk t) := by
  obtain ⟨c, hc⟩ := (isCallSite_iff_chain a [] t).1 h
  have ht : Received (t.hasReceivers = true) [t] := fun hwhole => by simpa using hwhole
  obtain ⟨harguments, hchecked⟩ := received_chain hc ht (by simp)
  rw [walk_eq, hc]
  exact (followed_conditions_of (fun u _ _ _ => followed_condition) harguments).bind fun _ =>
    (followed_checkMethods hchecked).bind fun _ => .ok _

end Analyzer
end Lint

namespace Source
namespace Expr

open Lint (CallTree Analyzer Config)
open Occurrence (leads outermost? statement)

variable {names : List String} {file : List Expr} {t : CallTree}

theorem callTrees_eq_map (es : List Expr) : callTrees es = es.map callTree := by
  induction es with
  | nil => rfl
  | cons e rest ih => rw [callTrees, ih, List.map_cons]

theorem allHaveReceivers_callTrees {es : List Expr} (h : ∀ e ∈ es, (callTree e).hasReceivers = true) :
    CallTree.allHaveReceivers (callTrees es) = true := by
  rw [callTrees_eq_map, CallTree.allHaveReceivers_iff]
  exact List.forall_mem_map.2 h

theorem hasReceivers_callTree (e : Expr) : (callTree e).hasReceivers = true := by
  induction e using induct with
  | step e ih =>
    cases e with
    | path segments generics inner start => rfl
    | call function arguments start =>
      have harguments := allHaveReceivers_callTrees fun x hx =>
        ih (x, false) (List.mem_map_of_mem (List.mem_cons_of_mem function hx))
      cases function
      case path => exact harguments
      all_goals rfl
    | method receiver name inner arguments position =>
      have hreceiver := ih (receiver, true) List.mem_cons_self
      have harguments := allHaveReceivers_callTrees fun x hx =>
        ih (x, false) (List.mem_cons_of_mem _ (List.mem_map_of_mem (List.mem_append_right inner hx)))
      simp [callTree, CallTree.hasReceivers, CallTree.allHaveReceivers, hreceiver, harguments]
    | array elements start =>
      exact allHaveReceivers_callTrees fun x hx => ih (x, false) (List.mem_map_of_mem hx)
    | vector elements start =>
      exact allHaveReceivers_callTrees fun x hx => ih (x, false) (List.mem_map_of_mem hx)
    | wrapped wrapper inner => exact ih (inner, wrapper.isChained) List.mem_cons_self
    | attributed attributes inner =>
      exact ih (inner, true) (List.mem_append_right _ List.mem_cons_self)
    | other inner start => rfl

theorem isCallSite_callTree {a : Analyzer} {e : Expr}
    (h : isCallOf a.config.queryFunctions e.chainBase = true) : a.isCallSite (callTree e) = true := by
  fun_induction chainBase e with
  | case1 receiver name inner arguments position ih => exact ih h
  | case2 wrapper inner hchained ih => exact ih h
  | case3 wrapper inner hchained => cases h
  | case4 attributes inner ih => exact ih h
  | case5 e hmethod hwrapped hattributed =>
    unfold isCallOf at h
    split at h
    · exact h
    · cases h

/-- What is collected is the tree of an expression whose chain begins a statement. -/
theorem exists_of_mem_callSitesIn (h : t ∈ callSitesIn names file) :
    ∃ e, t = callTree e ∧ isCallOf names e.chainBase = true := by
  rw [callSitesIn_eq_map] at h
  obtain ⟨o, ho, rfl⟩ := List.mem_map.1 h
  obtain ⟨hmem, hleads⟩ := List.mem_filter.1 ho
  simp only [leads, Bool.and_eq_true] at hleads
  obtain ⟨⟨hcall, -⟩, -⟩ := hleads
  have hself := chainBase_of_isCallOf hcall
  cases houtermost : outermost? o.around with
  | none => exact ⟨o.expr, by rw [statement, houtermost]; rfl, by rwa [hself]⟩
  | some m =>
    refine ⟨m, by rw [statement, houtermost]; rfl, ?_⟩
    rwa [chainBase_outermost (around_of_mem_occurrencesIn hmem) houtermost, hself]

/-- The reader of a file and the analysis agree on what a statement is. The walk of what is collected with the
names of an analysis takes the chain apart and misses no receiver. Of all trees, the walk gets through the chain
of just those that the analysis takes for statements, and fails in the chain of the others. -/
theorem collected_followed (a : Analyzer) :
    (∀ file, ∀ t ∈ callSitesIn a.config.queryFunctions file, a.isCallSite t = true ∧
      a.walk t ≠ .error .notStatement ∧ a.walk t ≠ .error .noReceiver) ∧
    ∀ t, (a.isCallSite t = true ↔ ∃ c, a.chain [] t = .ok c) ∧
      (a.isCallSite t = true → a.walk t ≠ .error .notStatement) ∧
      (a.isCallSite t = false → a.walk t = .error .notStatement ∨ a.walk t = .error .noReceiver) := by
  refine ⟨fun file t ht => ?_, fun t => ⟨Analyzer.isCallSite_iff_chain a [] t, fun hsite hwalk => ?_, fun h => ?_⟩⟩
  · obtain ⟨e, rfl, hcall⟩ := exists_of_mem_callSitesIn ht
    have hsite := isCallSite_callTree hcall
    have hfollowed := Analyzer.followed_walk hsite
    exact ⟨hsite, fun hwalk => (hfollowed _ hwalk).1 rfl,
      fun hwalk => (hfollowed _ hwalk).2 (hasReceivers_callTree e) rfl⟩
  · exact (Analyzer.followed_walk hsite _ hwalk).1 rfl
  · rw [Analyzer.walk_eq]
    obtain hchain | hchain := Analyzer.chain_eq_error [] h
    · exact .inl (by rw [hchain]; rfl)
    · exact .inr (by rw [hchain]; rfl)

/-- The outer of two nested statements is followed; its arguments alone are no statement. -/
theorem followed_nested :
    callTree Sample.nestedExpr ∈ callSitesIn Config.default.queryFunctions [Sample.nestedExpr] ∧
    (Analyzer.ofConfig .default).isCallSite (callTree Sample.nestedExpr) = true ∧
    (Analyzer.ofConfig .default).walk (callTree Sample.nestedExpr) ≠ .error .notStatement ∧
    (Analyzer.ofConfig .default).isCallSite (.list [] ⟨2, 21⟩) = false ∧
    ((Analyzer.ofConfig .default).walk (.list [] ⟨2, 21⟩) = .error .notStatement ∨
      (Analyzer.ofConfig .default).walk (.list [] ⟨2, 21⟩) = .error .noReceiver) := by
  obtain ⟨hcollected, htrees⟩ := collected_followed (Analyzer.ofConfig .default)
  have hmem : callTree Sample.nestedExpr ∈ callSitesIn Config.default.queryFunctions [Sample.nestedExpr] :=
    List.mem_singleton.2 rfl
  have hsite : (Analyzer.ofConfig .default).isCallSite (.list [] ⟨2, 21⟩) = false := rfl
  exact ⟨hmem, (hcollected _ _ hmem).1, (hcollected _ _ hmem).2.1, hsite, (htrees _).2.2 hsite⟩

end Expr
end Source
end Joinery
