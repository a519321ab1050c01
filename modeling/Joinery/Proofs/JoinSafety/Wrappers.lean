import Joinery.Proofs.JoinSafety.Growth
import Mathlib.Logic.Relation

/-! Wrappers and nested lists.
A walk reads a tree in one of a few ways: along the chain of the statement, as a condition, as an operand, or not
at all but for its head. What it reads as a condition or an operand may be wrapped, and a list that stands in a
list may be opened, without any difference to the walk. -/
namespace Joinery
namespace Lint

/-- How a walk reads a node. -/
inductive Standing where
  /-- A part of the chain of the statement. -/
  | chain
  | condition
  /-- An argument of a comparison, or of an order or set method. -/
  | operand
  /-- Anything else. -/
  | elsewhere
deriving DecidableEq

namespace Standing

def isWrappable : Standing → Bool
  | .condition => true
  | .operand => true
  | .chain => false
  | .elsewhere => false

def inCall (c : Config) (path : List String) : Standing → Standing
  | .chain => if path.getLast?.any c.isQueryFunction then .condition else .elsewhere
  | .condition =>
    if path.getLast?.any c.isConnector || (modelMember? path).isSome then .condition else .elsewhere
  | .operand => .elsewhere
  | .elsewhere => .elsewhere

def receiver (name : String) : Standing → Standing
  | .chain => .chain
  | .condition => if wrappers.contains name then .condition else .elsewhere
  | .operand => if wrappers.contains name then .operand else .elsewhere
  | .elsewhere => .elsewhere

def argument (c : Config) (name : String) : Standing → Standing
  | .chain => if c.isOrderMethod name || c.isSetMethod name then .operand else .elsewhere
  | .condition =>
    if wrappers.contains name then .elsewhere
    else if c.isComparison name then .operand
    else if c.isCollectionMethod name then .condition
    else .elsewhere
  | .operand => if name = "assign_dynamic" then .operand else .elsewhere
  | .elsewhere => .elsewhere

def inList : Standing → Standing
  | .chain => .elsewhere
  | .condition => .condition
  | .operand => .operand
  | .elsewhere => .elsewhere

end Standing

/-- One change to a node that is read in some way: something in it that stands as a condition or operand is
wrapped, or a list in a list is opened. -/
inductive Rewrite (c : Config) : Standing → CallTree → CallTree → Prop where
  | wrap {s : Standing} {name : String} {t : CallTree} {args : List CallTree} {p : Position} :
      s.isWrappable = true → name ∈ wrappers → Rewrite c s t (.method name (t :: args) p)
  | splice {s : Standing} {ts us vs : List CallTree} {p q : Position} :
      Rewrite c s (.list (ts ++ .list us p :: vs) q) (.list (ts ++ us ++ vs) q)
  | inCall {s : Standing} {path generics : List String} {t t' : CallTree} {ts us : List CallTree}
      {p : Position} : Rewrite c (s.inCall c path) t t' →
      Rewrite c s (.call path generics (ts ++ t :: us) p) (.call path generics (ts ++ t' :: us) p)
  | receiver {s : Standing} {name : String} {t t' : CallTree} {args : List CallTree} {p : Position} :
      Rewrite c (s.receiver name) t t' → Rewrite c s (.method name (t :: args) p) (.method name (t' :: args) p)
  | argument {s : Standing} {name : String} {receiver t t' : CallTree} {ts us : List CallTree}
      {p : Position} : Rewrite c (s.argument c name) t t' →
      Rewrite c s (.method name (receiver :: (ts ++ t :: us)) p) (.method name (receiver :: (ts ++ t' :: us)) p)
  | inList {s : Standing} {t t' : CallTree} {ts us : List CallTree} {p : Position} :
      Rewrite c s.inList t t' → Rewrite c s (.list (ts ++ t :: us) p) (.list (ts ++ t' :: us) p)

/-! What a walk reads of a node. -/

def methodName? : CallTree → Option String
  | .method name _ _ => some name
  | _ => none

theorem exists_of_methodName? {t : CallTree} {name : String} (h : methodName? t = some name) :
    ∃ children p, t = .method name children p := by
  unfold methodName? at h
  split at h
  · obtain rfl := Option.some.inj h
    exact ⟨_, _, rfl⟩
  · cases h

def assignedFrom : CallTree → List CallTree
  | .method name (_ :: others) _ => if name = "assign_dynamic" then operandList others else []
  | _ => []

/-- What the checks of fields read of an operand. -/
structure Reading where
  field : Except InspectError (String × Position)
  handle : Option (String × Position)
  assigned : List (Except InspectError (String × Position))

def reading (t : CallTree) : Reading :=
  ⟨fieldModel t, fieldHandle? t, (assignedFrom t).map fieldModel⟩

variable {a : Analyzer} {s : Standing} {joined : List String} {v : Visit} {name : String}
  {path generics : List String} {t t' u : CallTree} {ts ts' us vs : List CallTree} {p q : Position}

/-- Whether two trees are the same to what reads no condition or operand in them. -/
structure SameHead (t t' : CallTree) : Prop where
  field : fieldModel t = fieldModel t'
  handle : fieldHandle? t = fieldHandle? t'
  relation : relationHandle? t = relationHandle? t'
  method : methodName? t = methodName? t'

namespace SameHead

theorem refl (t : CallTree) : SameHead t t :=
  ⟨rfl, rfl, rfl, rfl⟩

theorem list : SameHead (.list ts p) (.list ts' p) :=
  ⟨rfl, rfl, rfl, rfl⟩

theorem call (h : ts ≠ []) (h' : ts' ≠ []) :
    SameHead (.call path generics ts p) (.call path generics ts' p) := by
  obtain ⟨t, rest, rfl⟩ := List.exists_cons_of_ne_nil h
  obtain ⟨t', rest', rfl⟩ := List.exists_cons_of_ne_nil h'
  refine ⟨?_, ?_, rfl, rfl⟩
  · cases hmember : modelMember? path <;> simp [fieldModel, hmember]
  · cases hmember : modelMember? path <;> simp [fieldHandle?, hmember]

theorem methodOf (h : SameHead t t') : SameHead (.method name (t :: ts) p) (.method name (t' :: ts') p) where
  field := h.field
  handle := by
    rw [fieldHandle?, fieldHandle?, h.handle]
  relation := rfl
  method := rfl

end SameHead

theorem reading_congr (h : SameHead t t') (hassigned : (assignedFrom t).map fieldModel =
    (assignedFrom t').map fieldModel) : reading t = reading t' := by
  rw [reading, reading, h.field, h.handle, hassigned]

def SameOperands (ts ts' : List CallTree) : Prop :=
  (operandList ts).map reading = (operandList ts').map reading

namespace SameOperands

theorem around (h : (operands t).map reading = (operands t').map reading) (ts us : List CallTree) :
    SameOperands (ts ++ t :: us) (ts ++ t' :: us) := by
  simp only [SameOperands, operandList_append, operandList, List.map_append, h]

theorem fields (h : SameOperands ts ts') :
    (operandList ts).map fieldModel = (operandList ts').map fieldModel := by
  simpa [Function.comp_def, reading] using congrArg (List.map Reading.field) h

theorem handles (h : SameOperands ts ts') :
    (operandList ts).map fieldHandle? = (operandList ts').map fieldHandle? := by
  simpa [Function.comp_def, reading] using congrArg (List.map Reading.handle) h

end SameOperands

theorem operands_method (h : wrappers.contains name = false) :
    operands (.method name (t :: ts) p) = [.method name (t :: ts) p] := by
  rw [operands, h]
  rfl

theorem operands_wrapped (h : wrappers.contains name = true) :
    operands (.method name (t :: ts) p) = operands t := by
  rw [operands, if_pos h]

namespace Analyzer

theorem checkFields_congr (h : ts.map fieldModel = us.map fieldModel) :
    checkFields joined v ts = checkFields joined v us := by
  induction ts generalizing us v with
  | nil => rw [List.map_eq_nil_iff.1 h.symm]
  | cons t rest ih =>
    obtain ⟨t', rest', rfl, hfirst, hrest⟩ := List.map_eq_cons_iff.1 h.symm
    rw [checkFields, checkFields, hfirst]
    exact bind_congr fun owner => ih hrest.symm

theorem checkOperands_congr (h : ts.map fieldHandle? = us.map fieldHandle?) :
    a.checkOperands joined v ts = a.checkOperands joined v us := by
  induction ts generalizing us v with
  | nil => rw [List.map_eq_nil_iff.1 h.symm]
  | cons t rest ih =>
    obtain ⟨t', rest', rfl, hfirst, hrest⟩ := List.map_eq_cons_iff.1 h.symm
    simp only [checkOperands, hfirst, ih hrest.symm]

theorem checkAssigned_one (joined : List String) (v : Visit) (t : CallTree) :
    checkAssigned joined v [t] = fieldModel t >>= fun owner =>
      checkFields joined (v.check joined owner.1 owner.2) (assignedFrom t) := by
  simp only [checkAssigned]
  refine bind_congr fun owner => ?_
  split
  · exact bind_pure _
  · rename_i hno
    have hnone : assignedFrom t = [] := by
      fun_cases assignedFrom t with
      | case1 receiver others p => exact (hno receiver others p rfl).elim
      | case2 => rfl
      | case3 => rfl
    rw [hnone]
    rfl

theorem checkAssigned_congr (h : ts.map reading = us.map reading) :
    checkAssigned joined v ts = checkAssigned joined v us := by
  induction ts generalizing us v with
  | nil => rw [List.map_eq_nil_iff.1 h.symm]
  | cons t rest ih =>
    obtain ⟨t', rest', rfl, hfirst, hrest⟩ := List.map_eq_cons_iff.1 h.symm
    have hone : checkAssigned joined v [t] = checkAssigned joined v [t'] := by
      have hfield : fieldModel t' = fieldModel t := congrArg Reading.field hfirst
      have hassigned : (assignedFrom t').map fieldModel = (assignedFrom t).map fieldModel :=
        congrArg Reading.assigned hfirst
      rw [checkAssigned_one, checkAssigned_one, hfield]
      exact bind_congr fun owner => checkFields_congr hassigned.symm
    rw [checkAssigned_cons, checkAssigned_cons t', hone]
    exact bind_congr fun w => ih hrest.symm

def checkCompared (a : Analyzer) (mark : Option String) (joined : List String) (v : Visit)
    (args : List CallTree) : Except InspectError Visit :=
  if mark = some "is_dynamic" then checkFields joined v (operandList args)
  else if mark = some "is_unsafe" then .ok (a.checkOperands joined v (operandList args))
  else .ok v

theorem comparison_eq (a : Analyzer) (receiver : CallTree) (args : List CallTree) (joined : List String)
    (v : Visit) : a.comparison (receiver :: args) joined v = fieldModel receiver >>= fun owner =>
      (a.checkCompared (methodName? receiver) (joined.insert owner.1) v args).map (joined.insert owner.1, ·) := by
  unfold comparison
  split
  · cases ‹_ = []›
  · obtain ⟨rfl, rfl⟩ := List.cons.inj ‹_ = _›
    split
    · rename_i fields p _
      cases fields with
      | nil => rfl
      | cons field rest => exact bind_congr fun owner => bind_pure_comp _ _
    · rename_i fields p _
      cases fields with
      | nil => rfl
      | cons field rest => rfl
    · rename_i hdynamic hunsafe
      have hmark {name : String} (h : ∀ fields p, receiver ≠ .method name fields p) :
          methodName? receiver ≠ some name := fun hname => by
        obtain ⟨fields, p, hreceiver⟩ := exists_of_methodName? hname
        exact h fields p hreceiver
      simp only [checkCompared, if_neg (hmark hdynamic), if_neg (hmark hunsafe)]
      rfl

theorem comparison_congr (h : SameHead t t') (hargs : SameOperands ts ts') :
    a.comparison (t :: ts) joined v = a.comparison (t' :: ts') joined v := by
  rw [comparison_eq, comparison_eq, h.field, h.method]
  refine bind_congr fun owner => ?_
  simp only [checkCompared, checkFields_congr hargs.fields, checkOperands_congr hargs.handles]

/-- The rest of the walk, at a part of the chain that the methods stand after. -/
def walkFrom (a : Analyzer) (methods : List (List CallTree)) (t : CallTree) : Except InspectError Visit :=
  a.chain methods t >>= fun c => a.walkApart c.generics.head?.toList c

/-- What the methods after a part of the chain check is all that matters of them. -/
theorem walkFrom_congr {methods methods' : List (List CallTree)}
    (h : ∀ joined v, checkMethods joined v methods = checkMethods joined v methods') (t : CallTree) :
    a.walkFrom methods t = a.walkFrom methods' t := by
  induction t using CallTree.induct generalizing methods methods' with
  | call path generics children p ih =>
    rw [walkFrom, walkFrom, chain, chain]
    split
    · exact bind_congr fun x => congrArg (· >>= _) (h _ _)
    · rfl
  | method name children p ih =>
    cases children with
    | nil => rfl
    | cons receiver args =>
      rw [walkFrom, walkFrom, chain, chain]
      split
      · exact ih receiver List.mem_cons_self fun joined v => bind_congr fun w => h joined w
      · exact ih receiver List.mem_cons_self h
  | list children p ih => rfl
  | other p => rfl

end Analyzer

/-- What a change to a node leaves, for each way of reading it. -/
def Kept (a : Analyzer) : Standing → CallTree → CallTree → Prop
  | .chain, t, t' => ∀ methods, a.walkFrom methods t = a.walkFrom methods t'
  | .condition, t, t' => ∀ joined v, a.condition joined v t = a.condition joined v t'
  | .operand, t, t' => (operands t).map reading = (operands t').map reading
  | .elsewhere, t, t' => SameHead t t'

namespace Kept

open Analyzer

theorem wrap (hs : s.isWrappable = true) (hname : name ∈ wrappers) : Kept a s t (.method name (t :: ts) p) := by
  cases s with
  | chain => cases hs
  | condition => exact fun joined v => (condition_wrapped hname).symm
  | operand => exact congrArg _ (operands_wrapped (List.contains_iff_mem.2 hname)).symm
  | elsewhere => cases hs

theorem splice : Kept a s (.list (ts ++ .list us p :: vs) q) (.list (ts ++ us ++ vs) q) := by
  cases s with
  | chain => exact fun _ => rfl
  | condition =>
    intro joined v
    rw [condition, condition, List.append_assoc, conditions_append, conditions_append ts (us ++ vs)]
    refine bind_congr fun x => ?_
    rw [conditions, condition, conditions_append]
  | operand => simp only [Kept, operands, operandList_append, operandList, List.append_assoc]
  | elsewhere => exact .list

theorem conditions_around (h : ∀ joined v, a.condition joined v t = a.condition joined v t')
    (ts us : List CallTree) (joined : List String) (v : Visit) :
    a.conditions joined v (ts ++ t :: us) = a.conditions joined v (ts ++ t' :: us) := by
  rw [conditions_append, conditions_append ts (t' :: us)]
  exact bind_congr fun x => by rw [conditions, conditions, h]

theorem inList (h : Kept a s.inList t t') : Kept a s (.list (ts ++ t :: us) p) (.list (ts ++ t' :: us) p) := by
  cases s with
  | chain => exact fun _ => rfl
  | condition =>
    intro joined v
    rw [condition, condition]
    exact conditions_around h ts us joined v
  | operand =>
    rw [Kept, operands, operands]
    exact SameOperands.around h ts us
  | elsewhere => exact .list

theorem condition_call (h : ts ≠ []) : a.condition joined v (.call path generics ts p) =
    if path.getLast?.any a.config.isConnector then a.conditions joined v ts
    else
      match modelMember? path with
      | some (model, relation) =>
        a.conditions (joining (joined.insert model) (a.relationTargets relation)) v ts
      | none => .ok (joined, v) := by
  obtain ⟨t, rest, rfl⟩ := List.exists_cons_of_ne_nil h
  rw [condition.eq_def]
  dsimp only
  cases modelMember? path <;> rfl

theorem inCall (h : Kept a (s.inCall a.config path) t t') :
    Kept a s (.call path generics (ts ++ t :: us) p) (.call path generics (ts ++ t' :: us) p) := by
  have hne (t : CallTree) : ts ++ t :: us ≠ [] := by simp
  have hhead : SameHead (.call path generics (ts ++ t :: us) p) (.call path generics (ts ++ t' :: us) p) :=
    .call (hne t) (hne t')
  cases s with
  | chain =>
    intro methods
    rw [walkFrom, walkFrom, chain, chain]
    split
    · rename_i hname
      rw [Standing.inCall, if_pos hname] at h
      change a.walkApart _ ⟨generics, ts ++ t :: us, methods⟩ = a.walkApart _ ⟨generics, ts ++ t' :: us, methods⟩
      rw [walkApart, walkApart, conditions_around h ts us]
    · rfl
  | condition =>
    intro joined v
    rw [condition_call (hne t), condition_call (hne t')]
    by_cases hname : path.getLast?.any a.config.isConnector || (modelMember? path).isSome
    · rw [Standing.inCall, if_pos hname] at h
      simp only [conditions_around h ts us]
    · obtain ⟨hconnector, hmember⟩ := Bool.or_eq_false_iff.1 (Bool.eq_false_iff.2 hname)
      rw [Option.isSome_eq_false_iff, Option.isNone_iff_eq_none] at hmember
      simp only [hconnector, hmember, if_false, Bool.false_eq_true]
  | operand => exact congrArg (fun r => [r]) (reading_congr hhead rfl)
  | elsewhere => exact hhead

theorem receiver (h : Kept a (s.receiver name) t t') :
    Kept a s (.method name (t :: ts) p) (.method name (t' :: ts) p) := by
  cases s with
  | chain =>
    intro methods
    rw [walkFrom, walkFrom, chain, chain]
    split
    · exact h _
    · exact h _
  | condition =>
    intro joined v
    rw [condition, condition]
    rw [Standing.receiver] at h
    split at h
    · rename_i hname
      rw [if_pos hname, if_pos hname]
      exact h joined v
    · rename_i hname
      have hhead : SameHead t t' := h
      rw [if_neg hname, if_neg hname, comparison_congr hhead rfl, hhead.relation]
  | operand =>
    rw [Standing.receiver] at h
    split at h
    · rename_i hname
      rw [Kept, operands_wrapped hname, operands_wrapped hname]
      exact h
    · rename_i hname
      rw [Kept, operands_method (Bool.eq_false_iff.2 hname), operands_method (Bool.eq_false_iff.2 hname)]
      exact congrArg (fun r => [r]) (reading_congr h.methodOf rfl)
  | elsewhere => exact h.methodOf

theorem argument (h : Kept a (s.argument a.config name) t t') :
    Kept a s (.method name (u :: (ts ++ t :: us)) p) (.method name (u :: (ts ++ t' :: us)) p) := by
  have hhead : SameHead (.method name (u :: (ts ++ t :: us)) p) (.method name (u :: (ts ++ t' :: us)) p) :=
    (SameHead.refl u).methodOf
  cases s with
  | chain =>
    intro methods
    rw [walkFrom, walkFrom, chain, chain]
    split
    · rename_i hname
      rw [Standing.argument, if_pos hname] at h
      have hargs : SameOperands (ts ++ t :: us) (ts ++ t' :: us) := .around h ts us
      exact walkFrom_congr (fun joined v => congrArg (· >>= _) (checkAssigned_congr hargs)) u
    · rfl
  | condition =>
    intro joined v
    rw [condition, condition]
    rw [Standing.argument] at h
    split
    · rfl
    · rename_i hwrapper
      rw [if_neg hwrapper] at h
      split
      · rename_i hcomparison
        rw [if_pos hcomparison] at h
        exact comparison_congr (.refl u) (.around h ts us)
      · rename_i hcomparison
        rw [if_neg hcomparison] at h
        split
        · rename_i hcollection
          rw [if_pos hcollection] at h
          simp only [conditions_around h ts us]
        · rfl
  | operand =>
    rw [Kept]
    cases hwrapper : wrappers.contains name with
    | true => rw [operands_wrapped hwrapper, operands_wrapped hwrapper]
    | false =>
      rw [operands_method hwrapper, operands_method hwrapper]
      refine congrArg (fun r => [r]) (reading_congr hhead ?_)
      rw [assignedFrom, assignedFrom]
      split
      · rename_i hname
        rw [Standing.argument, if_pos hname] at h
        exact (SameOperands.around h ts us).fields
      · rfl
  | elsewhere => exact hhead

end Kept

/-- A change to a node leaves what is read of it. -/
theorem Rewrite.kept (h : Rewrite a.config s t t') : Kept a s t t' := by
  induction h with
  | wrap hs hname => exact .wrap hs hname
  | splice => exact .splice
  | inCall _ ih => exact ih.inCall
  | receiver _ ih => exact ih.receiver
  | argument _ ih => exact ih.argument
  | inList _ ih => exact ih.inList

namespace Analyzer

/-- However the conditions and operands of a statement are wrapped, and whatever lists stand in lists, at any
number of places and in both directions: the walk fails with the same error, or finds the same and has seen the
same models. -/
theorem callSite_rewritten (a : Analyzer) {t t' : CallTree}
    (h : Relation.EqvGen (Rewrite a.config .chain) t t') :
    a.callSite t = a.callSite t' ∧ a.models t = a.models t' := by
  have hwalk : a.walk t = a.walk t' := by
    induction h with
    | rel t t' h => exact h.kept []
    | refl t => rfl
    | symm t t' _ ih => exact ih.symm
    | trans t t' t'' _ _ ih ih' => exact ih.trans ih'
  rw [callSite, callSite, models, models, hwalk]
  exact ⟨rfl, rfl⟩

end Analyzer
end Lint

namespace Sample

open Lint

/-- The sellers named like a city, with their condition in a list of its own and the ordering field wrapped
twice. -/
def wrappedTree : CallTree :=
  .method "descending" [
    .call ["query"] ["Seller"] [.list [.list [likeCityTree] ⟨3, 9⟩] ⟨2, 23⟩] ⟨2, 5⟩,
    .method "unwrap" [.method "into" [.call ["Company", "name"] [] [] ⟨6, 17⟩] ⟨6, 33⟩] ⟨6, 40⟩] ⟨6, 6⟩

end Sample

namespace Lint

/-- A list more, and two wrappers. -/
theorem callSite_wrappedTree :
    Relation.EqvGen (Rewrite Sample.linter.config .chain) Sample.unjoinedTree Sample.wrappedTree ∧
    Sample.linter.callSite Sample.wrappedTree = .ok [⟨"City", ⟨4, 43⟩⟩, ⟨"Company", ⟨6, 17⟩⟩] := by
  have hwrap (field : CallTree) {name : String} (hname : name ∈ wrappers) (p : Position) :
      Rewrite Sample.linter.config .chain
        (.method "descending" [
          .call ["query"] ["Seller"] [.list [Sample.likeCityTree] ⟨2, 23⟩] ⟨2, 5⟩, field] ⟨6, 6⟩)
        (.method "descending" [
          .call ["query"] ["Seller"] [.list [Sample.likeCityTree] ⟨2, 23⟩] ⟨2, 5⟩,
          .method name [field] p] ⟨6, 6⟩) :=
    @Rewrite.argument _ _ _ _ _ _ [] [] _ (.wrap rfl hname)
  have hsplice : Rewrite Sample.linter.config .condition (.list [.list [Sample.likeCityTree] ⟨3, 9⟩] ⟨2, 23⟩)
      (.list [Sample.likeCityTree] ⟨2, 23⟩) :=
    @Rewrite.splice _ _ [] _ [] _ _
  have hlist : Rewrite Sample.linter.config .chain Sample.wrappedTree (.method "descending" [
      .call ["query"] ["Seller"] [.list [Sample.likeCityTree] ⟨2, 23⟩] ⟨2, 5⟩, .method "unwrap" [
        .method "into" [.call ["Company", "name"] [] [] ⟨6, 17⟩] ⟨6, 33⟩] ⟨6, 40⟩] ⟨6, 6⟩) :=
    .receiver (@Rewrite.inCall _ _ _ _ _ _ [] [] _ hsplice)
  have hwrapped : Relation.EqvGen (Rewrite Sample.linter.config .chain) Sample.unjoinedTree Sample.wrappedTree :=
    .trans _ _ _ (.rel _ _ (hwrap _ (by decide) ⟨6, 33⟩))
      (.trans _ _ _ (.rel _ _ (hwrap _ (by decide) ⟨6, 40⟩)) (.symm _ _ (.rel _ _ hlist)))
  exact ⟨hwrapped, (Analyzer.callSite_rewritten _ hwrapped).1 ▸ Sample.callSite_unjoinedTree⟩

end Lint
end Joinery
