import Joinery.Proofs.JoinSafety.Growth

/-! The order of findings.
A walk takes the chain of a statement apart from the outside, and leaves most of its calls alone. Each step adds
its findings after those before, at some of the calls that it passes and in their order, so that the calls with
findings are a part of all calls of the statement, as they stand in the text. -/
namespace Joinery
namespace Lint

theorem Position.ne_of_before {p q : Position} (h : p.before q = true) : p ≠ q := by
  rintro rfl
  simp [Position.before] at h

namespace CallTree

mutual

/-- The positions of the calls in a tree, in the order of the text: a call before its arguments, and a receiver
before the arguments of its method. -/
def calls : CallTree → List Position
  | .call _ _ children p => p :: allCalls children
  | .method _ children _ => allCalls children
  | .list children _ => allCalls children
  | .other _ => []

def allCalls : List CallTree → List Position
  | [] => []
  | t :: rest => calls t ++ allCalls rest

end

theorem allCalls_append (ts us : List CallTree) : allCalls (ts ++ us) = allCalls ts ++ allCalls us := by
  induction ts with
  | nil => rfl
  | cons t rest ih => rw [List.cons_append, allCalls, allCalls, ih, List.append_assoc]

theorem allCalls_singleton (t : CallTree) : allCalls [t] = t.calls :=
  List.append_nil _

end CallTree

open CallTree

variable {t : CallTree} {ts : List CallTree} {model : String} {p : Position}

theorem mem_calls_of_fieldModel (h : fieldModel t = .ok (model, p)) : p ∈ t.calls := by
  induction t using CallTree.induct with
  | call path generics children q ih =>
    obtain ⟨owner, hmodel⟩ | hmodel := fieldModel_call path generics children q
    · rw [hmodel] at h
      obtain ⟨-, rfl⟩ := Prod.mk.inj (Except.ok.inj h)
      exact List.mem_cons_self
    · rw [hmodel] at h
      cases h
  | method name children q ih =>
    cases children with
    | nil => cases h
    | cons receiver args => exact List.mem_append_left _ (ih receiver List.mem_cons_self h)
  | list children q ih => cases h
  | other q => cases h

theorem mem_calls_of_fieldHandle? (h : fieldHandle? t = some (model, p)) : p ∈ t.calls := by
  fun_induction fieldHandle? t with
  | case1 name receiver rest q hname ih => exact List.mem_append_left _ (ih h)
  | case2 => cases h
  | case3 => cases h
  | case4 path generics q owner member hmember =>
    obtain ⟨-, rfl⟩ := Prod.mk.inj (Option.some.inj h)
    exact List.mem_cons_self
  | case5 => cases h
  | case6 => cases h
  | case7 => cases h

theorem calls_operandList_of (h : ∀ t ∈ ts, (allCalls (operands t)).Sublist t.calls) :
    (allCalls (operandList ts)).Sublist (allCalls ts) := by
  induction ts with
  | nil => exact .refl _
  | cons t rest ih =>
    rw [operandList, allCalls_append]
    exact (h t List.mem_cons_self).append (ih fun u hu => h u (List.mem_cons_of_mem _ hu))

theorem calls_operands (t : CallTree) : (allCalls (operands t)).Sublist t.calls := by
  induction t using CallTree.induct with
  | call path generics children p ih => rw [operands, allCalls_singleton]
  | other p => exact .refl _
  | list children p ih => exact calls_operandList_of ih
  | method name children p ih =>
    cases children with
    | nil => exact .refl _
    | cons receiver args =>
      rw [operands]
      split
      · exact (ih receiver List.mem_cons_self).trans (List.sublist_append_left _ _)
      · rw [allCalls_singleton]

theorem calls_operandList (ts : List CallTree) : (allCalls (operandList ts)).Sublist (allCalls ts) :=
  calls_operandList_of fun t _ => calls_operands t

/-- Whether a visit has found more than another, at some of the positions and in their order. -/
def FindsAt (ps : List Position) (v w : Visit) : Prop :=
  ∃ new, w.findings = v.findings ++ new ∧ (new.map Finding.position).Sublist ps

variable {ps qs : List Position} {v w x : Visit} {joined after : List String} {a : Analyzer}

namespace FindsAt

theorem refl (ps : List Position) (v : Visit) : FindsAt ps v v :=
  ⟨[], by simp⟩

theorem append (h : FindsAt ps v w) (h' : FindsAt qs w x) : FindsAt (ps ++ qs) v x := by
  obtain ⟨new, hw, hnew⟩ := h
  obtain ⟨new', hx, hnew'⟩ := h'
  exact ⟨new ++ new', by rw [hx, hw, List.append_assoc], by simpa using hnew.append hnew'⟩

theorem mono (h : FindsAt ps v w) (hps : ps.Sublist qs) : FindsAt qs v w := by
  obtain ⟨new, hw, hnew⟩ := h
  exact ⟨new, hw, hnew.trans hps⟩

theorem check (v : Visit) (joined : List String) (model : String) (hp : p ∈ ps) :
    FindsAt ps v (v.check joined model p) := by
  unfold Visit.check
  split
  · exact refl ps v
  · exact ⟨[⟨model, p⟩], rfl, List.singleton_sublist.2 hp⟩

end FindsAt

namespace Analyzer

theorem findsAt_checkFields (h : checkFields joined v ts = .ok w) : FindsAt (allCalls ts) v w := by
  induction ts generalizing v with
  | nil =>
    obtain rfl := Except.ok.inj h
    exact .refl _ _
  | cons t rest ih =>
    obtain ⟨⟨model, p⟩, hmodel, hrest⟩ := bind_eq_ok.1 h
    exact (FindsAt.check v joined model (mem_calls_of_fieldModel hmodel)).append (ih hrest)

theorem findsAt_checkOperands (a : Analyzer) (joined : List String) (v : Visit) (ts : List CallTree) :
    FindsAt (allCalls ts) v (a.checkOperands joined v ts) := by
  induction ts generalizing v with
  | nil => exact .refl _ _
  | cons t rest ih =>
    have hskip : FindsAt (allCalls (t :: rest)) v (a.checkOperands joined v rest) :=
      (ih v).mono (List.sublist_append_right _ _)
    rw [checkOperands]
    split
    · rename_i model p hfield
      split
      · exact (FindsAt.check v joined model (mem_calls_of_fieldHandle? hfield)).append (ih _)
      · exact hskip
    · exact hskip

theorem findsAt_comparison (h : a.comparison ts joined v = .ok (after, w)) : FindsAt (allCalls ts) v w := by
  have hoperands {receiver : CallTree} {args : List CallTree}
      (hargs : FindsAt (allCalls (operandList args)) v w) : FindsAt (allCalls (receiver :: args)) v w :=
    hargs.mono ((calls_operandList args).trans (List.sublist_append_right _ _))
  unfold comparison at h
  split at h
  · cases h
  · split at h
    · split at h
      · obtain ⟨owner, -, hrest⟩ := bind_eq_ok.1 h
        obtain ⟨u, hu, hw⟩ := bind_eq_ok.1 hrest
        obtain ⟨-, rfl⟩ := Prod.mk.inj (pure_eq_ok.1 hw)
        exact hoperands (findsAt_checkFields hu)
      · cases h
    · split at h
      · obtain ⟨owner, -, hw⟩ := bind_eq_ok.1 h
        obtain ⟨-, rfl⟩ := Prod.mk.inj (pure_eq_ok.1 hw)
        exact hoperands (findsAt_checkOperands ..)
      · cases h
    · obtain ⟨owner, -, hw⟩ := bind_eq_ok.1 h
      obtain ⟨-, rfl⟩ := Prod.mk.inj (pure_eq_ok.1 hw)
      exact .refl _ _

theorem findsAt_conditions_of (hts : ∀ t ∈ ts, ∀ joined v after w,
      a.condition joined v t = .ok (after, w) → FindsAt t.calls v w)
    (h : a.conditions joined v ts = .ok (after, w)) : FindsAt (allCalls ts) v w := by
  induction ts generalizing joined v with
  | nil =>
    obtain ⟨-, rfl⟩ := Prod.mk.inj (Except.ok.inj h)
    exact .refl _ _
  | cons t rest ih =>
    obtain ⟨⟨joined', u⟩, hfirst, hrest⟩ := bind_eq_ok.1 h
    exact (hts t List.mem_cons_self _ _ _ _ hfirst).append
      (ih (fun u hu => hts u (List.mem_cons_of_mem _ hu)) hrest)

theorem findsAt_condition (h : a.condition joined v t = .ok (after, w)) : FindsAt t.calls v w := by
  refine Analyzer.condition_induct (a := a)
    (motive := fun _ v t x => ∀ after w, x = .ok (after, w) → FindsAt t.calls v w)
    ?skipped ?list ?call ?wrapped ?compared ?tested ?incomplete joined v t after w h
  case skipped =>
    intro joined v t after w h
    obtain ⟨-, rfl⟩ := Prod.mk.inj (Except.ok.inj h)
    exact .refl _ _
  case list => exact fun _ _ _ _ ih after w h => findsAt_conditions_of ih h
  case call =>
    exact fun _ _ _ _ _ _ _ ih after w h => (findsAt_conditions_of ih h).mono (List.sublist_cons_self _ _)
  case wrapped => exact fun _ _ _ _ _ _ ih after w h => (ih after w h).mono (List.sublist_append_left _ _)
  case compared => exact fun _ _ _ _ _ _ after w h => findsAt_comparison h
  case tested =>
    intro joined inner after v name receiver args p ih after' w h
    obtain ⟨⟨scope, u⟩, hargs, hw⟩ := bind_eq_ok.1 h
    obtain ⟨-, rfl⟩ := Prod.mk.inj (pure_eq_ok.1 hw)
    have hfinds : FindsAt (allCalls args) v u := findsAt_conditions_of ih hargs
    exact hfinds.mono (List.sublist_append_right _ _)
  case incomplete => exact fun _ _ _ _ _ _ h => nomatch h

/-- An assignment from a field is found at both fields, the assigned one first. -/
theorem findsAt_checkAssigned (h : checkAssigned joined v ts = .ok w) : FindsAt (allCalls ts) v w := by
  induction ts generalizing v with
  | nil =>
    obtain rfl := Except.ok.inj h
    exact .refl _ _
  | cons t rest ih =>
    obtain ⟨⟨model, p⟩, hmodel, h⟩ := bind_eq_ok.1 h
    dsimp only at h
    split at h
    · rename_i receiver others q _
      obtain ⟨u, hu, hrest⟩ := bind_eq_ok.1 h
      have hp : p ∈ receiver.calls := mem_calls_of_fieldModel hmodel
      have hothers : FindsAt (allCalls others) (v.check joined model p) u :=
        (findsAt_checkFields hu).mono (calls_operandList others)
      exact ((FindsAt.check v joined model hp).append hothers).append (ih hrest)
    · exact (FindsAt.check v joined model (mem_calls_of_fieldModel hmodel)).append (ih h)

theorem findsAt_checkMethods {methods : List (List CallTree)} (h : checkMethods joined v methods = .ok w) :
    FindsAt (methods.flatMap allCalls) v w := by
  induction methods generalizing v with
  | nil =>
    obtain rfl := Except.ok.inj h
    exact .refl _ _
  | cons args rest ih =>
    obtain ⟨u, hu, hrest⟩ := bind_eq_ok.1 h
    rw [List.flatMap_cons]
    exact ((findsAt_checkAssigned hu).mono (calls_operandList args)).append (ih hrest)

/-- Taken apart, a statement keeps its order: the arguments of the query function stand before those of the
methods, and these from the inside out. -/
theorem calls_chain {outer : List (List CallTree)} {c : Analyzer.Chain} (h : a.chain outer t = .ok c) :
    (allCalls c.arguments ++ c.checked.flatMap allCalls).Sublist (t.calls ++ outer.flatMap allCalls) := by
  induction t using CallTree.induct generalizing outer with
  | call path generics children p ih =>
    rw [chain] at h
    split at h
    · obtain rfl := Except.ok.inj h
      exact (List.sublist_cons_self _ _).append (.refl _)
    · cases h
  | method name children p ih =>
    cases children with
    | nil => cases h
    | cons receiver args =>
      rw [chain] at h
      rw [calls, allCalls, List.append_assoc]
      split at h
      · exact ih receiver List.mem_cons_self h
      · exact (ih receiver List.mem_cons_self h).trans
          ((List.Sublist.refl _).append (List.sublist_append_right _ _))
  | list children p ih => cases h
  | other p => cases h

theorem findsAt_walk (h : a.walk t = .ok w) : FindsAt t.calls .empty w := by
  rw [walk_eq] at h
  obtain ⟨c, hchain, h⟩ := bind_eq_ok.1 h
  obtain ⟨⟨joined, v⟩, hconditions, h⟩ := bind_eq_ok.1 h
  obtain ⟨u, hmethods, h⟩ := bind_eq_ok.1 h
  obtain rfl := pure_eq_ok.1 h
  have hfinds := (findsAt_conditions_of (fun _ _ _ _ _ _ => findsAt_condition) hconditions).append
    (findsAt_checkMethods hmethods)
  have hcalls := calls_chain hchain
  rw [List.flatMap_nil, List.append_nil] at hcalls
  exact hfinds.mono hcalls

/-- Findings stand at calls of the statement, in the order of the calls, and none stands where another does. So
if the calls of a statement stand in the order of the text, each after those before it, so do the findings. -/
theorem findings_in_order (a : Analyzer) (t : CallTree) {findings : List Finding}
    (h : a.callSite t = .ok findings) :
    (findings.map Finding.position).Sublist t.calls ∧
    (t.calls.Pairwise (fun p q => p.before q = true) →
      (findings.map Finding.position).Pairwise (fun p q => p.before q = true) ∧
      (findings.map Finding.position).Nodup) := by
  obtain ⟨w, hwalk, rfl⟩ : ∃ w, a.walk t = .ok w ∧ w.findings = findings := by
    unfold callSite at h
    cases hwalk : a.walk t with
    | error e => simp [hwalk, Except.map] at h
    | ok w => exact ⟨w, rfl, by simpa [hwalk, Except.map] using h⟩
  obtain ⟨new, hw, hnew⟩ := findsAt_walk hwalk
  obtain rfl : w.findings = new := hw
  refine ⟨hnew, fun hcalls => ?_⟩
  have hordered := hcalls.sublist hnew
  exact ⟨hordered, hordered.imp Position.ne_of_before⟩

/-- A city in a condition is found before the companies that order the statement. -/
theorem findings_in_order_unjoinedTree :
    Sample.linter.callSite Sample.unjoinedTree = .ok [⟨"City", ⟨4, 43⟩⟩, ⟨"Company", ⟨6, 17⟩⟩] ∧
    Sample.unjoinedTree.calls = [⟨2, 5⟩, ⟨4, 9⟩, ⟨4, 43⟩, ⟨6, 17⟩] ∧
    Sample.unjoinedTree.calls.Pairwise (fun p q => p.before q = true) ∧
    [(⟨4, 43⟩ : Position), ⟨6, 17⟩].Pairwise (fun p q => p.before q = true) := by
  have hcalls : Sample.unjoinedTree.calls.Pairwise (fun p q => p.before q = true) := by decide
  exact ⟨Sample.callSite_unjoinedTree, rfl, hcalls,
    ((findings_in_order _ _ Sample.callSite_unjoinedTree).2 hcalls).1⟩

end Analyzer
end Lint
end Joinery
