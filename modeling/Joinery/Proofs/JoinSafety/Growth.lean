import Joinery.Proofs.JoinSafety.Parallel
import Joinery.Proofs.JoinSafety.Collections

/-! Walks from more joined models.
A walk that starts with more models joined fails just where the other does. It finds the same, but for what
names the added models, and ends with them joined as well. What a walk adds to the joined models hangs on the
conditions alone, and not on the arguments of their tests for related rows. -/
namespace Joinery
namespace Lint

def without (models : List String) (findings : List Finding) : List Finding :=
  findings.filter fun f => !models.contains f.model

section Walks

variable {config : Config} {known joined joined' more : List String} {v v' w w' : Visit} {m : String}

/-- The second walk has more models joined, and has found what the first has but for them. -/
def FindsWithout (more : List String) (v v' w w' : Visit) : Prop :=
  ∃ new, w.findings = v.findings ++ new ∧ w'.findings = v'.findings ++ without more new

theorem FindsWithout.refl (more : List String) (v v' : Visit) : FindsWithout more v v' v v' :=
  ⟨[], by simp [without]⟩

theorem FindsWithout.check (h : FindsWithout more v v' w w')
    (hj : ∀ m, m ∈ joined' ↔ m ∈ joined ∨ m ∈ more) (m : String) (p : Position) :
    FindsWithout more v v' (w.check joined m p) (w'.check joined' m p) := by
  obtain ⟨new, hw, hw'⟩ := h
  by_cases hjoined : m ∈ joined
  · refine ⟨new, ?_, ?_⟩
    · simp [Visit.check, hjoined, hw]
    · simp [Visit.check, (hj m).2 (.inl hjoined), hw']
  · refine ⟨new ++ [⟨m, p⟩], ?_, ?_⟩
    · simp [Visit.check, hjoined, hw]
    · by_cases hmore : m ∈ more
      · simp [Visit.check, (hj m).2 (.inr hmore), hw', without, hmore]
      · have hno : m ∉ joined' := fun hin => ((hj m).1 hin).elim hjoined hmore
        simp [Visit.check, hno, hw', without, hmore]

/-- Walks of one analysis from models and from more models. -/
def moreJoined (config : Config) (known more : List String) (v v' : Visit) :
    Simulation config known known fun _ => True where
  joined names names' := ∀ m, m ∈ names' ↔ m ∈ names ∨ m ∈ more
  visit := FindsWithout more v v'
  insert hj m x := by
    rw [List.mem_insert_iff, List.mem_insert_iff, hj x, or_assoc]
  check hj hv m p := hv.check hj m p
  operand hj hv t _ := by
    simp only [Analyzer.checkOperands]
    split
    · split
      · exact hv.check hj _ _
      · exact hv
    · exact hv
  see _ hv := hv

end Walks

/-! The models that conditions join. -/

/-- The model of a field, if a tree is a chain of methods from one. -/
def owners (t : CallTree) : List String :=
  match fieldModel t with
  | .ok (model, _) => [model]
  | .error _ => []

mutual

/-- The models that a condition joins for those after it. A test for related rows joins the owner of its
relation alone, whatever its arguments are. -/
def introduced (c : Config) : CallTree → List String
  | .call path _ children _ =>
    if path.getLast?.any c.isConnector then allIntroduced c children
    else
      match modelMember? path, children with
      | some (model, relation), child :: rest =>
        model :: (Analyzer.ofConfig c).relationTargets relation ++ allIntroduced c (child :: rest)
      | _, _ => []
  | .method _ [] _ => []
  | .method name (receiver :: _) _ =>
    if wrappers.contains name then introduced c receiver
    else if c.isComparison name then owners receiver
    else if c.isCollectionMethod name then (relationHandle? receiver).toList.map Prod.fst
    else []
  | .list children _ => allIntroduced c children
  | .other _ => []

def allIntroduced (c : Config) : List CallTree → List String
  | [] => []
  | t :: rest => introduced c t ++ allIntroduced c rest

end

mutual

/-- A condition without the arguments of the tests for related rows in it. -/
def bare (c : Config) : CallTree → CallTree
  | .call path generics children p => .call path generics (allBare c children) p
  | .method name [] p => .method name [] p
  | .method name (receiver :: args) p =>
    if wrappers.contains name then .method name (bare c receiver :: args) p
    else if !c.isComparison name && c.isCollectionMethod name then .method name [receiver] p
    else .method name (receiver :: args) p
  | .list children p => .list (allBare c children) p
  | .other p => .other p

def allBare (c : Config) : List CallTree → List CallTree
  | [] => []
  | t :: rest => bare c t :: allBare c rest

end

variable {a : Analyzer} {c : Config} {joined after : List String} {v w : Visit} {m : String}

theorem allIntroduced_bare_of {ts : List CallTree}
    (h : ∀ t ∈ ts, introduced c (bare c t) = introduced c t) :
    allIntroduced c (allBare c ts) = allIntroduced c ts := by
  induction ts with
  | nil => rfl
  | cons t rest ih =>
    rw [allBare, allIntroduced, allIntroduced, h t List.mem_cons_self,
      ih fun u hu => h u (List.mem_cons_of_mem _ hu)]

theorem introduced_bare (t : CallTree) : introduced c (bare c t) = introduced c t := by
  induction t using CallTree.induct with
  | list children p ih => simpa only [bare, introduced] using allIntroduced_bare_of ih
  | other p => rfl
  | call path generics children p ih =>
    have hbelow := allIntroduced_bare_of ih
    cases children with
    | nil => rfl
    | cons child rest =>
      rw [allBare] at hbelow
      rw [bare, allBare, introduced.eq_def, introduced.eq_def c (.call path generics (child :: rest) p)]
      cases hmember : modelMember? path with
      | none => simp only [hmember, hbelow]
      | some found => simp only [hmember, hbelow]
  | method name children p ih =>
    cases children with
    | nil => rfl
    | cons receiver args =>
      have hreceiver := ih receiver List.mem_cons_self
      by_cases hwrapper : wrappers.contains name = true
      · simp only [bare, introduced, hwrapper, if_true, hreceiver]
      · by_cases hcollection : (!c.isComparison name && c.isCollectionMethod name) = true
        · simp only [bare, hwrapper, hcollection, if_true, if_false, introduced, Bool.false_eq_true]
        · simp only [bare, hwrapper, hcollection, if_false, Bool.false_eq_true]

theorem allIntroduced_bare (ts : List CallTree) : allIntroduced c (allBare c ts) = allIntroduced c ts :=
  allIntroduced_bare_of fun t _ => introduced_bare t

theorem mem_of_comparison {receiver : CallTree} {args : List CallTree}
    (h : a.comparison (receiver :: args) joined v = .ok (after, w)) :
    m ∈ after ↔ m ∈ joined ∨ m ∈ owners receiver := by
  obtain ⟨owner, hmodel, rfl⟩ : ∃ owner, fieldModel receiver = .ok owner ∧ joined.insert owner.1 = after := by
    unfold Analyzer.comparison at h
    split at h
    · cases ‹_ = []›
    · obtain ⟨rfl, rfl⟩ := List.cons.inj ‹_ = _›
      split at h
      · split at h
        · obtain ⟨owner, hmodel, hrest⟩ := bind_eq_ok.1 h
          obtain ⟨u, -, hu⟩ := bind_eq_ok.1 hrest
          exact ⟨owner, hmodel, congrArg Prod.fst (pure_eq_ok.1 hu)⟩
        · cases h
      · split at h
        · obtain ⟨owner, hmodel, hrest⟩ := bind_eq_ok.1 h
          exact ⟨owner, hmodel, congrArg Prod.fst (pure_eq_ok.1 hrest)⟩
        · cases h
      · obtain ⟨owner, hmodel, hrest⟩ := bind_eq_ok.1 h
        exact ⟨owner, hmodel, congrArg Prod.fst (pure_eq_ok.1 hrest)⟩
  rw [List.mem_insert_iff, owners, hmodel, List.mem_singleton, or_comm]

def Introduces (a : Analyzer) (t : CallTree) : Prop :=
  ∀ joined v after w, a.condition joined v t = .ok (after, w) →
    ∀ m, m ∈ after ↔ m ∈ joined ∨ m ∈ introduced a.config t

theorem mem_of_conditions_of {ts : List CallTree} (h : ∀ t ∈ ts, Introduces a t)
    (hwalk : a.conditions joined v ts = .ok (after, w)) :
    m ∈ after ↔ m ∈ joined ∨ m ∈ allIntroduced a.config ts := by
  induction ts generalizing joined v with
  | nil =>
    obtain ⟨rfl, rfl⟩ := Prod.mk.inj (Except.ok.inj hwalk)
    simp [allIntroduced]
  | cons t rest ih =>
    rw [Analyzer.conditions, bind_eq_ok] at hwalk
    obtain ⟨x, hx, hrest⟩ := hwalk
    rw [ih (fun u hu => h u (List.mem_cons_of_mem _ hu)) hrest,
      h t List.mem_cons_self joined v x.1 x.2 hx m, allIntroduced, List.mem_append, or_assoc]

theorem introduces (t : CallTree) : Introduces a t := by
  induction t using CallTree.induct with
  | list children p ih =>
    intro joined v after w h m
    rw [Analyzer.condition] at h
    exact mem_of_conditions_of ih h
  | other p =>
    intro joined v after w h m
    obtain ⟨rfl, rfl⟩ := Prod.mk.inj (Except.ok.inj h)
    simp [introduced]
  | call path generics children p ih =>
    intro joined v after w h m
    rw [Analyzer.condition.eq_def] at h
    rw [introduced.eq_def]
    dsimp only at h ⊢
    by_cases hconnector : path.getLast?.any a.config.isConnector = true
    · rw [if_pos hconnector] at h ⊢
      exact mem_of_conditions_of ih h
    · rw [if_neg hconnector] at h ⊢
      cases hmember : modelMember? path with
      | none =>
        simp only [hmember] at h ⊢
        obtain ⟨rfl, rfl⟩ := Prod.mk.inj (Except.ok.inj h)
        simp
      | some found =>
        cases children with
        | nil =>
          simp only [hmember] at h ⊢
          obtain ⟨rfl, rfl⟩ := Prod.mk.inj (Except.ok.inj h)
          simp
        | cons child rest =>
          simp only [hmember] at h ⊢
          rw [mem_of_conditions_of ih h, mem_joining, List.mem_insert_iff]
          simp only [List.mem_cons, List.mem_append]
          tauto
  | method name children p ih =>
    intro joined v after w h m
    cases children with
    | nil =>
      rw [Analyzer.condition] at h
      split at h
      · cases h
      · obtain ⟨rfl, rfl⟩ := Prod.mk.inj (Except.ok.inj h)
        simp [introduced]
    | cons receiver args =>
      rw [Analyzer.condition] at h
      rw [introduced]
      split at h
      · rename_i hwrapper
        rw [if_pos hwrapper]
        exact ih receiver List.mem_cons_self _ _ _ _ h m
      · rename_i hwrapper
        rw [if_neg hwrapper]
        split at h
        · rename_i hcomparison
          rw [if_pos hcomparison]
          exact mem_of_comparison h
        · rename_i hcomparison
          rw [if_neg hcomparison]
          split at h
          · rename_i hcollection
            rw [if_pos hcollection]
            split at h
            · rename_i hno
              obtain ⟨rfl, rfl⟩ := Prod.mk.inj (Except.ok.inj h)
              simp [hno]
            · rename_i model relation hhandle
              -- whatever the arguments join is forgotten after them
              obtain ⟨x, -, hx⟩ := bind_eq_ok.1 h
              obtain ⟨rfl, -⟩ := Prod.mk.inj (pure_eq_ok.1 hx)
              simp [hhandle, List.mem_insert_iff, or_comm]
          · rename_i hcollection
            rw [if_neg hcollection]
            obtain ⟨rfl, rfl⟩ := Prod.mk.inj (Except.ok.inj h)
            simp

theorem mem_of_conditions {ts : List CallTree} (h : a.conditions joined v ts = .ok (after, w)) (m : String) :
    m ∈ after ↔ m ∈ joined ∨ m ∈ allIntroduced a.config ts :=
  mem_of_conditions_of (fun t _ => introduces t) h

/-! One more condition in front. -/

namespace CallTree

/-- Arguments of a query function with one more condition, which stands first in the list of conditions. -/
def putFirst (t : CallTree) : List CallTree → List CallTree
  | .list cs p :: rest => .list (t :: cs) p :: rest
  | args => t :: args

def prepend (t : CallTree) : CallTree → CallTree
  | .call path generics args p => .call path generics (putFirst t args) p
  | .method name (receiver :: args) p => .method name (prepend t receiver :: args) p
  | .method name [] p => .method name [] p
  | .list children p => .list children p
  | .other p => .other p

end CallTree

namespace Analyzer

variable {t : CallTree} {model relation : String} {qualifier generics : List String} {p p' : Position}

theorem chain_prepend (a : Analyzer) (t site : CallTree) (outer : List (List CallTree)) :
    a.chain outer (t.prepend site) =
      (a.chain outer site).map fun c => { c with arguments := t.putFirst c.arguments } := by
  induction site using CallTree.induct generalizing outer with
  | call path generics args p =>
    rw [CallTree.prepend, chain, chain]
    split <;> rfl
  | method name children p ih =>
    cases children with
    | nil => rfl
    | cons receiver args =>
      have hreceiver := ih receiver List.mem_cons_self
      rw [CallTree.prepend, chain, chain]
      split
      · exact hreceiver _
      · exact hreceiver _
  | list children p ih => rfl
  | other p => rfl

theorem conditions_putFirst (a : Analyzer) (joined : List String) (v : Visit) (t : CallTree)
    (args : List CallTree) : a.conditions joined v (t.putFirst args) =
      a.condition joined v t >>= fun x => a.conditions x.1 x.2 args := by
  fun_cases CallTree.putFirst t args with
  | case1 cs p rest => simp only [conditions, condition, bind_assoc]
  | case2 args h => rw [conditions]

/-- The condition in front joins before all others. -/
theorem walkApart_putFirst {c : Analyzer.Chain} (h : a.condition joined .empty t = .ok (after, .empty)) :
    a.walkApart joined { c with arguments := t.putFirst c.arguments } = a.walkApart after c := by
  rw [walkApart, conditions_putFirst, h]
  rfl

theorem condition_unwrapped (a : Analyzer) (joined : List String) (v : Visit) (t : CallTree) :
    a.condition joined v t = a.condition joined v (unwrapped t) := by
  fun_induction unwrapped t with
  | case1 name receiver rest p hname ih => rwa [condition_wrapped (List.contains_iff_mem.1 hname)]
  | case2 name receiver rest p hname => rfl
  | case3 t h => rfl

theorem condition_join (hmodel : isModelName model = true) (hrelation : a.config.isConnector relation = false)
    (ht : unwrapped t = .call (qualifier ++ [model, relation]) generics [.list [] p'] p) :
    a.condition joined v t =
      .ok (Lint.joining joined (model :: a.relationTargets relation), v) := by
  rw [condition_unwrapped, ht, condition_relation hmodel hrelation]
  rfl

/-- With a join in front, the findings in a statement are those that name neither its owner nor its
targets. -/
theorem callSite_prepend (hmodel : isModelName model = true) (hrelation : a.config.isConnector relation = false)
    (ht : unwrapped t = .call (qualifier ++ [model, relation]) generics [.list [] p'] p) (site : CallTree) :
    a.callSite (t.prepend site) = (a.callSite site).map (without (model :: a.relationTargets relation)) := by
  rw [callSite, callSite, walk_eq, walk_eq, chain_prepend]
  cases a.chain [] site with
  | error e => rfl
  | ok c =>
    -- the join in front makes the walk start with its models joined, up to the methods at the end
    let joined := c.generics.head?.toList
    let more := model :: a.relationTargets relation
    have hwalks : Parallel (FindsWithout more .empty .empty) (a.walkApart joined c)
        (a.walkApart (Lint.joining joined more) c) :=
      (moreJoined a.config a.known more .empty .empty).walkApart (fun _ => mem_joining) (.refl ..)
        fun _ _ => trivial
    change (a.walkApart joined { c with arguments := t.putFirst c.arguments }).map Visit.findings =
      ((a.walkApart joined c).map Visit.findings).map _
    rw [walkApart_putFirst (condition_join hmodel hrelation ht)]
    cases hwalk : a.walkApart joined c with
    | error e =>
      rw [(hwalks.error_iff e).1 hwalk]
      rfl
    | ok w =>
      obtain ⟨w', hwalk', new, hw, hw'⟩ := hwalks.exists_ok hwalk
      rw [hwalk']
      refine congrArg Except.ok ?_
      rw [hw, hw']
      rfl

/-- With more models joined, a walk along conditions fails with the same error or finds the same, in order,
but for what names those models, and ends with them joined as well. What it adds to the joined models
depends on the conditions alone, and is the same without the arguments of the tests for related rows. So the
join of a relation without conditions, put before the conditions of a statement, takes out the findings that
name the owner or a target of the relation, and leaves the others; and this holds for those in the order and
set methods too. -/
theorem findings_joining (a : Analyzer) (joined joined' more : List String)
    (hjoined : ∀ m, m ∈ joined' ↔ m ∈ joined ∨ m ∈ more) (v v' : Visit) (ts : List CallTree) :
    (∀ e, a.conditions joined v ts = .error e ↔ a.conditions joined' v' ts = .error e) ∧
    (∀ after w, a.conditions joined v ts = .ok (after, w) →
      (∀ m, m ∈ after ↔ m ∈ joined ∨ m ∈ allIntroduced a.config ts) ∧
      ∃ after' w' new, a.conditions joined' v' ts = .ok (after', w') ∧
        (∀ m, m ∈ after' ↔ m ∈ after ∨ m ∈ more) ∧
        w.findings = v.findings ++ new ∧ w'.findings = v'.findings ++ without more new) ∧
    allIntroduced a.config (allBare a.config ts) = allIntroduced a.config ts ∧
    ∀ (site t : CallTree) (model relation : String) (qualifier generics : List String) (p p' : Position),
      isModelName model = true → a.config.isConnector relation = false →
      unwrapped t = .call (qualifier ++ [model, relation]) generics [.list [] p'] p →
      a.callSite (t.prepend site) =
        (a.callSite site).map (without (model :: a.relationTargets relation)) := by
  let s := moreJoined a.config a.known more v v'
  have hwalks : Parallel s.Related (a.conditions joined v ts) (a.conditions joined' v' ts) :=
    s.conditions hjoined (.refl ..) fun _ _ => trivial
  refine ⟨hwalks.error_iff, fun after w hwalk => ⟨mem_of_conditions hwalk, ?_⟩, allIntroduced_bare ts,
    fun site t model relation qualifier generics p p' hmodel hrelation ht =>
      callSite_prepend hmodel hrelation ht site⟩
  obtain ⟨⟨after', w'⟩, hwalk', hafter, new, hw, hw'⟩ := hwalks.exists_ok hwalk
  exact ⟨after', w', new, hwalk', hafter, hw, hw'⟩

end Analyzer
end Lint

namespace Sample

open Lint

def unjoinedTree : CallTree :=
  .method "descending" [
    .call ["query"] ["Seller"] [.list [likeCityTree] ⟨2, 23⟩] ⟨2, 5⟩,
    .call ["Company", "name"] [] [] ⟨6, 17⟩] ⟨6, 6⟩

theorem callSite_unjoinedTree :
    linter.callSite unjoinedTree = .ok [⟨"City", ⟨4, 43⟩⟩, ⟨"Company", ⟨6, 17⟩⟩] := by
  decide +kernel

end Sample

namespace Lint

/-- Cities joined beforehand are no finding of the conditions, and companies joined by a first condition are
none of the order. -/
theorem findings_unjoinedTree :
    (∃ after w after' w', Sample.linter.conditions ["Seller"] .empty [Sample.likeCityTree] = .ok (after, w) ∧
      Sample.linter.conditions ["Seller", "City"] .empty [Sample.likeCityTree] = .ok (after', w') ∧
      w.findings = [⟨"City", ⟨4, 43⟩⟩] ∧ w'.findings = []) ∧
    Sample.linter.callSite Sample.unjoinedTree = .ok [⟨"City", ⟨4, 43⟩⟩, ⟨"Company", ⟨6, 17⟩⟩] ∧
    Sample.linter.callSite (Sample.companyTree.prepend Sample.unjoinedTree) = .ok [⟨"City", ⟨4, 43⟩⟩] := by
  have htargets : Sample.linter.relationTargets "company" = ["Company"] := by decide +kernel
  obtain ⟨-, hwalks, -, hprepend⟩ := Analyzer.findings_joining Sample.linter ["Seller"]
    ["Seller", "City"] ["City"] (by simp) .empty .empty [Sample.likeCityTree]
  obtain ⟨x, hwalk⟩ : ∃ x, Sample.linter.conditions ["Seller"] .empty [Sample.likeCityTree] = .ok x := ⟨_, rfl⟩
  obtain ⟨-, after', w', new, hwalk', -, hw, hw'⟩ := hwalks x.1 x.2 hwalk
  obtain rfl := Except.ok.inj hwalk
  refine ⟨⟨_, _, after', w', rfl, hwalk', rfl, ?_⟩, Sample.callSite_unjoinedTree, ?_⟩
  · rw [hw', ← hw.trans (List.nil_append new)]
    rfl
  · rw [hprepend Sample.unjoinedTree Sample.companyTree "Seller" "company" [] [] ⟨3, 9⟩ ⟨3, 25⟩ rfl rfl rfl,
      Sample.callSite_unjoinedTree, htargets]
    rfl

end Lint
end Joinery
