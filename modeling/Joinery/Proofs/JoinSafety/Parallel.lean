import Joinery.Proofs.JoinSafety.Walk

/-! Two walks along one tree.
Analyses that look for the same names go the same way through a tree, whatever they have joined before and
whatever models they know: they fail with the same error, or both succeed. A relation between their states
that every step keeps is kept by whole walks. -/
namespace Joinery
namespace Lint

section Parallel

variable {ε α β γ δ : Type} {R : α → β → Prop} {S : γ → δ → Prop}

/-- Two results that are the same error, or values in a relation. -/
inductive Parallel (R : α → β → Prop) : Except ε α → Except ε β → Prop where
  | error (e : ε) : Parallel R (.error e) (.error e)
  | ok {x : α} {y : β} : R x y → Parallel R (.ok x) (.ok y)

namespace Parallel

theorem bind {x : Except ε α} {y : Except ε β} {f : α → Except ε γ} {g : β → Except ε δ}
    (h : Parallel R x y) (hfg : ∀ a b, R a b → Parallel S (f a) (g b)) :
    Parallel S (x >>= f) (y >>= g) := by
  cases h with
  | error e => exact .error e
  | ok hxy => exact hfg _ _ hxy

theorem bind_same (x : Except ε α) {f : α → Except ε γ} {g : α → Except ε δ}
    (hfg : ∀ a, Parallel S (f a) (g a)) : Parallel S (x >>= f) (x >>= g) := by
  cases x with
  | error e => exact .error e
  | ok a => exact hfg a

theorem map_eq {x : Except ε α} {y : Except ε β} {f : α → γ} {g : β → γ} (h : Parallel R x y)
    (hfg : ∀ a b, R a b → f a = g b) : x.map f = y.map g := by
  cases h with
  | error e => rfl
  | ok hxy => exact congrArg Except.ok (hfg _ _ hxy)

theorem error_iff {x : Except ε α} {y : Except ε β} (h : Parallel R x y) (e : ε) :
    x = .error e ↔ y = .error e := by
  cases h with
  | error e' => simp
  | ok hxy => simp

theorem exists_ok {x : Except ε α} {y : Except ε β} (h : Parallel R x y) {a : α} (hx : x = .ok a) :
    ∃ b, y = .ok b ∧ R a b := by
  cases h with
  | error e => cases hx
  | ok hxy => exact ⟨_, rfl, Except.ok.inj hx ▸ hxy⟩

theorem exists_ok_left {x : Except ε α} {y : Except ε β} (h : Parallel R x y) {b : β} (hy : y = .ok b) :
    ∃ a, x = .ok a ∧ R a b := by
  cases h with
  | error e => cases hy
  | ok hxy => exact ⟨_, rfl, Except.ok.inj hy ▸ hxy⟩

end Parallel
end Parallel

@[elab_as_elim]
theorem CallTree.induct {motive : CallTree → Prop}
    (call : ∀ path generics children p, (∀ t ∈ children, motive t) → motive (.call path generics children p))
    (method : ∀ name children p, (∀ t ∈ children, motive t) → motive (.method name children p))
    (list : ∀ children p, (∀ t ∈ children, motive t) → motive (.list children p))
    (other : ∀ p, motive (.other p)) (t : CallTree) : motive t :=
  @CallTree.rec motive (fun ts => ∀ t ∈ ts, motive t) call method list other
    (fun _ h => nomatch h) (fun _ _ ht hts => List.forall_mem_cons.2 ⟨ht, hts⟩) t

/-- Induction along the walk of one condition, with a case for each thing that it may do at a node: pass it over,
walk its children or its receiver, compare, test for related rows, or miss a receiver. -/
theorem Analyzer.condition_induct {a : Analyzer}
    {motive : List String → Visit → CallTree → Except InspectError (List String × Visit) → Prop}
    (skipped : ∀ joined v t, motive joined v t (.ok (joined, v)))
    (list : ∀ joined v children p, (∀ t ∈ children, ∀ joined v, motive joined v t (a.condition joined v t)) →
      motive joined v (.list children p) (a.conditions joined v children))
    (call : ∀ joined inner v path generics children p,
      (∀ t ∈ children, ∀ joined v, motive joined v t (a.condition joined v t)) →
      motive joined v (.call path generics children p) (a.conditions inner v children))
    (wrapped : ∀ joined v name receiver args p, motive joined v receiver (a.condition joined v receiver) →
      motive joined v (.method name (receiver :: args) p) (a.condition joined v receiver))
    (compared : ∀ joined v name receiver args p,
      motive joined v (.method name (receiver :: args) p) (a.comparison (receiver :: args) joined v))
    (tested : ∀ joined inner after v name receiver args p,
      (∀ t ∈ args, ∀ joined v, motive joined v t (a.condition joined v t)) →
      motive joined v (.method name (receiver :: args) p)
        (a.conditions inner v args >>= fun x => pure (after, x.2.see x.1)))
    (incomplete : ∀ joined v name p, motive joined v (.method name [] p) (.error .noReceiver))
    (joined : List String) (v : Visit) (t : CallTree) : motive joined v t (a.condition joined v t) := by
  induction t using CallTree.induct generalizing joined v with
  | list children p ih => exact list joined v children p fun t ht joined v => ih t ht joined v
  | other p => exact skipped joined v _
  | call path generics children p ih =>
    have hbelow (inner : List String) :=
      call joined inner v path generics children p fun t ht joined v => ih t ht joined v
    rw [condition.eq_def]
    dsimp only
    split
    · exact hbelow joined
    · split
      · exact hbelow _
      · exact skipped joined v _
  | method name children p ih =>
    cases children with
    | nil =>
      rw [condition]
      split
      · exact incomplete joined v name p
      · exact skipped joined v _
    | cons receiver args =>
      rw [condition]
      split
      · exact wrapped joined v name receiver args p (ih receiver List.mem_cons_self joined v)
      · split
        · exact compared joined v name receiver args p
        · split
          · split
            · exact skipped joined v _
            · exact tested joined _ _ v name receiver args p fun t ht joined v =>
                ih t (List.mem_cons_of_mem _ ht) joined v
          · exact skipped joined v _

/-! Untyped operands. -/

def ownUntyped (c : Config) (name : String) : List CallTree → List CallTree
  | .method "is_unsafe" _ _ :: args => if c.isComparison name then operandList args else []
  | _ => []

mutual

/-- The operands of all comparisons in a tree that compare a field with operands of any type. -/
def untyped (c : Config) : CallTree → List CallTree
  | .call _ _ children _ => allUntyped c children
  | .method name children _ => ownUntyped c name children ++ allUntyped c children
  | .list children _ => allUntyped c children
  | .other _ => []

def allUntyped (c : Config) : List CallTree → List CallTree
  | [] => []
  | t :: rest => untyped c t ++ allUntyped c rest

end

/-- Relations between the states of two analyses that look for the same names: between the models that they
have joined, and between their visits. Every step keeps them, at the untyped operands that it may meet. -/
structure Simulation (config : Config) (known known' : List String) (Met : CallTree → Prop) where
  joined : List String → List String → Prop
  visit : Visit → Visit → Prop
  insert : ∀ {names names'}, joined names names' → ∀ m, joined (names.insert m) (names'.insert m)
  check : ∀ {names names' v v'}, joined names names' → visit v v' → ∀ m p,
    visit (v.check names m p) (v'.check names' m p)
  operand : ∀ {names names' v v'}, joined names names' → visit v v' → ∀ t, Met t →
    visit (Analyzer.checkOperands ⟨config, known⟩ names v [t])
      (Analyzer.checkOperands ⟨config, known'⟩ names' v' [t])
  see : ∀ {names names' v v'}, joined names names' → visit v v' → visit (v.see names) (v'.see names')

theorem Analyzer.checkOperands_cons (a : Analyzer) (names : List String) (v : Visit) (t : CallTree)
    (rest : List CallTree) :
    a.checkOperands names v (t :: rest) = a.checkOperands names (a.checkOperands names v [t]) rest := by
  simp only [checkOperands]
  cases fieldHandle? t with
  | none => rfl
  | some found =>
    simp only
    split <;> rfl

def Analyzer.walkApart (a : Analyzer) (joined : List String) (c : Analyzer.Chain) :
    Except InspectError Visit := do
  let (joined, v) ← a.conditions joined .empty c.arguments
  return (← checkMethods joined v c.checked).see joined

theorem Analyzer.walk_eq (a : Analyzer) (t : CallTree) :
    a.walk t = a.chain [] t >>= fun c => a.walkApart c.generics.head?.toList c :=
  rfl

namespace Simulation

variable {config : Config} {known known' : List String} {Met : CallTree → Prop}
  (s : Simulation config known known' Met) {names names' : List String} {v v' : Visit}

/-- The states of two walks. -/
def Related (x y : List String × Visit) : Prop :=
  s.joined x.1 y.1 ∧ s.visit x.2 y.2

/-- Whether the walks along a condition keep the relations. -/
def Kept (t : CallTree) : Prop :=
  ∀ names names' v v', s.joined names names' → s.visit v v' → (∀ o ∈ untyped config t, Met o) →
    Parallel s.Related (Analyzer.condition ⟨config, known⟩ names v t)
      (Analyzer.condition ⟨config, known'⟩ names' v' t)

theorem joining (hj : s.joined names names') (more : List String) :
    s.joined (Lint.joining names more) (Lint.joining names' more) := by
  induction more generalizing names names' with
  | nil => exact hj
  | cons m rest ih => exact ih (s.insert hj m)

theorem checkFields (hj : s.joined names names') (hv : s.visit v v') (ts : List CallTree) :
    Parallel s.visit (Analyzer.checkFields names v ts) (Analyzer.checkFields names' v' ts) := by
  induction ts generalizing v v' with
  | nil => exact .ok hv
  | cons t rest ih =>
    simp only [Analyzer.checkFields]
    exact .bind_same _ fun owner => ih (s.check hj hv owner.1 owner.2)

theorem checkOperands (hj : s.joined names names') (hv : s.visit v v') {ts : List CallTree}
    (hts : ∀ t ∈ ts, Met t) :
    s.visit (Analyzer.checkOperands ⟨config, known⟩ names v ts)
      (Analyzer.checkOperands ⟨config, known'⟩ names' v' ts) := by
  induction ts generalizing v v' with
  | nil => exact hv
  | cons t rest ih =>
    rw [Analyzer.checkOperands_cons, Analyzer.checkOperands_cons _ names']
    exact ih (s.operand hj hv t (hts t List.mem_cons_self)) fun x hx => hts x (List.mem_cons_of_mem _ hx)

theorem comparison (hj : s.joined names names') (hv : s.visit v v') {name : String}
    (hname : config.isComparison name = true) {children : List CallTree}
    (hmet : ∀ t ∈ ownUntyped config name children, Met t) :
    Parallel s.Related (Analyzer.comparison ⟨config, known⟩ children names v)
      (Analyzer.comparison ⟨config, known'⟩ children names' v') := by
  unfold Analyzer.comparison
  split
  · exact .error _
  · split
    · split
      · exact .bind_same _ fun owner =>
          (s.checkFields (s.insert hj owner.1) hv _).bind fun _ _ hw => .ok ⟨s.insert hj owner.1, hw⟩
      · exact .error _
    · split
      · refine .bind_same _ fun owner => .ok ⟨s.insert hj owner.1, ?_⟩
        exact s.checkOperands (s.insert hj owner.1) hv (by simpa [ownUntyped, hname] using hmet)
      · exact .error _
    · exact .bind_same _ fun owner => .ok ⟨s.insert hj owner.1, hv⟩

theorem conditions_of {ts : List CallTree} (h : ∀ t ∈ ts, s.Kept t) (hj : s.joined names names')
    (hv : s.visit v v') (hmet : ∀ o ∈ allUntyped config ts, Met o) :
    Parallel s.Related (Analyzer.conditions ⟨config, known⟩ names v ts)
      (Analyzer.conditions ⟨config, known'⟩ names' v' ts) := by
  induction ts generalizing names names' v v' with
  | nil => exact .ok ⟨hj, hv⟩
  | cons t rest ih =>
    simp only [Analyzer.conditions]
    have hfirst := h t List.mem_cons_self names names' v v' hj hv fun o ho =>
      hmet o (List.mem_append_left _ ho)
    exact hfirst.bind fun x y hxy => ih (fun u hu => h u (List.mem_cons_of_mem _ hu)) hxy.1 hxy.2
      fun o ho => hmet o (List.mem_append_right _ ho)

theorem condition (t : CallTree) : s.Kept t := by
  induction t using CallTree.induct with
  | list children p ih =>
    intro names names' v v' hj hv hmet
    simp only [Analyzer.condition]
    exact s.conditions_of ih hj hv hmet
  | other p => exact fun _ _ _ _ hj hv _ => .ok ⟨hj, hv⟩
  | call path generics children p ih =>
    intro names names' v v' hj hv hmet
    rw [Analyzer.condition.eq_def, Analyzer.condition.eq_def ⟨config, known'⟩]
    dsimp only
    split
    · exact s.conditions_of ih hj hv hmet
    · split
      · exact s.conditions_of ih (s.joining (s.insert hj _) _) hv hmet
      · exact .ok ⟨hj, hv⟩
  | method name children p ih =>
    intro names names' v v' hj hv hmet
    cases children with
    | nil =>
      simp only [Analyzer.condition]
      split
      · exact .error _
      · exact .ok ⟨hj, hv⟩
    | cons receiver args =>
      have hbelow : ∀ o ∈ allUntyped config (receiver :: args), Met o := fun o ho =>
        hmet o (List.mem_append_right _ ho)
      simp only [Analyzer.condition]
      split
      · exact ih receiver List.mem_cons_self _ _ _ _ hj hv fun o ho =>
          hbelow o (List.mem_append_left _ ho)
      · split
        · rename_i hname
          exact s.comparison hj hv hname fun o ho => hmet o (List.mem_append_left _ ho)
        · split
          · split
            · exact .ok ⟨hj, hv⟩
            · -- the models joined within are forgotten, but for what the walk has seen
              rename_i model relation _
              have hwithin := s.conditions_of (fun u hu => ih u (List.mem_cons_of_mem _ hu))
                (s.joining (s.insert hj model) (Analyzer.relationTargets ⟨config, known⟩ relation)) hv
                fun o ho => hbelow o (List.mem_append_right _ ho)
              exact hwithin.bind fun x y hxy => .ok ⟨s.insert hj model, s.see hxy.1 hxy.2⟩
          · exact .ok ⟨hj, hv⟩

theorem conditions {ts : List CallTree} (hj : s.joined names names') (hv : s.visit v v')
    (hmet : ∀ o ∈ allUntyped config ts, Met o) :
    Parallel s.Related (Analyzer.conditions ⟨config, known⟩ names v ts)
      (Analyzer.conditions ⟨config, known'⟩ names' v' ts) :=
  s.conditions_of (fun t _ => s.condition t) hj hv hmet

theorem checkAssigned (hj : s.joined names names') (hv : s.visit v v') (ts : List CallTree) :
    Parallel s.visit (Analyzer.checkAssigned names v ts) (Analyzer.checkAssigned names' v' ts) := by
  induction ts generalizing v v' with
  | nil => exact .ok hv
  | cons t rest ih =>
    simp only [Analyzer.checkAssigned]
    refine .bind_same _ fun owner => ?_
    have hchecked := s.check hj hv owner.1 owner.2
    split
    · exact (s.checkFields hj hchecked _).bind fun _ _ hw => ih hw
    · exact ih hchecked

theorem checkMethods (hj : s.joined names names') (hv : s.visit v v') (methods : List (List CallTree)) :
    Parallel s.visit (Analyzer.checkMethods names v methods) (Analyzer.checkMethods names' v' methods) := by
  induction methods generalizing v v' with
  | nil => exact .ok hv
  | cons args rest ih =>
    simp only [Analyzer.checkMethods]
    exact (s.checkAssigned hj hv _).bind fun _ _ hw => ih hw

/-- Walks along a statement that has been taken apart keep the relation between visits. -/
theorem walkApart (hj : s.joined names names') (hv : s.visit .empty .empty) {c : Analyzer.Chain}
    (hmet : ∀ o ∈ allUntyped config c.arguments, Met o) :
    Parallel s.visit (Analyzer.walkApart ⟨config, known⟩ names c)
      (Analyzer.walkApart ⟨config, known'⟩ names' c) :=
  (s.conditions hj hv hmet).bind fun _ _ hxy =>
    (s.checkMethods hxy.1 hxy.2 c.checked).bind fun _ _ hw => .ok (s.see hxy.1 hw)

end Simulation
end Lint
end Joinery
