import Joinery.Proofs.Builder
import Joinery.Proofs.Samples
import Joinery.Proofs.Vanishing

/-! When conditions compile: every predicate in them, in the scope of its table, must fit the dialect and
the tables of the statement. -/
namespace Joinery

/-- Whether a dialect has every function of a field. -/
def Field.Resolves (d : Dialect) (f : Field) : Prop :=
  ∀ call ∈ f.functions, (call.function.strategy? d).isSome = true

/-- Whether an appearance tells which of `n` tables of a model is meant. Without a table the model goes by
its own table's name, and nothing has to be told. -/
def SelectsOne (n : Nat) (appearance : Option Nat) : Prop :=
  n = 0 ∨ (n = 1 ∧ (appearance = none ∨ appearance = some 0)) ∨
    (1 < n ∧ ∃ i < n, appearance = some i)

namespace Predicate

mutual

/-- The predicates below a predicate, each with the table of its scope. -/
def nodesBelow (t : Table) : Predicate → List (Table × Predicate)
  | .compare _ _ _ _ => []
  | .compareFields _ _ _ => []
  | .connect _ ps => allNodes t ps
  | .related r ps => allNodes (t.reach r) ps
  | .raw _ _ => []

def allNodes (t : Table) : List Predicate → List (Table × Predicate)
  | [] => []
  | p :: rest => (t, p) :: nodesBelow t p ++ allNodes t rest

end

def nodes (t : Table) (p : Predicate) : List (Table × Predicate) :=
  (t, p) :: p.nodesBelow t

theorem forall_allNodes {t : Table} {ps : List Predicate} {P : Table × Predicate → Prop} :
    (∀ s ∈ allNodes t ps, P s) ↔ ∀ p ∈ ps, ∀ s ∈ p.nodes t, P s := by
  induction ps with
  | nil => simp [allNodes]
  | cons p rest ih =>
    rw [allNodes, ← nodes, List.forall_mem_append, ih, List.forall_mem_cons]

/-- Whether a predicate in the scope of a table can be written on a dialect, apart from what is below it.
Models are joined so many times as `count` says. -/
def Fits (d : Dialect) (count : Model → Nat) (t : Table) : Predicate → Prop
  | .compare f o _ _ => o.supports d = true ∧ f.Resolves d
  | .compareFields f o operands =>
    o.supports d = true ∧ f.Resolves d ∧
      ∀ g, .field g ∈ operands → g.Resolves d ∧ SelectsOne (count g.model) g.appearance
  | .connect c ps =>
    c.operator.supports d = true ∧ (c.mayVanish = false → ∃ p ∈ ps, ¬ p.Vanishes t)
  | .related _ _ => True
  | .raw _ _ => True

end Predicate

namespace Condition

mutual

def nodes (t : Table) : Condition → List (Table × Predicate)
  | .filter p => p.nodes t
  | .join r _ cs => allNodes (t.reach r) cs
  | .preload _ _ => []
  | .collection _ _ => []

def allNodes (t : Table) : List Condition → List (Table × Predicate)
  | [] => []
  | c :: rest => nodes t c ++ allNodes t rest

end

theorem forall_allNodes {t : Table} {cs : List Condition} {P : Table × Predicate → Prop} :
    (∀ s ∈ allNodes t cs, P s) ↔ ∀ c ∈ cs, ∀ s ∈ c.nodes t, P s := by
  induction cs with
  | nil => simp [allNodes]
  | cons c rest ih => rw [allNodes, List.forall_mem_append, ih, List.forall_mem_cons]

/-- How many times a model occurs among the root and the joins. -/
def occurrences (root : Entity) (cs : List Condition) (m : Model) : Nat :=
  (root :: (allLinks (.root root) cs).map (·.join.relation.target)).countP (·.toModel == m)

/-- Whether every predicate of the conditions on a root fits. -/
def Compilable (d : Dialect) (root : Entity) (cs : List Condition) : Prop :=
  ∀ s ∈ allNodes (.root root) cs, s.2.Fits d (occurrences root cs) s.1

end Condition

theorem exists_bind_eq_ok {ε α β : Type} {x : Except ε α} {f : α → Except ε β} :
    (∃ b, x >>= f = .ok b) ↔ ∃ a, x = .ok a ∧ ∃ b, f a = .ok b := by
  simp only [bind_eq_ok]
  exact ⟨fun ⟨b, a, ha, hb⟩ => ⟨a, ha, b, hb⟩, fun ⟨a, ha, b, hb⟩ => ⟨b, a, ha, hb⟩⟩

theorem exists_forall₂ {α β : Type} {R : α → β → Prop} {xs : List α} :
    (∃ ys, List.Forall₂ R xs ys) ↔ ∀ x ∈ xs, ∃ y, R x y := by
  induction xs with
  | nil => simp
  | cons x xs ih =>
    simp only [List.forall₂_cons_left_iff, List.forall_mem_cons, ← ih]
    constructor
    · rintro ⟨_, y, ys, hy, hys, rfl⟩
      exact ⟨⟨y, hy⟩, ys, hys⟩
    · rintro ⟨⟨y, hy⟩, ys, hys⟩
      exact ⟨y :: ys, y, ys, hy, hys, rfl⟩

theorem Operator.exists_resolve {o : Operator} {d : Dialect} :
    (∃ token, o.resolve d = .ok token) ↔ o.supports d = true := by
  unfold resolve
  split <;> simp_all

theorem Function.exists_resolve {f : Function} {d : Dialect} :
    (∃ s, f.resolve d = .ok s) ↔ (f.strategy? d).isSome = true := by
  unfold resolve
  split <;> simp_all

theorem FunctionCall.exists_applyAll {d : Dialect} {calls : List FunctionCall} (text : String)
    (values : List Value) :
    (∃ written, applyAll d calls text values = .ok written) ↔
      ∀ call ∈ calls, (call.function.strategy? d).isSome = true := by
  induction calls generalizing text values with
  | nil => simp [applyAll]
  | cons call rest ih =>
    simp only [applyAll, exists_bind_eq_ok, ih, List.forall_mem_cons, ← Function.exists_resolve,
      exists_and_right]

theorem Field.exists_applied {d : Dialect} {f : Field} {column : String} :
    (∃ q, f.applied d column = .ok q) ↔ f.Resolves d := by
  simp only [applied, exists_bind_eq_ok, Resolves, ← FunctionCall.exists_applyAll column []]
  simp [pure, Except.pure]

namespace Plan

variable {p : Plan} {t : Table}

def tableCount (p : Plan) (m : Model) : Nat :=
  (p.tablesOf m).length

theorem exists_aliasFor {f : Field} :
    (∃ aliasName, p.aliasFor f = .ok aliasName) ↔ SelectsOne (p.tableCount f.model) f.appearance := by
  unfold aliasFor tableCount SelectsOne
  generalize p.tablesOf f.model = tables
  cases tables with
  | nil => simp
  | cons first rest =>
    cases hrest : rest with
    | nil =>
      cases happearance : f.appearance with
      | none => simp
      | some i => cases i <;> simp
    | cons second rest =>
      cases happearance : f.appearance with
      | none => simp
      | some i =>
        by_cases hi : i < (first :: second :: rest).length
        · simp [List.getElem?_eq_getElem hi]
          simpa using hi
        · simp [List.getElem?_eq_none (Nat.le_of_not_lt hi)]
          simpa using hi

theorem exists_reference {f : Field} :
    (∃ q, p.reference f = .ok q) ↔
      f.Resolves p.dialect ∧ SelectsOne (p.tableCount f.model) f.appearance := by
  simp only [reference, exists_bind_eq_ok, Field.exists_applied, ← exists_aliasFor]
  exact ⟨fun ⟨a, ha, hf⟩ => ⟨hf, a, ha⟩, fun ⟨hf, a, ha⟩ => ⟨a, ha, hf⟩⟩

theorem exists_operands {operands : List Operand} :
    (∃ written, List.Forall₂ (fun x y => p.operand x = .ok y) operands written) ↔
      ∀ g, .field g ∈ operands →
        g.Resolves p.dialect ∧ SelectsOne (p.tableCount g.model) g.appearance := by
  rw [exists_forall₂]
  constructor
  · intro h g hg
    exact exists_reference.1 (h (.field g) hg)
  · intro h x hx
    cases x with
    | value v => exact ⟨_, rfl⟩
    | field g => exact exists_reference.2 (h g hx)

theorem exists_rightHandSide_of_check {o : Operator} {operands : List Sql}
    (h : o.check operands.length = .ok ()) : ∃ q, rightHandSide o operands = .ok q := by
  have hrange (harity : o.arity = .exactly 2) : ∃ q, rightHandSide.range o operands = .ok q := by
    have hcount : operands.length = 2 := by
      simpa [harity, Arity.accepts] using (Operator.check_eq_ok_iff.1 h).2
    obtain ⟨first, last, rfl⟩ := List.length_eq_two.1 hcount
    exact ⟨_, rfl⟩
  unfold rightHandSide
  split
  · exact ⟨_, rfl⟩
  · exact ⟨_, rfl⟩
  · exact hrange rfl
  · exact hrange rfl
  · exact ⟨_, rfl⟩
  · exact ⟨_, rfl⟩
  · exact ⟨_, rfl⟩

theorem exists_comparison (lhs : Sql) {o : Operator} {operands : List Sql} (escape : Option Value)
    (h : o.check operands.length = .ok ()) :
    (∃ q, p.comparison lhs o operands escape = .ok q) ↔ o.supports p.dialect = true := by
  rw [← Operator.exists_resolve, comparison, exists_bind_eq_ok]
  refine exists_congr fun token => and_iff_left ?_
  obtain ⟨rhs, hrhs⟩ := exists_rightHandSide_of_check h
  refine exists_bind_eq_ok.2 ⟨rhs, hrhs, ?_⟩
  cases escape with
  | none => exact ⟨_, rfl⟩
  | some character => exact ⟨_, rfl⟩

theorem exists_connected {c : Connective} (token : String) {written : List Sql} :
    (∃ q, connected c token written = .ok q) ↔ (c.mayVanish = false → written ≠ []) := by
  unfold connected
  cases written with
  | nil => cases c.mayVanish <;> simp
  | cons q rest => cases c <;> simp

theorem exists_predicates_iff {ps : List Predicate} {P : Table × Predicate → Prop}
    (h : ∀ c ∈ ps, (∃ q, p.predicate t c = .ok q) ↔ ∀ s ∈ c.nodes t, P s) :
    (∃ written, p.predicates t ps = .ok written) ↔ ∀ s ∈ Predicate.allNodes t ps, P s := by
  rw [Predicate.forall_allNodes, ← forall₂_congr h, ← exists_forall₂]
  constructor
  · rintro ⟨written, hok⟩
    obtain ⟨qs, hqs, -⟩ := predicates_eq_ok.1 hok
    exact ⟨qs, hqs⟩
  · rintro ⟨qs, hqs⟩
    exact ⟨_, predicates_eq_ok.2 ⟨qs, hqs, rfl⟩⟩

theorem predicates_eq_nil_iff {ps : List Predicate} {written : List Sql}
    (h : p.predicates t ps = .ok written) : written = [] ↔ ∀ c ∈ ps, c.Vanishes t := by
  obtain ⟨qs, hqs, rfl⟩ := predicates_eq_ok.1 h
  rw [List.filter_eq_nil_iff]
  constructor
  · intro hall c hc
    obtain ⟨q, hq, hok⟩ := exists_mem_right_of_forall₂ hqs hc
    exact (predicate_isEmpty_iff hok).1 (by simpa using hall q hq)
  · intro hall q hq
    obtain ⟨c, hc, hok⟩ := exists_mem_left_of_forall₂ hqs hq
    simpa using (predicate_isEmpty_iff hok).2 (hall c hc)

/-- A predicate compiles exactly if it and all below it fit. -/
theorem exists_predicate {c : Predicate} {m : Model} (hc : c.Typed m) :
    (∃ q, p.predicate t c = .ok q) ↔
      ∀ s ∈ c.nodes t, s.2.Fits p.dialect p.tableCount s.1 := by
  induction c using Predicate.induct generalizing t m with
  | compare f o values escape =>
    have hcheck : o.check (values.map Sql.bound).length = .ok () := by simpa using hc.2.1
    rw [Predicate.nodes, Predicate.nodesBelow, List.forall_mem_singleton]
    constructor
    · rintro ⟨q, hq⟩
      obtain ⟨lhs, hlhs, hq⟩ := predicate_compare_eq_ok.1 hq
      exact ⟨(exists_comparison _ _ hcheck).1 ⟨q, hq⟩, Field.exists_applied.1 ⟨lhs, hlhs⟩⟩
    · rintro ⟨ho, hf⟩
      obtain ⟨lhs, hlhs⟩ := Field.exists_applied.2 hf
      obtain ⟨q, hq⟩ := (exists_comparison lhs escape hcheck).2 ho
      exact ⟨q, predicate_compare_eq_ok.2 ⟨lhs, hlhs, hq⟩⟩
  | compareFields f o operands =>
    rw [Predicate.nodes, Predicate.nodesBelow, List.forall_mem_singleton]
    constructor
    · rintro ⟨q, hq⟩
      obtain ⟨lhs, hlhs, written, hwritten, hq⟩ := predicate_compareFields_eq_ok.1 hq
      have hcheck : o.check written.length = .ok () := hwritten.length_eq ▸ hc.2
      exact ⟨(exists_comparison _ _ hcheck).1 ⟨q, hq⟩, Field.exists_applied.1 ⟨lhs, hlhs⟩,
        exists_operands.1 ⟨written, hwritten⟩⟩
    · rintro ⟨ho, hf, hoperands⟩
      obtain ⟨lhs, hlhs⟩ := Field.exists_applied.2 hf
      obtain ⟨written, hwritten⟩ := exists_operands.2 hoperands
      have hcheck : o.check written.length = .ok () := hwritten.length_eq ▸ hc.2
      obtain ⟨q, hq⟩ := (exists_comparison lhs none hcheck).2 ho
      exact ⟨q, predicate_compareFields_eq_ok.2 ⟨lhs, hlhs, written, hwritten, hq⟩⟩
  | connect c ps ih =>
    have hps := exists_predicates_iff fun c hmem =>
      ih c hmem (t := t) (Predicate.allTyped_iff.1 hc.2 c hmem)
    rw [Predicate.nodes, Predicate.nodesBelow, List.forall_mem_cons, ← hps]
    have hleft {written : List Sql} (hwritten : p.predicates t ps = .ok written) :
        written ≠ [] ↔ ∃ c ∈ ps, ¬ c.Vanishes t := by
      simpa using not_congr (predicates_eq_nil_iff hwritten)
    constructor
    · rintro ⟨q, hq⟩
      obtain ⟨token, htoken, written, hwritten, hq⟩ := predicate_connect_eq_ok.1 hq
      refine ⟨⟨Operator.exists_resolve.1 ⟨token, htoken⟩, fun hmust => ?_⟩, written, hwritten⟩
      exact (hleft hwritten).1 ((exists_connected token).1 ⟨q, hq⟩ hmust)
    · rintro ⟨⟨hsupports, hmust⟩, written, hwritten⟩
      obtain ⟨token, htoken⟩ := Operator.exists_resolve.2 hsupports
      obtain ⟨q, hq⟩ := (exists_connected token).2 fun h => (hleft hwritten).2 (hmust h)
      exact ⟨q, predicate_connect_eq_ok.2 ⟨token, htoken, written, hwritten, hq⟩⟩
  | related r ps ih =>
    have hps := exists_predicates_iff fun c hmem =>
      ih c hmem (t := t.reach r) (Predicate.allTyped_iff.1 hc.2.2 c hmem)
    rw [Predicate.nodes, Predicate.nodesBelow, List.forall_mem_cons, ← hps]
    simp only [predicate_related_eq_ok, Predicate.Fits, true_and]
    exact ⟨fun ⟨_, written, hwritten, _⟩ => ⟨written, hwritten⟩,
      fun ⟨written, hwritten⟩ => ⟨_, written, hwritten, rfl⟩⟩
  | raw sql values =>
    rw [Predicate.nodes, Predicate.nodesBelow, List.forall_mem_singleton]
    exact ⟨fun _ => trivial, fun _ => ⟨_, rfl⟩⟩

theorem exists_scopeFilters_iff {cs : List Condition} {P : Table × Predicate → Prop}
    (h : ∀ c ∈ cs, (∃ part, p.conditionFilters t c = .ok part) ↔ ∀ s ∈ c.nodes t, P s) :
    (∃ written, p.scopeFilters t cs = .ok written) ↔ ∀ s ∈ Condition.allNodes t cs, P s := by
  rw [Condition.forall_allNodes, ← forall₂_congr h, ← exists_forall₂]
  constructor
  · rintro ⟨written, hok⟩
    obtain ⟨parts, hparts, -⟩ := scopeFilters_eq_ok.1 hok
    exact ⟨parts, hparts⟩
  · rintro ⟨parts, hparts⟩
    exact ⟨_, scopeFilters_eq_ok.2 ⟨parts, hparts, rfl⟩⟩

theorem exists_conditionFilters {c : Condition} {m : Model} (hc : c.Typed m) :
    (∃ part, p.conditionFilters t c = .ok part) ↔
      ∀ s ∈ c.nodes t, s.2.Fits p.dialect p.tableCount s.1 := by
  induction c using Condition.induct generalizing t m with
  | filter c =>
    rw [Condition.nodes, ← exists_predicate hc, conditionFilters, exists_bind_eq_ok]
    simp only [pure_eq_ok, exists_eq', and_true]
  | join r load cs ih =>
    rw [Condition.nodes, conditionFilters]
    exact exists_scopeFilters_iff fun c hmem => ih c hmem (Condition.allTyped_iff.1 hc.2 c hmem)
  | preload m fields => simp [Condition.nodes, conditionFilters, pure_eq_ok]
  | collection r nested ih => simp [Condition.nodes, conditionFilters, pure_eq_ok]

theorem exists_filter {cs : List Condition} {m : Model} (hcs : Condition.AllTyped m cs) :
    (∃ q, p.filter cs = .ok q) ↔
      ∀ s ∈ Condition.allNodes p.root cs, s.2.Fits p.dialect p.tableCount s.1 := by
  have hscope := exists_scopeFilters_iff fun c hmem =>
    exists_conditionFilters (p := p) (t := p.root) (Condition.allTyped_iff.1 hcs c hmem)
  rw [← hscope, filter, exists_bind_eq_ok]
  simp only [pure_eq_ok, exists_eq', and_true]

theorem tableCount_ofConditions {d : Dialect} {root : Entity} {cs : List Condition} :
    (ofConditions d root cs).tableCount = Condition.occurrences root cs := by
  funext m
  rw [tableCount, tablesOf, tables_ofConditions, Condition.occurrences, ← List.countP_eq_length_filter,
    List.countP_cons, List.countP_cons, List.countP_map, List.countP_map]
  rfl

end Plan

/-- A result that is not the error of a range without two ends. -/
def Ranged {α : Type} (x : Except QueryError α) : Prop :=
  ∀ o, x ≠ .error (.malformed (.noRange o))

namespace Ranged

variable {α β : Type}

theorem ok (a : α) : Ranged (.ok a) :=
  nofun

theorem bind {x : Except QueryError α} {f : α → Except QueryError β} (hx : Ranged x)
    (hf : ∀ a, x = .ok a → Ranged (f a)) : Ranged (x >>= f) := by
  cases x with
  | error e =>
    intro o he
    exact hx o (congrArg Except.error (Except.error.inj he))
  | ok a => exact hf a rfl

theorem mapM {f : α → Except QueryError β} {xs : List α} (h : ∀ x ∈ xs, Ranged (f x)) :
    Ranged (xs.mapM f) := by
  induction xs with
  | nil => exact ok []
  | cons x xs ih =>
    rw [List.mapM_cons]
    refine (h x (by simp)).bind fun y _ => (ih fun x hx => h x (by simp [hx])).bind fun ys _ => ?_
    exact ok (y :: ys)

theorem operator (o : Operator) (d : Dialect) : Ranged (o.resolve d) := by
  unfold Operator.resolve
  split <;> nofun

theorem applyAll (d : Dialect) (calls : List FunctionCall) (text : String) (values : List Value) :
    Ranged (FunctionCall.applyAll d calls text values) := by
  induction calls generalizing text values with
  | nil => exact ok _
  | cons call rest ih =>
    have hresolve : Ranged (call.function.resolve d) := by
      unfold Function.resolve
      split <;> nofun
    exact hresolve.bind fun s _ => ih _ _

theorem applied (d : Dialect) (f : Field) (column : String) : Ranged (f.applied d column) :=
  (applyAll d f.functions column []).bind fun _ _ => ok _

variable {p : Plan} {t : Table}

theorem reference (f : Field) : Ranged (p.reference f) := by
  have halias : Ranged (p.aliasFor f) := by
    simp only [Plan.aliasFor]
    split
    · exact ok _
    · exact ok _
    · intro o h
      cases h
    · split
      · exact ok _
      · intro o h
        cases h
  exact halias.bind fun _ _ => applied _ _ _

theorem operand (x : Operand) : Ranged (p.operand x) := by
  cases x with
  | value v => exact ok _
  | field f => exact reference f

theorem comparison {lhs : Sql} {o : Operator} {operands : List Sql} {escape : Option Value}
    (h : o.check operands.length = .ok ()) : Ranged (p.comparison lhs o operands escape) := by
  obtain ⟨rhs, hrhs⟩ := Plan.exists_rightHandSide_of_check h
  refine (operator o p.dialect).bind fun token _ => ?_
  rw [hrhs]
  refine (ok rhs).bind fun rhs _ => ?_
  cases escape with
  | none => exact ok _
  | some character => exact (operator .escape p.dialect).bind fun _ _ => ok _

theorem connected (c : Connective) (token : String) (written : List Sql) :
    Ranged (Plan.connected c token written) := by
  unfold Plan.connected
  split
  · split
    · exact ok _
    · nofun
  · split <;> exact ok _

theorem predicates {ps : List Predicate} (h : ∀ c ∈ ps, Ranged (p.predicate t c)) :
    Ranged (p.predicates t ps) := by
  induction ps with
  | nil => exact ok _
  | cons c rest ih =>
    exact (h c (by simp)).bind fun _ _ => (ih fun c hc => h c (by simp [hc])).bind fun _ _ => ok _

/-- A range that the constructors let pass has two ends. -/
theorem predicate {c : Predicate} {m : Model} (hc : c.Typed m) : Ranged (p.predicate t c) := by
  induction c using Predicate.induct generalizing t m with
  | compare f o values escape =>
    have hcheck : o.check (values.map Sql.bound).length = .ok () := by simpa using hc.2.1
    exact (applied _ _ _).bind fun _ _ => comparison hcheck
  | compareFields f o operands =>
    refine (applied _ _ _).bind fun _ _ => (mapM fun x _ => operand x).bind fun written hwritten => ?_
    have hcheck : o.check written.length = .ok () := (mapM_eq_ok.1 hwritten).length_eq ▸ hc.2
    exact comparison hcheck
  | connect c ps ih =>
    have hps := predicates fun c hmem => ih c hmem (t := t) (Predicate.allTyped_iff.1 hc.2 c hmem)
    exact (operator _ _).bind fun _ _ => hps.bind fun _ _ => connected _ _ _
  | related r ps ih =>
    have hps := predicates fun c hmem =>
      ih c hmem (t := t.reach r) (Predicate.allTyped_iff.1 hc.2.2 c hmem)
    exact hps.bind fun _ _ => ok _
  | raw sql values => exact ok _

theorem scopeFilters {cs : List Condition} (h : ∀ c ∈ cs, Ranged (p.conditionFilters t c)) :
    Ranged (p.scopeFilters t cs) := by
  induction cs with
  | nil => exact ok _
  | cons c rest ih =>
    exact (h c (by simp)).bind fun _ _ => (ih fun c hc => h c (by simp [hc])).bind fun _ _ => ok _

theorem conditionFilters {c : Condition} {m : Model} (hc : c.Typed m) :
    Ranged (p.conditionFilters t c) := by
  induction c using Condition.induct generalizing t m with
  | filter c => exact (predicate hc).bind fun _ _ => ok _
  | join r load cs ih =>
    exact scopeFilters fun c hmem => ih c hmem (Condition.allTyped_iff.1 hc.2 c hmem)
  | preload m fields => exact ok _
  | collection r nested ih => exact ok _

theorem filter {cs : List Condition} {m : Model} (hcs : Condition.AllTyped m cs) :
    Ranged (p.filter cs) := by
  have hscope : Ranged (p.scopeFilters p.root cs) := scopeFilters fun c hmem =>
    conditionFilters (Condition.allTyped_iff.1 hcs c hmem)
  exact hscope.bind fun _ _ => ok _

end Ranged

namespace Condition

/-- Conditions without an order compile exactly if each of their predicates fits: the dialect has its
operators and functions, its operands select one table, and negations and exclusive disjunctions have
something to combine. Raw SQL has nothing to contribute only if it is empty, as soon as its table has a
name. No range ever lacks an end. -/
theorem compiles_iff {root : Entity} {cs : List Condition} (hcs : AllTyped root.toModel cs)
    (d : Dialect) (limit offset : Option Nat) :
    ((∃ s, (Query.mk root cs [] limit offset).compile d = .ok s) ↔ Compilable d root cs) ∧
      ((∃ q, filterOf d root cs = .ok q) ↔ Compilable d root cs) ∧
      (∀ (t : Table) (sql : String) (values : List Value), t.aliasName ≠ "" →
        ((Predicate.raw sql values).Vanishes t ↔ sql = "")) ∧
      ∀ o, (Query.mk root cs [] limit offset).compile d ≠ .error (.malformed (.noRange o)) := by
  have hfilter : (∃ q, filterOf d root cs = .ok q) ↔ Compilable d root cs := by
    rw [filterOf, Plan.exists_filter hcs, Plan.tableCount_ofConditions, Plan.dialect_ofConditions,
      Plan.root_ofConditions]
    rfl
  refine ⟨?_, hfilter, fun t sql values ht => ?_, ?_⟩
  · rw [← hfilter, Query.compile, exists_bind_eq_ok]
    simp only [Query.toSql, Query.orderClause, Query.orderColumns, bind_eq_ok, pure_eq_ok, exists_eq',
      and_true]
    constructor
    · rintro ⟨_, q, hq, _⟩
      exact ⟨q, hq⟩
    · rintro ⟨q, hq⟩
      exact ⟨_, q, hq, _, ⟨[], rfl, rfl⟩, rfl⟩
  · rw [Predicate.vanishes_raw_iff, inScope_eq_empty_iff ht]
  · have hq : Ranged ((Query.mk root cs [] limit offset).toSql (Plan.ofConditions d root cs)) :=
      (Ranged.filter hcs).bind fun _ _ => .ok _
    exact hq.bind fun _ _ => .ok _

def sellersMatched : List Condition :=
  [.join Sample.employer false [], .join Sample.employer false [],
    .filter (Sample.sellerName.compareFields .eq [{ Sample.companyName with appearance := some 1 }]),
    .filter (.connect .not [.and [.or []], Sample.sellerName.matching .regexp "a"])]

theorem typed_sellersMatched : AllTyped Sample.seller.toModel sellersMatched := by
  have hcompared : (Sample.sellerName.compareFields .eq
      [{ Sample.companyName with appearance := some 1 }]).Typed Sample.sellerModel := ⟨rfl, rfl⟩
  have hmatched : (Sample.sellerName.matching .regexp "a").Typed Sample.sellerModel := ⟨rfl, rfl, nofun⟩
  have hempty : (Predicate.and [.or []]).Typed Sample.sellerModel :=
    ⟨nofun, ⟨nofun, trivial⟩, trivial⟩
  exact ⟨⟨rfl, trivial⟩, ⟨rfl, trivial⟩, hcompared, ⟨fun _ => by simp, hempty, hmatched, trivial⟩,
    trivial⟩

/-- Only MySQL has the pattern that the sellers are matched with. -/
theorem compiles_sellersMatched : Compilable .mysql Sample.seller sellersMatched ∧
    ¬ Compilable .postgres Sample.seller sellersMatched := by
  have h (d : Dialect) := compiles_iff typed_sellersMatched d none none
  refine ⟨(h .mysql).2.1.1 ⟨_, rfl⟩, fun hfits => ?_⟩
  obtain ⟨q, hq⟩ := (h .postgres).2.1.2 hfits
  have herror : filterOf .postgres Sample.seller sellersMatched =
      .error (.unsupported "mysql.Regexp" .postgres) := rfl
  rw [herror] at hq
  cases hq

end Condition
end Joinery
