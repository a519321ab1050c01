import Joinery.Proofs.Guards
import Joinery.Proofs.JoinSafety.CallSite

/-! References inside a test for related rows.
The analysis joins the target of a test for the conditions of the test, and accepts fields of the target as
operands there. A plan has no table for the target, so that the operands go by the table's own name; that is
a column of the test only if the test's table happens to be called like it. -/
namespace Joinery

/-! A column is told from the text of the functions around it. -/

theorem Strategy.apply_inj {s : Strategy} {text text' : String} {count : Nat} :
    s.apply text count = s.apply text' count ↔ text = text' := by
  constructor
  · intro h
    have hlists := congrArg String.toList h
    refine String.toList_inj.1 ?_
    cases s with
    | infixOp op => simpa [apply] using hlists
    | call name => simpa [apply] using hlists
    | prefixOp op => simpa [apply] using hlists
  · rintro rfl
    rfl

theorem FunctionCall.applyAll_inj {d : Dialect} {calls : List FunctionCall} {text text' : String}
    {values values' : List Value} {written written' : String × List Value}
    (h : applyAll d calls text values = .ok written) (h' : applyAll d calls text' values' = .ok written')
    (hwritten : written.1 = written'.1) : text = text' := by
  induction calls generalizing text text' values values' with
  | nil =>
    obtain rfl := Except.ok.inj h
    obtain rfl := Except.ok.inj h'
    exact hwritten
  | cons call rest ih =>
    rw [applyAll, bind_eq_ok] at h h'
    obtain ⟨strategy, hstrategy, h⟩ := h
    obtain ⟨strategy', hstrategy', h'⟩ := h'
    obtain rfl := Except.ok.inj (hstrategy.symm.trans hstrategy')
    exact Strategy.apply_inj.1 (ih h h')

theorem Field.applied_inj {d : Dialect} {f : Field} {column column' : String} {q : Sql}
    (h : f.applied d column = .ok q) : f.applied d column' = .ok q ↔ column' = column := by
  constructor
  · intro h'
    simp only [applied, bind_eq_ok, pure_eq_ok] at h h'
    obtain ⟨written, hwritten, rfl⟩ := h
    obtain ⟨written', hwritten', htext⟩ := h'
    refine FunctionCall.applyAll_inj hwritten' hwritten ?_
    simpa using congrArg Sql.toText htext
  · rintro rfl
    exact h

theorem Table.column_eq_iff {t : Table} {name field : String} :
    t.column field = name ++ "." ++ field ↔ t.aliasName = name := by
  rw [Table.column, String.append_left_inj, String.append_left_inj]

/-! Positions within a node. -/

namespace Predicate.Position

/-- The position in the predicates of a node that stands at a position. -/
def inNode (π : Predicate.Position) (node : Branch) (ρ : Predicate.Position) : Predicate.Position :=
  match π with
  | .here before after => .under before node ρ after
  | .under before outer inner after => .under before outer (inner.inNode node ρ) after

variable {node : Branch} {ρ : Predicate.Position}

theorem fill_inNode (xs : List Predicate) (π : Predicate.Position) :
    (π.inNode node ρ).fill xs = π.fill [node.holding (ρ.fill xs)] := by
  induction π with
  | here before after => simp [inNode, fill]
  | under before outer inner after ih => simp [inNode, fill, ih]

theorem scope_inNode (t : Table) (π : Predicate.Position) :
    (π.inNode node ρ).scope t = ρ.scope (node.scope (π.scope t)) := by
  induction π generalizing t with
  | here before after => rfl
  | under before outer inner after ih => exact ih (outer.scope t)

end Predicate.Position

namespace Condition.Position

def inNode (π : Condition.Position) (node : Branch) (ρ : Predicate.Position) : Condition.Position :=
  match π with
  | .direct place => .within place node ρ
  | .within place outer inner => .within place outer (inner.inNode node ρ)

variable {node : Branch} {ρ : Predicate.Position}

theorem fill_inNode (xs : List Predicate) (π : Condition.Position) :
    (π.inNode node ρ).fill xs = π.fill [node.holding (ρ.fill xs)] := by
  cases π with
  | direct place => rfl
  | within place outer inner =>
    simp only [inNode, fill, Position.inner, Position.place, Predicate.Position.fill,
      Predicate.Position.fill_inNode]

theorem scope_inNode (t : Table) (π : Condition.Position) :
    (π.inNode node ρ).scope t = ρ.scope (node.scope (π.scope t)) := by
  cases π with
  | direct place => rfl
  | within place outer inner => exact Predicate.Position.scope_inNode _ inner

end Condition.Position

/-- What a method of a relation makes of conditions. -/
inductive Relation.Quantified (r : Relation) (ps : List Predicate) : String → Predicate → Prop
  | any {x : Predicate} : r.anyOf ps = .ok x → r.Quantified ps "any" x
  | none {x : Predicate} : r.noneOf ps = .ok x → r.Quantified ps "none" x
  | all {x : Predicate} : r.allOf ps = .ok x → r.Quantified ps "all" x

theorem Relation.checked_eq_ok {r : Relation} {name : String} {ps qs : List Predicate}
    (h : r.checked name ps = .ok qs) : qs = ps := by
  unfold checked at h
  split at h
  · cases h
  · exact (Except.ok.inj h).symm

/-- The conditions of a quantified test stand in the scope of the related rows. -/
theorem Relation.Quantified.exists_position {r : Relation} {ps : List Predicate} {name : String}
    {x : Predicate} (h : r.Quantified ps name x) (ρ : Predicate.Position) (π : Condition.Position) :
    ∃ π' : Condition.Position, (∀ y, ps = ρ.fill [y] → π.fill [x] = π'.fill [y]) ∧
      ∀ t, π'.scope t = ρ.scope ((π.scope t).reach r) := by
  cases h with
  | any h =>
    simp only [anyOf, bind_eq_ok, pure_eq_ok] at h
    obtain ⟨qs, hqs, rfl⟩ := h
    obtain rfl := checked_eq_ok hqs
    refine ⟨π.inNode (.related r) ρ, fun y hy => ?_, fun t => Condition.Position.scope_inNode t π⟩
    rw [Condition.Position.fill_inNode, ← hy]
    rfl
  | none h =>
    simp only [noneOf, bind_eq_ok, pure_eq_ok] at h
    obtain ⟨qs, hqs, rfl⟩ := h
    obtain rfl := checked_eq_ok hqs
    refine ⟨π.inNode (.connect .not) (.under [] (.related r) ρ []), fun y hy => ?_,
      fun t => Condition.Position.scope_inNode t π⟩
    rw [Condition.Position.fill_inNode, hy]
    rfl
  | all h =>
    simp only [allOf, bind_eq_ok, pure_eq_ok] at h
    obtain ⟨qs, hqs, rfl⟩ := h
    obtain rfl := checked_eq_ok hqs
    refine ⟨π.inNode (.connect .not) (.under [] (.related r) (.under [] (.connect .not) ρ []) []),
      fun y hy => ?_, fun t => Condition.Position.scope_inNode t π⟩
    rw [Condition.Position.fill_inNode, hy]
    rfl

namespace Plan

variable {p : Plan}

theorem reference_of_unjoined {f : Field} (h : p.tablesOf f.model = []) :
    p.reference f = f.applied p.dialect (f.model.table ++ "." ++ f.columnName) := by
  have halias : p.aliasFor f = .ok f.model.table := by simp [aliasFor, h]
  rw [reference, halias]
  rfl

end Plan

/-! What the analysis accepts. -/

namespace Lint

variable {sch : Schema} {a : Analyzer} {joined names : List String} {v : Visit}

/-- Predicates as their source text calls them, whose dynamic operands are of models among the names. A
test for related rows adds the owner and the targets of its relation to the names. -/
inductive Tested (sch : Schema) (a : Analyzer) :
    List String → List Predicate → List CallTree → Prop
  | nil {names : List String} : Tested sch a names [] []
  | append {names : List String} {ps ps' : List Predicate} {ts ts' : List CallTree} :
      Tested sch a names ps ts → Tested sch a names ps' ts' →
      Tested sch a names (ps ++ ps') (ts ++ ts')
  | list {names : List String} {ps : List Predicate} {ts : List CallTree} {p : Position} :
      Tested sch a names ps ts → Tested sch a names ps [.list ts p]
  | converted {names : List String} {ps : List Predicate} {name : String} {t : CallTree}
      {args : List CallTree} {p : Position} :
      name ∈ conversions → Tested sch a names ps [t] →
      Tested sch a names ps [.method name (t :: args) p]
  | typed {names : List String} {f : Field} {o : Operator} {values : List Value}
      {escape : Option Value} {name : String} {t : CallTree} {args : List CallTree} {q p : Position} :
      sch.model f.model → name ∈ Config.default.comparisonMethods → Handle f q t →
      Tested sch a names [.compare f o values escape] [.method name (t :: args) p]
  | dynamic {names : List String} {f : Field} {o : Operator} {refs : List Reference} {name : String}
      {t : CallTree} {args : List CallTree} {q p p' : Position} :
      sch.model f.model → name ∈ Config.default.comparisonMethods → Handle f q t →
      Operands CallTree.isOther refs args →
      (∀ r ∈ refs, sch.model r.field.model ∧ r.field.model.name ∈ names) →
      Tested sch a names [f.compareFields o (refs.map Reference.field)]
        [.method name (.method "is_dynamic" [t] p' :: args) p]
  | connect {names : List String} {c : Connective} {ps : List Predicate} {ts : List CallTree}
      {qualifier generics : List String} {p : Position} :
      Tested sch a names ps ts →
      Tested sch a names [.connect c ps] [.call (qualifier ++ [connector c]) generics ts p]
  | related {names : List String} {r : Relation} {x : Predicate} {ps : List Predicate} {name : String}
      {args : List CallTree} {qualifier generics : List String} {p p' : Position} :
      sch.model r.owner → r.Quantified ps name x →
      Tested sch a (joining (names.insert r.owner.name) (a.relationTargets (sch.handle r))) ps args →
      Tested sch a names [x] [.method name
        (.call (qualifier ++ [r.owner.name, sch.handle r]) generics [] p :: args) p']

theorem mem_joining {more : List String} {name : String} :
    name ∈ joining joined more ↔ name ∈ joined ∨ name ∈ more := by
  induction more generalizing joined with
  | nil => simp [joining]
  | cons m rest ih =>
    have hrest : name ∈ joining joined (m :: rest) ↔ name ∈ joined.insert m ∨ name ∈ rest := ih
    rw [hrest, List.mem_insert_iff, List.mem_cons]
    tauto

theorem joining_subset {more : List String} (h : names ⊆ joined) (owner : String) :
    joining (names.insert owner) more ⊆ joining (joined.insert owner) more := by
  intro name hname
  rw [mem_joining, List.mem_insert_iff] at hname ⊢
  exact hname.imp_left (Or.imp_right fun hin => h hin)

theorem checkFields_joined (hs : sch.Recognised a) {refs : List Reference} {ts : List CallTree}
    (h : List.Forall₂ (fun (r : Reference) t => Handle r.field r.position t) refs ts)
    (hrefs : ∀ r ∈ refs, sch.model r.field.model ∧ r.field.model.name ∈ joined) :
    ∃ v', Analyzer.checkFields joined v ts = .ok v' ∧ v'.findings = v.findings := by
  induction h generalizing v with
  | nil => exact ⟨v, rfl, rfl⟩
  | @cons r t refs ts hhandle _ ih =>
    obtain ⟨hmodel, hjoined⟩ := hrefs r (by simp)
    obtain ⟨v', hv', hkept⟩ := ih (v := v.check joined r.field.model.name r.position)
      fun r hr => hrefs r (by simp [hr])
    refine ⟨v', ?_, hkept.trans (by simp [Visit.check, hjoined])⟩
    rw [Analyzer.checkFields, fieldModel_handle hhandle (hs.isModelName _ hmodel)]
    exact hv'

theorem Analyzer.condition_related (hs : sch.Recognised a) {r : Relation} {name : String}
    {x : Predicate} {ps : List Predicate} {args : List CallTree} {qualifier generics : List String}
    {p p' : Position} (hmodel : sch.model r.owner) (hx : r.Quantified ps name x) :
    a.condition joined v (.method name
      (.call (qualifier ++ [r.owner.name, sch.handle r]) generics [] p :: args) p') =
      (a.conditions (Lint.joining (joined.insert r.owner.name) (a.relationTargets (sch.handle r))) v
        args >>= fun x => pure (joined.insert r.owner.name, x.2.see x.1)) := by
  have hname : name ∈ Config.default.collectionMethods := by cases hx <;> decide
  have hwrapper : ∀ name ∈ Config.default.collectionMethods, name ∉ wrappers := by decide
  have hcomparison : ∀ name ∈ Config.default.collectionMethods,
      Config.default.isComparison name = false := by decide
  have hcollection : Config.default.isCollectionMethod name = true := List.contains_iff_mem.2 hname
  have howner := hs.isModelName _ hmodel
  rw [condition.eq_def]
  simp [hwrapper name hname, hs.isComparison, hcomparison name hname, hs.isCollectionMethod,
    hcollection, relationHandle?, modelMember?_append, howner]

/-- The walk along predicates whose dynamic operands are of joined models finds nothing. -/
theorem Tested.accepted (hs : sch.Recognised a) {ps : List Predicate} {ts : List CallTree}
    (h : Tested sch a names ps ts) (hnames : names ⊆ joined) :
    ∃ joined' v', a.conditions joined v ts = .ok (joined', v') ∧ joined ⊆ joined' ∧
      v'.findings = v.findings := by
  induction h generalizing joined v with
  | nil => exact ⟨joined, v, rfl, List.Subset.refl _, rfl⟩
  | append _ _ ih ih' =>
    obtain ⟨joined', v', hwalk, hgrown, hkept⟩ := ih hnames (v := v)
    obtain ⟨joined'', v'', hwalk', hgrown', hkept'⟩ := ih' (List.Subset.trans hnames hgrown) (v := v')
    refine ⟨joined'', v'', ?_, List.Subset.trans hgrown hgrown', hkept'.trans hkept⟩
    rw [Analyzer.conditions_append, hwalk]
    exact hwalk'
  | list _ ih => simpa [Analyzer.condition] using ih hnames
  | converted hname _ ih =>
    simpa [Analyzer.condition_wrapped (conversions_subset hname)] using ih hnames
  | @typed names f o values escape name t args q p hmodel hname hhandle =>
    refine ⟨joined.insert f.model.name, v, ?_, fun _ => List.mem_insert_of_mem, rfl⟩
    rw [Analyzer.conditions_singleton, Analyzer.condition_comparison hs hname]
    exact comparison_typed hhandle (hs.isModelName _ hmodel)
  | @dynamic names f o refs name t args q p p' hmodel hname hhandle hargs hrefs =>
    have hjoined : ∀ r ∈ refs,
        sch.model r.field.model ∧ r.field.model.name ∈ joined.insert f.model.name :=
      fun r hr => ⟨(hrefs r hr).1, List.mem_insert_of_mem (hnames (hrefs r hr).2)⟩
    obtain ⟨v', hchecked, hkept⟩ := checkFields_joined (v := v) hs hargs.forall₂ hjoined
    refine ⟨joined.insert f.model.name, v', ?_, fun _ => List.mem_insert_of_mem, hkept⟩
    rw [Analyzer.conditions_singleton, Analyzer.condition_comparison hs hname]
    simp only [Analyzer.comparison, fieldModel_handle hhandle (hs.isModelName _ hmodel)]
    change (Analyzer.checkFields _ v _ >>= fun v' => pure (_, v')) = _
    rw [hchecked]
    rfl
  | @connect names c ps ts qualifier generics p _ ih =>
    simpa [Analyzer.condition_connector hs c] using ih hnames
  | @related names r x ps name args qualifier generics p p' hmodel hx _ ih =>
    obtain ⟨scope, v', hwalk, -, hkept⟩ := ih (joining_subset hnames r.owner.name) (v := v)
    refine ⟨joined.insert r.owner.name, v'.see scope, ?_, fun _ => List.mem_insert_of_mem, hkept⟩
    rw [Analyzer.conditions_singleton, Analyzer.condition_related hs hmodel hx, hwalk]
    rfl

end Lint
namespace Plan

/-- An operand of a model without a table is a column of a table of the model only if the table has the
name of the model's own. -/
theorem operand_of_unjoined {p : Plan} {f : Field} {q : Sql} (h : p.tablesOf f.model = [])
    (hq : p.operand (.field f) = .ok q) (t : Table) :
    f.applied p.dialect (f.model.table ++ "." ++ f.columnName) = .ok q ∧
      (p.column t f = .ok q ↔ t.aliasName = f.model.table) := by
  have happlied : f.applied p.dialect (f.model.table ++ "." ++ f.columnName) = .ok q := by
    rw [← reference_of_unjoined h]
    exact hq
  exact ⟨happlied, (Field.applied_inj happlied).trans Table.column_eq_iff⟩

end Plan

namespace Builder

variable {b : Builder} {d : Dialect}

/-- A comparison with operands in the conditions of a quantified test is part of the filter. Its operands
of the target are columns of the target's own table name if the target is neither the root nor joined, and
so columns of the test's table just where this has the same name. The analysis accepts them anyway: in the
conditions of the test it joins the owner and the targets of the relation. -/
theorem operands_quantified {s : Statement} (h : b.compile d = .ok s) {π : Condition.Position}
    {r : Relation} {ps : List Predicate} {name : String} {x : Predicate} (hx : r.Quantified ps name x)
    (hπ : b.conditions = π.fill [x]) (hno : (b.plan d).tablesOf r.target.toModel = []) :
    let t := (π.scope (.root b.root)).reach r
    (∀ (ρ : Predicate.Position) (g : Field) (o : Operator) (operands : List Operand),
      ps = ρ.fill [.compareFields g o operands] →
      ∃ lhs written q before after, (b.plan d).column (ρ.scope t) g = .ok lhs ∧
        List.Forall₂ (fun x y => (b.plan d).operand x = .ok y ∧
          ∀ f, x = .field f → f.belongsTo r.target.toModel = true →
            f.applied d (r.target.table ++ "." ++ f.columnName) = .ok y ∧
            ((b.plan d).column t f = .ok y ↔ t.aliasName = r.target.table)) operands written ∧
        (b.plan d).comparison lhs o written none = .ok q ∧
        (Condition.filterOf d b.root b.conditions).map Sql.toText =
          .ok (before ++ q.toText ++ after)) ∧
    ∀ (sch : Lint.Schema) (a : Lint.Analyzer) (joined : List String) (v : Lint.Visit)
      (args : List Lint.CallTree) (qualifier generics : List String) (p p' : Lint.Position),
      sch.Recognised a → sch.model r.owner →
      Lint.Tested sch a (Lint.joining (joined.insert r.owner.name) (a.relationTargets (sch.handle r)))
        ps args →
      ∃ v', a.condition joined v (.method name
          (.call (qualifier ++ [r.owner.name, sch.handle r]) generics [] p :: args) p') =
        .ok (joined.insert r.owner.name, v') ∧ v'.findings = v.findings := by
  intro t
  have hdialect : (b.plan d).dialect = d := Plan.dialect_ofConditions
  refine ⟨fun ρ g o operands hρ => ?_, fun sch a joined v args qualifier generics p p' hs hm ht => ?_⟩
  · obtain ⟨π', hfill, hscope⟩ := hx.exists_position ρ π
    have hconditions := hπ.trans (hfill _ hρ)
    obtain ⟨filter, hfilter, -⟩ := exists_choice h
    rw [hconditions] at hfilter
    obtain ⟨⟨q, hq⟩, f, ⟨before, after, hf⟩, hframe⟩ := Plan.exists_frames_filter hfilter
    obtain ⟨lhs, hlhs, written, hwritten, hcompared⟩ := Plan.predicate_compareFields_eq_ok.1 hq
    have htext := hframe _ q (fun _ => rfl) hq (Plan.comparison_isEmpty hcompared)
    have hroot : π'.scope (b.plan d).root = ρ.scope t := by
      rw [plan, Plan.root_ofConditions, hscope]
    rw [hroot] at hlhs
    rw [hf, ← hconditions] at htext
    refine ⟨lhs, written, q, before, after, hlhs, hwritten.imp fun x y hy => ⟨hy, ?_⟩, hcompared, htext⟩
    rintro f rfl hf
    have hnone : (b.plan d).tablesOf f.model = [] := ((b.plan d).tablesOf_congr hf).trans hno
    have htable : f.model.table = r.target.table := by
      have hnames : f.model.name = r.target.name ∧ f.model.table = r.target.table := by
        simpa [Field.belongsTo, BEq.beq] using hf
      exact hnames.2
    have hoperand := Plan.operand_of_unjoined hnone hy t
    rwa [hdialect, htable] at hoperand
  · obtain ⟨scope, v', hwalk, -, hkept⟩ := ht.accepted hs (List.Subset.refl _) (v := v)
    refine ⟨v'.see scope, ?_, hkept⟩
    rw [Lint.Analyzer.condition_related hs hm hx, hwalk]
    rfl

def companySlogan : Field :=
  .ofName Sample.companyModel "Slogan"

def sellersOfSlogans : Builder :=
  .query (.ofConditions Sample.seller
    [.filter (.related Sample.employer [Sample.companyName.compareFields .eq [companySlogan]])])

def sellersOfSlogansTree : Lint.CallTree :=
  .call ["query"] ["Seller"] [.list [.method "into" [.method "unwrap" [.method "any" [
    .call ["Seller", "company"] [] [] ⟨2, 5⟩,
    .list [.method "eq" [.method "is_dynamic" [.call ["Company", "name"] [] [] ⟨3, 9⟩] ⟨3, 25⟩,
      .call ["Company", "slogan"] [] [] ⟨3, 42⟩] ⟨3, 38⟩] ⟨2, 27⟩]
    ⟨2, 23⟩] ⟨4, 7⟩] ⟨4, 16⟩] ⟨1, 18⟩] ⟨1, 1⟩

theorem quantified_sellersOfSlogans :
    Sample.employer.Quantified [Sample.companyName.compareFields .eq [companySlogan]] "any"
      (.related Sample.employer [Sample.companyName.compareFields .eq [companySlogan]]) :=
  .any rfl

theorem tested_sellersOfSlogans (names : List String) (h : "Company" ∈ names) :
    Lint.Tested Sample.schema Sample.linter names
      [Sample.companyName.compareFields .eq [companySlogan]]
      [.method "eq" [.method "is_dynamic" [.call ["Company", "name"] [] [] ⟨3, 9⟩] ⟨3, 25⟩,
        .call ["Company", "slogan"] [] [] ⟨3, 42⟩] ⟨3, 38⟩] := by
  have hcompany : Sample.schema.model Sample.companyModel := .inr (.inl rfl)
  have hname : Lint.Handle Sample.companyName ⟨3, 9⟩ (.call ["Company", "name"] [] [] ⟨3, 9⟩) :=
    Sample.handle_plain
  have hslogan : Lint.Handle companySlogan ⟨3, 42⟩ (.call ["Company", "slogan"] [] [] ⟨3, 42⟩) :=
    Sample.handle_plain
  have heq : "eq" ∈ Lint.Config.default.comparisonMethods := by decide
  refine .dynamic hcompany heq hname (.field (r := ⟨companySlogan, ⟨3, 42⟩⟩) hslogan) ?_
  intro r hr
  rw [List.mem_singleton.1 hr]
  exact ⟨hcompany, h⟩

/-- The slogan is named by the table of companies, and not by the table of the test. -/
theorem operands_sellersOfSlogans : ∃ s q v', sellersOfSlogans.compile .postgres = .ok s ∧
    companySlogan.applied .postgres "companies.slogan" = .ok q ∧
    (sellersOfSlogans.plan .postgres).column ((Table.root Sample.seller).reach Sample.employer)
      companySlogan ≠ .ok q ∧
    Sample.linter.condition ["Seller"] .empty (.method "any" [.call ["Seller", "company"] [] [] ⟨2, 5⟩,
      .method "eq" [.method "is_dynamic" [.call ["Company", "name"] [] [] ⟨3, 9⟩] ⟨3, 25⟩,
        .call ["Company", "slogan"] [] [] ⟨3, 42⟩] ⟨3, 38⟩] ⟨2, 23⟩) = .ok (["Seller"], v') ∧
    v'.findings = [] := by
  obtain ⟨s, hs⟩ : ∃ s, sellersOfSlogans.compile .postgres = .ok s := ⟨_, rfl⟩
  have hno : (sellersOfSlogans.plan .postgres).tablesOf Sample.employer.target.toModel = [] := rfl
  obtain ⟨hcompiled, haccepted⟩ := operands_quantified hs (π := .direct (.here [] []))
    quantified_sellersOfSlogans rfl hno
  obtain ⟨-, written, -, -, -, -, hwritten, -⟩ := hcompiled (.here [] []) _ _ _ rfl
  obtain ⟨q, rest, ⟨-, hoperand⟩, -, -⟩ := List.forall₂_cons_left_iff.1 hwritten
  obtain ⟨happlied, hcolumn⟩ := hoperand companySlogan rfl rfl
  have htargets : "Company" ∈ Lint.joining (["Seller"].insert "Seller")
      (Sample.linter.relationTargets "company") := by decide +kernel
  obtain ⟨v', hwalk, hkept⟩ := haccepted Sample.schema Sample.linter ["Seller"] .empty _ [] []
    ⟨2, 5⟩ ⟨2, 23⟩ Sample.recognised (.inl rfl) (tested_sellersOfSlogans _ htargets)
  refine ⟨s, q, v', hs, happlied, fun hsame => ?_, hwalk, hkept⟩
  have hname := hcolumn.1 hsame
  revert hname
  decide +kernel

/-- A reference to the target of a test is accepted, and is no column of the test's table. -/
theorem sellersOfSlogans_unscoped :
    (sellersOfSlogans.compile .postgres).toOption.map Statement.sql = some
      ("SELECT sellers.* FROM sellers WHERE (EXISTS (SELECT 1 FROM companies company"
        ++ " WHERE company.id = sellers.company_id AND company.name = companies.slogan"
        ++ " AND company.deleted_at IS NULL))") ∧
    Sample.linter.callSite sellersOfSlogansTree = .ok [] ∧
    ¬ ∀ (b : Builder) (d : Dialect) (s : Statement) (π : Condition.Position) (r : Relation)
      (ps : List Predicate) (name : String) (x : Predicate), b.compile d = .ok s →
      r.Quantified ps name x → b.conditions = π.fill [x] →
      (b.plan d).tablesOf r.target.toModel = [] →
      ∀ f ∈ Predicate.allReferences ps, f.belongsTo r.target.toModel = true →
        (b.plan d).reference f = (b.plan d).column ((π.scope (.root b.root)).reach r) f := by
  refine ⟨by decide +kernel, by decide +kernel, fun h => ?_⟩
  obtain ⟨s, hs⟩ : ∃ s, sellersOfSlogans.compile .postgres = .ok s := ⟨_, rfl⟩
  have hreferences : Predicate.allReferences [Sample.companyName.compareFields .eq [companySlogan]] =
    [companySlogan] := rfl
  have hsame := h _ _ s (.direct (.here [] [])) _ _ _ _ hs quantified_sellersOfSlogans rfl rfl
    companySlogan
    (hreferences ▸ List.mem_singleton_self _) rfl
  have htexts := congrArg (fun q => q.toOption.map Sql.toText) hsame
  revert htexts
  decide +kernel

end Builder
end Joinery
