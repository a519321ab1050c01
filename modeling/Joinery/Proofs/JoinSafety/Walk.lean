import Joinery.Proofs.JoinSafety.Source

/-! The walk of the analysis along a statement.
The invariant is that every joined name is the name of a model with a table in the plan. Conditions keep
it whatever their order, since the plan holds the tables of all joins; and a field is either of a model
with a table, or a finding. -/
namespace Joinery
namespace Lint

structure Schema where
  model : Model → Prop
  relation : Relation → Prop
  handle : Relation → String

namespace Schema

def requirement (s : Schema) : Requirement where
  field f := s.model f.model
  relation r := s.relation r ∧ s.model r.target.toModel
  raw _ _ _ := True

/-- What an analysis relies on: it looks for the usual names, models are told by their names, and a
relation leads to no model but its target. -/
structure Recognised (s : Schema) (a : Analyzer) : Prop where
  usual : { a.config with relationAliases := [], models := [] } = Config.default
  isModelName : ∀ m, s.model m → isModelName m.name = true
  identified : ∀ m n, s.model m → s.model n → m.name = n.name → m == n
  leads : ∀ r, s.relation r → ∀ m, s.model m → m.name ∈ a.relationTargets (s.handle r) →
    m.name = r.target.name
  notConnector : ∀ r, s.relation r → a.config.isConnector (s.handle r) = false

namespace Recognised

variable {s : Schema} {a : Analyzer}

theorem eq_default {α : Type} (hs : s.Recognised a) (names : Config → α)
    (h : ∀ c : Config, names { c with relationAliases := [], models := [] } = names c) :
    names a.config = names Config.default := by
  rw [← h a.config, hs.usual]

theorem isQueryFunction (hs : s.Recognised a) (name : String) :
    a.config.isQueryFunction name = Config.default.isQueryFunction name :=
  hs.eq_default (·.isQueryFunction name) fun _ => rfl

theorem isConnector (hs : s.Recognised a) (name : String) :
    a.config.isConnector name = Config.default.isConnector name :=
  hs.eq_default (·.isConnector name) fun _ => rfl

theorem isOrderMethod (hs : s.Recognised a) (name : String) :
    a.config.isOrderMethod name = Config.default.isOrderMethod name :=
  hs.eq_default (·.isOrderMethod name) fun _ => rfl

theorem isSetMethod (hs : s.Recognised a) (name : String) :
    a.config.isSetMethod name = Config.default.isSetMethod name :=
  hs.eq_default (·.isSetMethod name) fun _ => rfl

theorem isComparison (hs : s.Recognised a) (name : String) :
    a.config.isComparison name = Config.default.isComparison name :=
  hs.eq_default (·.isComparison name) fun _ => rfl

theorem isCollectionMethod (hs : s.Recognised a) (name : String) :
    a.config.isCollectionMethod name = Config.default.isCollectionMethod name :=
  hs.eq_default (·.isCollectionMethod name) fun _ => rfl

end Recognised
end Schema

/-- Whether a model has one of the tables. -/
def HasTable (tables : List Table) (m : Model) : Prop :=
  ∃ t ∈ tables, t.entity.toModel == m

theorem hasTable_iff {p : Plan} {m : Model} : HasTable p.tables m ↔ p.tablesOf m ≠ [] := by
  simp only [HasTable, Plan.tablesOf, ne_eq, List.filter_eq_nil_iff]
  push Not
  rfl

theorem modelMember?_append {qualifier : List String} {model member : String} :
    modelMember? (qualifier ++ [model, member]) =
      if isModelName model then some (model, member) else none := by
  simp [modelMember?]

variable {f : Field} {position : Position} {t : CallTree}

theorem fieldModel_handle (h : Handle f position t) (hf : isModelName f.model.name = true) :
    fieldModel t = .ok (f.model.name, position) := by
  induction h with
  | call => simp [fieldModel, modelMember?_append, hf]
  | function _ _ ih => simpa [fieldModel] using ih

/-- A call is a field at its own position, or none. -/
theorem fieldModel_call (path generics : List String) (children : List CallTree) (position : Position) :
    (∃ model, fieldModel (.call path generics children position) = .ok (model, position)) ∨
      fieldModel (.call path generics children position) = .error (.notFieldHandle path) := by
  unfold fieldModel
  split
  · exact .inl ⟨_, rfl⟩
  · exact .inr rfl

theorem fieldHandle?_handle (h : Handle f position t) (hf : isModelName f.model.name = true) :
    fieldHandle? t = some (f.model.name, position) := by
  induction h with
  | call => simp [fieldHandle?, modelMember?_append, hf]
  | function hname _ ih => simpa [fieldHandle?, hname] using ih

theorem not_fieldFunction : ∀ name ∈ wrappers ++ ["is_dynamic", "is_unsafe", "assign_dynamic"],
    name ∉ fieldFunctions := by
  decide

theorem conversions_subset : conversions ⊆ wrappers := by
  decide

theorem operands_handle (h : Handle f position t) : operands t = [t] := by
  cases h with
  | call => rfl
  | @function name t args p hname _ =>
    have hwrapper : name ∉ wrappers := by
      intro hw
      exact not_fieldFunction name (List.mem_append_left _ hw) hname
    simp [operands, hwrapper]

theorem operandList_append (ts ts' : List CallTree) :
    operandList (ts ++ ts') = operandList ts ++ operandList ts' := by
  induction ts with
  | nil => rfl
  | cons t rest ih => simp [operandList, ih]

theorem operandList_eq_flatMap (ts : List CallTree) : operandList ts = ts.flatMap operands := by
  induction ts with
  | nil => rfl
  | cons t rest ih => rw [operandList, ih, List.flatMap_cons]

theorem operandList_singleton (t : CallTree) : operandList [t] = operands t := by
  simp [operandList]

variable {plain : CallTree → Prop} {refs : List Reference} {ts : List CallTree}

theorem Operands.exists_operand (h : Operands plain refs ts) :
    ∀ r ∈ refs, ∃ t ∈ operandList ts, Handle r.field r.position t := by
  induction h with
  | nil => simp
  | plain _ => simp
  | field ht => simpa [operandList, operands_handle ht] using ht
  | list _ ih => simpa [operandList, operands] using ih
  | converted hname _ ih =>
    simpa [operandList, operands, conversions_subset hname] using ih
  | append _ _ ih ih' =>
    intro r hr
    rw [operandList_append]
    obtain hr | hr := List.mem_append.1 hr
    · obtain ⟨t, ht, hhandle⟩ := ih r hr
      exact ⟨t, List.mem_append_left _ ht, hhandle⟩
    · obtain ⟨t, ht, hhandle⟩ := ih' r hr
      exact ⟨t, List.mem_append_right _ ht, hhandle⟩

theorem Operands.forall₂ (h : Operands CallTree.isOther refs ts) :
    List.Forall₂ (fun (r : Reference) t => Handle r.field r.position t) refs (operandList ts) := by
  induction h with
  | nil => exact .nil
  | field ht => simpa [operandList, operands_handle ht] using ht
  | list _ ih => simpa [operandList, operands] using ih
  | converted hname _ ih =>
    simpa [operandList, operands, conversions_subset hname] using ih
  | append _ _ ih ih' =>
    rw [operandList_append]
    exact List.rel_append ih ih'
  | @plain t ht =>
    cases t with
    | other p => exact .nil
    | call path generics children p => exact ht.elim
    | method name children p => exact ht.elim
    | list children p => exact ht.elim

/-- What a walk along references does: it keeps the findings, and finds those without a table. -/
structure Covers (tables : List Table) (v v' : Visit) (refs : List Reference) : Prop where
  keeps : v.findings ⊆ v'.findings
  finds : ∀ r ∈ refs, ¬ HasTable tables r.field.model → r.finding ∈ v'.findings

variable {tables : List Table} {v v' v'' : Visit} {refs' : List Reference}

theorem Covers.refl : Covers tables v v [] :=
  ⟨List.Subset.refl _, by simp⟩

theorem Covers.append (h : Covers tables v v' refs) (h' : Covers tables v' v'' refs') :
    Covers tables v v'' (refs ++ refs') := by
  refine ⟨List.Subset.trans h.keeps h'.keeps, fun r hr htable => ?_⟩
  obtain hr | hr := List.mem_append.1 hr
  · exact h'.keeps (h.finds r hr htable)
  · exact h'.finds r hr htable

/-- The invariant: a model with a joined name has a table. -/
def Joins (s : Schema) (tables : List Table) (joined : List String) : Prop :=
  ∀ m, s.model m → m.name ∈ joined → HasTable tables m

variable {s : Schema} {a : Analyzer} {joined : List String}

theorem Joins.insert (hj : Joins s tables joined) {name : String}
    (h : ∀ m, s.model m → m.name = name → HasTable tables m) :
    Joins s tables (joined.insert name) := by
  intro m hm hname
  obtain hname | hname := List.mem_insert_iff.1 hname
  · exact h m hm hname
  · exact hj m hm hname

theorem Joins.joining (hj : Joins s tables joined) {names : List String}
    (h : ∀ m, s.model m → m.name ∈ names → HasTable tables m) :
    Joins s tables (joining joined names) := by
  induction names generalizing joined with
  | nil => exact hj
  | cons name rest ih =>
    have hinsert : Joins s tables (joined.insert name) :=
      hj.insert fun m hm hname => h m hm (by simp [hname])
    exact ih hinsert fun m hm hname => h m hm (by simp [hname])

theorem Joins.insertModel (hs : s.Recognised a) (hj : Joins s tables joined) {t : Table}
    (ht : t ∈ tables) (hmodel : s.model t.entity.toModel) :
    Joins s tables (joined.insert t.entity.name) :=
  hj.insert fun m hm hname => ⟨t, ht, hs.identified _ m hmodel hm hname.symm⟩

theorem covers_check (hj : Joins s tables joined) {r : Reference} (hr : s.model r.field.model) :
    Covers tables v (v.check joined r.field.model.name r.position) [r] := by
  by_cases hname : r.field.model.name ∈ joined
  · have htable := hj _ hr hname
    refine ⟨?_, ?_⟩
    · simp [Visit.check, hname]
    · simpa using fun hno => absurd htable hno
  · refine ⟨?_, ?_⟩
    · simp [Visit.check, hname]
    · simp [Visit.check, hname, Reference.finding]

theorem check_keeps (v : Visit) (joined : List String) (model : String) (position : Position) :
    v.findings ⊆ (v.check joined model position).findings := by
  unfold Visit.check
  split
  · exact List.Subset.refl _
  · exact List.subset_append_left _ _

theorem checkFields_covers (hs : s.Recognised a) (hj : Joins s tables joined)
    (h : List.Forall₂ (fun (r : Reference) t => Handle r.field r.position t) refs ts)
    (hrefs : ∀ r ∈ refs, s.model r.field.model) :
    ∃ v', Analyzer.checkFields joined v ts = .ok v' ∧ Covers tables v v' refs := by
  induction h generalizing v with
  | nil => exact ⟨v, rfl, .refl⟩
  | @cons r t refs ts hhandle _ ih =>
    have hr := hrefs r (by simp)
    obtain ⟨v', hv', hcovers⟩ := ih (v := v.check joined r.field.model.name r.position)
      fun r hr => hrefs r (by simp [hr])
    refine ⟨v', ?_, (covers_check hj hr).append hcovers⟩
    rw [Analyzer.checkFields, fieldModel_handle hhandle (hs.isModelName _ hr)]
    exact hv'

theorem checkOperands_keeps : v.findings ⊆ (a.checkOperands joined v ts).findings := by
  induction ts generalizing v with
  | nil => exact List.Subset.refl _
  | cons t rest ih =>
    rw [Analyzer.checkOperands]
    split
    · split
      · exact List.Subset.trans (check_keeps v joined _ _) ih
      · exact ih
    · exact ih

theorem checkOperands_finds {r : Reference} (hname : isModelName r.field.model.name = true)
    (hknown : r.field.model.name ∈ a.known) (hno : r.field.model.name ∉ joined)
    (hhandle : Handle r.field r.position t) (ht : t ∈ ts) :
    r.finding ∈ (a.checkOperands joined v ts).findings := by
  induction ts generalizing v with
  | nil => cases ht
  | cons t' rest ih =>
    obtain rfl | ht := List.mem_cons.1 ht
    · have hfound : r.finding ∈ (v.check joined r.field.model.name r.position).findings := by
        simp [Visit.check, hno, Reference.finding]
      simpa [Analyzer.checkOperands, fieldHandle?_handle hhandle hname, hknown] using
        checkOperands_keeps hfound
    · rw [Analyzer.checkOperands]
      split
      · split
        · exact ih ht
        · exact ih ht
      · exact ih ht

theorem checkOperands_covers (hs : s.Recognised a) (hj : Joins s tables joined)
    (h : Operands plain refs ts) (hrefs : ∀ r ∈ refs, s.model r.field.model)
    (hknown : ∀ r ∈ refs, r.field.model.name ∈ a.known) :
    Covers tables v (a.checkOperands joined v (operandList ts)) refs := by
  refine ⟨checkOperands_keeps, fun r hr htable => ?_⟩
  obtain ⟨t, ht, hhandle⟩ := h.exists_operand r hr
  have hno : r.field.model.name ∉ joined := fun hin => htable (hj _ (hrefs r hr) hin)
  exact checkOperands_finds (hs.isModelName _ (hrefs r hr)) (hknown r hr) hno hhandle ht

theorem comparison_typed {args : List CallTree} (h : Handle f position t)
    (hf : isModelName f.model.name = true) :
    a.comparison (t :: args) joined v = .ok (joined.insert f.model.name, v) := by
  have hmodel := fieldModel_handle h hf
  have hmark : ∀ name ∈ ["is_dynamic", "is_unsafe"], ∀ fields p, t ≠ .method name fields p := by
    rintro name hname fields p rfl
    cases h with
    | function hfunction _ => exact not_fieldFunction name (List.mem_append_right _ (by grind)) hfunction
  unfold Analyzer.comparison
  split
  · cases ‹_ = []›
  · obtain ⟨rfl, rfl⟩ := List.cons.inj ‹_ = _›
    split
    · exact absurd rfl (hmark _ (by simp) _ _)
    · exact absurd rfl (hmark _ (by simp) _ _)
    · rw [hmodel]
      rfl

namespace Analyzer

theorem conditions_append (ts ts' : List CallTree) :
    a.conditions joined v (ts ++ ts') =
      a.conditions joined v ts >>= fun x => a.conditions x.1 x.2 ts' := by
  induction ts generalizing joined v with
  | nil => rfl
  | cons t rest ih =>
    rw [List.cons_append, conditions, conditions, bind_assoc]
    refine bind_congr fun x => ?_
    exact ih

@[simp] theorem conditions_singleton (t : CallTree) :
    a.conditions joined v [t] = a.condition joined v t := by
  cases h : a.condition joined v t <;> simp [conditions, h, bind, Except.bind]

end Analyzer

end Lint
end Joinery
