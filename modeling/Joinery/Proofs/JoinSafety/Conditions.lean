import Joinery.Proofs.JoinSafety.Walk

/-! The walk along conditions.
Their joins may stand anywhere among them, and start in the scope of any table of the plan. -/
namespace Joinery
namespace Lint

variable {s : Schema} {a : Analyzer} {tables : List Table} {scope : Table} {joined : List String}
  {cs cs' : List Condition} {f : Field}

/-- Conditions in the scope of a table, whose joins all have tables. -/
structure InScope (s : Schema) (tables : List Table) (t : Table) (cs : List Condition) : Prop where
  table : t ∈ tables
  model : s.model t.entity.toModel
  links : ∀ l ∈ Condition.allLinks t cs, l.table ∈ tables
  typed : ∀ c ∈ cs, c.Typed t.entity.toModel
  meets : ∀ c ∈ cs, c.Meets s.requirement t

namespace InScope

theorem typed_singleton {c : Condition} (h : InScope s tables scope [c]) :
    c.Typed scope.entity.toModel :=
  h.typed c (by simp)

theorem meets_singleton {c : Condition} (h : InScope s tables scope [c]) :
    c.Meets s.requirement scope :=
  h.meets c (by simp)

theorem mono (h : InScope s tables scope cs) (hsub : cs' ⊆ cs) : InScope s tables scope cs' where
  table := h.table
  model := h.model
  links l hl := by
    rw [Condition.allLinks_eq_flatMap, List.mem_flatMap] at hl
    obtain ⟨c, hc, hl⟩ := hl
    refine h.links l ?_
    rw [Condition.allLinks_eq_flatMap]
    exact List.mem_flatMap.2 ⟨c, hsub hc, hl⟩
  typed c hc := h.typed c (hsub hc)
  meets c hc := h.meets c (hsub hc)

theorem below {r : Relation} {load : Bool} (h : InScope s tables scope [.join r load cs]) :
    InScope s tables (scope.reach r) cs where
  table := h.links ⟨scope, r, load, cs⟩ (by simp [Condition.allLinks, Condition.links])
  model := h.meets_singleton.1.2
  links l hl := h.links l (by simp [Condition.allLinks, Condition.links, hl])
  typed := Condition.allTyped_iff.1 h.typed_singleton.2
  meets := Condition.allMeet_iff.1 h.meets_singleton.2

theorem loaded {r : Relation} {load load' : Bool} (h : InScope s tables scope [.join r load cs]) :
    InScope s tables scope [.join r load' cs] where
  table := h.table
  model := h.model
  links l hl := by
    simp only [Condition.allLinks, Condition.links, List.append_nil, List.mem_cons] at hl
    obtain rfl | hl := hl
    · exact h.below.table
    · exact h.below.links l hl
  typed := by simpa [Condition.Typed] using h.typed
  meets := by simpa [Condition.Meets] using h.meets

theorem connected {c : Connective} {ps : List Predicate}
    (h : InScope s tables scope [.filter (.connect c ps)]) :
    InScope s tables scope (ps.map .filter) where
  table := h.table
  model := h.model
  links l hl := by
    simp [Condition.allLinks_eq_flatMap, List.flatMap_map, Condition.links] at hl
  typed := by
    have hps := Predicate.allTyped_iff.1 h.typed_singleton.2
    simpa [Condition.Typed] using hps
  meets := by
    have hps := Predicate.allMeet_iff.1 h.meets_singleton
    simpa [Condition.Meets] using hps

/-- The owner of a compared field is the model of the scope, and may be joined. -/
theorem insertOwner (hs : s.Recognised a) (h : InScope s tables scope cs)
    (hj : Joins s tables joined) (hf : f.model = scope.entity.toModel) :
    Joins s tables (joined.insert f.model.name) := by
  rw [hf]
  exact hj.insertModel hs h.table h.model

theorem compareOperands {o : Operator} {operands : List Operand}
    (h : InScope s tables scope [.filter (f.compareOperands o operands)]) :
    f.model = scope.entity.toModel ∧
      ∀ g ∈ operands.filterMap Operand.field?, s.model g.model := by
  have howner : (f.compareOperands o operands).Typed scope.entity.toModel := h.typed_singleton
  refine ⟨?_, ?_⟩
  · unfold Field.compareOperands at howner
    split at howner
    · exact howner.1
    · exact howner.1
  · rw [← Predicate.references_compareOperands f o]
    exact Predicate.field_of_meets h.meets_singleton

end InScope

namespace Analyzer

variable {v : Visit} {t : CallTree} {args ts : List CallTree} {position : Position}

theorem condition_wrapped {name : String} (h : name ∈ wrappers) :
    a.condition joined v (.method name (t :: args) position) = a.condition joined v t := by
  simp [condition, h]

theorem condition_comparison (hs : s.Recognised a) {name : String}
    (h : name ∈ Config.default.comparisonMethods) :
    a.condition joined v (.method name (t :: args) position) = a.comparison (t :: args) joined v := by
  have hwrapper : ∀ name ∈ Config.default.comparisonMethods, name ∉ wrappers := by decide
  have hcomparison : Config.default.isComparison name = true := List.contains_iff_mem.2 h
  simp [condition, hwrapper name h, hs.isComparison, hcomparison]

theorem condition_connector (hs : s.Recognised a) (c : Connective)
    {qualifier generics : List String} :
    a.condition joined v (.call (qualifier ++ [connector c]) generics ts position) =
      a.conditions joined v ts := by
  have hconnector : Config.default.isConnector (connector c) = true := by cases c <;> decide
  rw [condition.eq_def]
  simp [hs.isConnector, hconnector]

theorem condition_relation {model relation : String} {qualifier generics : List String}
    (hmodel : isModelName model = true) (hrelation : a.config.isConnector relation = false) :
    a.condition joined v (.call (qualifier ++ [model, relation]) generics [t] position) =
      a.conditions (Lint.joining (joined.insert model) (a.relationTargets relation)) v [t] := by
  rw [condition.eq_def]
  simp [modelMember?_append, hmodel, hrelation]

theorem condition_function (hs : s.Recognised a) {path generics : List String} {name : String}
    (hname : path.getLast? = some name) (hconnector : Config.default.isConnector name = false)
    (hmember : modelMember? path = none) :
    a.condition joined v (.call path generics args position) = .ok (joined, v) := by
  rw [condition.eq_def]
  simp [hname, hs.isConnector, hconnector, hmember]

end Analyzer

/-- The walk along conditions in the scope of a table keeps the invariant, and covers their
references. -/
theorem Written.covers (hs : s.Recognised a) {refs : List Reference} {ts : List CallTree}
    (h : Written s.handle a.known cs refs ts) {v : Visit} (hscope : InScope s tables scope cs)
    (hj : Joins s tables joined) :
    ∃ joined' v', a.conditions joined v ts = .ok (joined', v') ∧ Joins s tables joined' ∧
      Covers tables v v' refs := by
  induction h generalizing scope joined v with
  | nil => exact ⟨joined, v, rfl, hj, .refl⟩
  | append _ _ ih ih' =>
    obtain ⟨joined', v', hwalk, hj', hcovers⟩ :=
      ih (hscope.mono (List.subset_append_left _ _)) hj
    obtain ⟨joined'', v'', hwalk', hj'', hcovers'⟩ :=
      ih' (hscope.mono (List.subset_append_right _ _)) hj'
    refine ⟨joined'', v'', ?_, hj'', hcovers.append hcovers'⟩
    rw [Analyzer.conditions_append, hwalk]
    exact hwalk'
  | list _ ih => simpa [Analyzer.condition] using ih hscope hj
  | converted hname _ ih =>
    simpa [Analyzer.condition_wrapped (conversions_subset hname)] using ih hscope hj
  | preloaded _ ih =>
    have hwrapper : "preload" ∈ wrappers := by decide
    simpa [Analyzer.condition_wrapped hwrapper] using ih hscope.loaded hj
  | @typed f o values escape name t args q p hname hhandle =>
    have howner : f.model = scope.entity.toModel := hscope.typed_singleton.1
    have hmodel : isModelName f.model.name = true := hs.isModelName _ hscope.meets_singleton
    refine ⟨_, v, ?_, hscope.insertOwner hs hj howner, .refl⟩
    rw [Analyzer.conditions_singleton, Analyzer.condition_comparison hs hname]
    exact comparison_typed hhandle hmodel
  | @dynamic f o refs name t args q p p' hname hhandle hargs =>
    have howner : f.model = scope.entity.toModel := hscope.typed_singleton.1
    have hmeets : s.model f.model ∧ _ := hscope.meets_singleton
    have hj' := hscope.insertOwner hs hj howner
    obtain ⟨v', hchecked, hcovers⟩ := checkFields_covers (v := v) hs hj' hargs.forall₂
      fun r hr => hmeets.2 r.field (by simpa using ⟨r, hr, rfl⟩)
    refine ⟨_, v', ?_, hj', hcovers⟩
    rw [Analyzer.conditions_singleton, Analyzer.condition_comparison hs hname]
    simp only [Analyzer.comparison, fieldModel_handle hhandle (hs.isModelName _ hmeets.1)]
    change (Analyzer.checkFields _ v _ >>= fun v' => pure (_, v')) = _
    rw [hchecked]
    rfl
  | @untyped f o operands refs name t args q p p' hname hhandle hargs hfields hknown =>
    obtain ⟨howner, hoperands⟩ := hscope.compareOperands
    have hmodel : s.model f.model := howner ▸ hscope.model
    have hj' := hscope.insertOwner hs hj howner
    have hrefs : ∀ r ∈ refs, s.model r.field.model := by
      intro r hr
      exact hoperands r.field (hfields ▸ List.mem_map_of_mem hr)
    refine ⟨_, _, ?_, hj', checkOperands_covers (v := v) hs hj' hargs hrefs hknown⟩
    rw [Analyzer.conditions_singleton, Analyzer.condition_comparison hs hname]
    simp only [Analyzer.comparison, fieldModel_handle hhandle (hs.isModelName _ hmodel)]
    rfl
  | raw hname hmember =>
    refine ⟨joined, v, ?_, hj, .refl⟩
    rw [Analyzer.conditions_singleton]
    exact Analyzer.condition_function hs hname (by decide) hmember
  | @connect c ps refs ts qualifier generics p _ ih =>
    simpa [Analyzer.condition_connector hs c] using ih hscope.connected hj
  | @join r cs refs t qualifier generics p _ ih =>
    have howner : r.owner = scope.entity.toModel := hscope.typed_singleton.1
    have hrelation : s.relation r ∧ s.model r.target.toModel := hscope.meets_singleton.1
    have howned : Joins s tables (joined.insert r.owner.name) :=
      howner ▸ hj.insertModel hs hscope.table hscope.model
    -- The target is joined before the conditions below, which may refer to it.
    have htargets : Joins s tables
        (joining (joined.insert r.owner.name) (a.relationTargets (s.handle r))) :=
      howned.joining fun m hm hname => ⟨scope.reach r, hscope.below.table,
        hs.identified _ m hrelation.2 hm (hs.leads r hrelation.1 m hm hname).symm⟩
    have hwalk := ih (v := v) hscope.below htargets
    rwa [Analyzer.conditions_singleton, Analyzer.condition_relation
      (hs.isModelName _ (howner ▸ hscope.model)) (hs.notConnector r hrelation.1)]
  | @preload m fields name qualifier generics args p hname =>
    refine ⟨joined, v, ?_, hj, .refl⟩
    have hconnector : ∀ name ∈ ["preload", "preload_fields"],
        Config.default.isConnector name = false := by decide
    have hmember : modelMember? (qualifier ++ ["Condition", name]) = none := by
      rw [modelMember?_append]
      rfl
    rw [Analyzer.conditions_singleton]
    exact Analyzer.condition_function hs (by simp) (hconnector name hname) hmember
  | collection =>
    refine ⟨joined, v, ?_, hj, .refl⟩
    have hwrapper : "preload_collection" ∉ wrappers := by decide
    have hcomparison : Config.default.isComparison "preload_collection" = false := by decide
    have hcollection : Config.default.isCollectionMethod "preload_collection" = false := by decide
    rw [Analyzer.conditions_singleton]
    simp [Analyzer.condition, hwrapper, hs.isComparison, hcomparison, hs.isCollectionMethod,
      hcollection]

end Lint
end Joinery
