import Joinery.Proofs.Positions
import Joinery.Proofs.Samples

/-! Which table a field goes by.
A field of any model may be named anywhere in a statement. The tables of its model are counted in the order
of reading: the root, and then each join before those below it. -/
namespace Joinery

theorem Model.beq_iff {m m' : Model} : (m == m') = true ↔ m.name = m'.name ∧ m.table = m'.table := by
  show (m.name == m'.name && m.table == m'.table) = true ↔ _
  rw [Bool.and_eq_true, beq_iff_eq, beq_iff_eq]

namespace Condition

mutual

/-- The names of the tables of a model among the joins of a condition, each before those below it. -/
def namesOf (m : Model) (parent : Table) : Condition → List String
  | .join r _ cs =>
    if r.target.name = m.name ∧ r.target.table = m.table then
      (parent.reach r).aliasName :: allNamesOf m (parent.reach r) cs
    else allNamesOf m (parent.reach r) cs
  | .filter _ => []
  | .preload _ _ => []
  | .collection _ _ => []

def allNamesOf (m : Model) (parent : Table) : List Condition → List String
  | [] => []
  | c :: rest => namesOf m parent c ++ allNamesOf m parent rest

end

/-- The names of the tables of a model in a statement, the root first. -/
def appearances (root : Entity) (cs : List Condition) (m : Model) : List String :=
  if root.name = m.name ∧ root.table = m.table then root.table :: allNamesOf m (.root root) cs
  else allNamesOf m (.root root) cs

theorem aliasNames_cons (m : Model) (t : Table) (ts : List Table) :
    ((t :: ts).filter (·.entity.toModel == m)).map Table.aliasName =
      if t.entity.name = m.name ∧ t.entity.table = m.table then
        t.aliasName :: (ts.filter (·.entity.toModel == m)).map Table.aliasName
      else (ts.filter (·.entity.toModel == m)).map Table.aliasName := by
  rw [List.filter_cons]
  simp only [Model.beq_iff]
  split <;> rfl

mutual

theorem aliasNames_links (m : Model) (parent : Table) : (c : Condition) →
    (((c.links parent).map Link.table).filter (·.entity.toModel == m)).map Table.aliasName =
      c.namesOf m parent
  | .join r load cs => by
    rw [links, List.map_cons, aliasNames_cons, aliasNames_allLinks m _ cs]
    rfl
  | .filter _ => rfl
  | .preload _ _ => rfl
  | .collection _ _ => rfl

theorem aliasNames_allLinks (m : Model) (parent : Table) : (cs : List Condition) →
    (((allLinks parent cs).map Link.table).filter (·.entity.toModel == m)).map Table.aliasName =
      allNamesOf m parent cs
  | [] => rfl
  | c :: rest => by
    rw [allLinks, List.map_append, List.filter_append, List.map_append, aliasNames_links m parent c,
      aliasNames_allLinks m parent rest]
    rfl

end

theorem Place.scope_mem (place : Place) (t : Table) (cs : List Condition) :
    place.scope t ∈ t :: (allLinks t (place.fill cs)).map Link.table := by
  induction place generalizing t with
  | here before after => exact List.mem_cons_self
  | joined before r load inner after ih =>
    refine List.mem_cons_of_mem _ ?_
    rw [fill, allLinks_append, List.map_append, allLinks, links, List.cons_append, List.map_cons,
      List.map_append]
    refine List.mem_append_right _ ?_
    obtain hscope | hscope := List.mem_cons.1 (ih (t.reach r))
    · exact List.mem_cons.2 (.inl hscope)
    · exact List.mem_cons_of_mem _ (List.mem_append_left _ hscope)

end Condition

namespace Plan

variable {d : Dialect} {root : Entity} {cs : List Condition}

theorem aliasNames_tablesOf (m : Model) :
    ((ofConditions d root cs).tablesOf m).map Table.aliasName = Condition.appearances root cs m := by
  rw [tablesOf, tables_ofConditions, Condition.aliasNames_cons, Condition.aliasNames_allLinks]
  rfl

section

variable {p : Plan} {f : Field}

theorem aliasFor_unjoined (h : p.tablesOf f.model = []) : p.aliasFor f = .ok f.model.table := by
  simp only [aliasFor, h]

theorem aliasFor_single (hf : f.appearance = none) {t : Table} (h : p.tablesOf f.model = [t]) :
    p.aliasFor f = .ok t.aliasName := by
  simp only [aliasFor, h, hf]

theorem aliasFor_ambiguous (hf : f.appearance = none) (h : 1 < (p.tablesOf f.model).length) :
    p.aliasFor f = .error (.ambiguousModel f.model.name (p.tablesOf f.model).length) := by
  unfold aliasFor
  generalize p.tablesOf f.model = tables at h ⊢
  obtain _ | ⟨t, _ | ⟨u, rest⟩⟩ := tables
  · simp at h
  · simp at h
  · simp only [hf]

theorem aliasFor_selected {i : Nat} (hf : f.appearance = some i) {t : Table}
    (h : (p.tablesOf f.model)[i]? = some t) : p.aliasFor f = .ok t.aliasName := by
  unfold aliasFor
  generalize p.tablesOf f.model = tables at h ⊢
  cases tables with
  | nil => simp at h
  | cons first rest => simp only [hf, h]

theorem aliasFor_out_of_range {i : Nat} (hf : f.appearance = some i) (hjoined : p.tablesOf f.model ≠ [])
    (h : (p.tablesOf f.model).length ≤ i) :
    p.aliasFor f = .error (.appearanceOutOfRange f.model.name i (p.tablesOf f.model).length) := by
  unfold aliasFor
  generalize p.tablesOf f.model = tables at hjoined h ⊢
  cases tables with
  | nil => exact absurd rfl hjoined
  | cons first rest => simp only [hf, List.getElem?_eq_none h]

theorem reference_of_ok {name : String} (h : p.aliasFor f = .ok name) :
    p.reference f = f.applied p.dialect (name ++ "." ++ f.columnName) := by
  rw [reference, h]
  rfl

theorem reference_of_error {e : QueryError} (h : p.aliasFor f = .error e) : p.reference f = .error e := by
  rw [reference, h]
  rfl

end

/-- The only table of a model is the one in whose scope conditions on the model stand. -/
theorem tablesOf_eq_singleton {place : Condition.Place} {inner : List Condition} {m : Model}
    (hscope : ((place.scope (.root root)).entity.toModel == m) = true)
    (hone : ((ofConditions d root (place.fill inner)).tablesOf m).length = 1) :
    (ofConditions d root (place.fill inner)).tablesOf m = [place.scope (.root root)] := by
  obtain ⟨t, ht⟩ := List.length_eq_one_iff.1 hone
  have hmem : place.scope (.root root) ∈ (ofConditions d root (place.fill inner)).tablesOf m := by
    rw [tablesOf, tables_ofConditions]
    exact List.mem_filter.2 ⟨place.scope_mem _ inner, hscope⟩
  rw [ht] at hmem ⊢
  rw [List.mem_singleton.1 hmem]

/-- A field is resolved by the tables of its model in the statement, counted in the order of reading. Where
its model has one table, it is written as on the left of a predicate in the scope of that table. -/
theorem reference_by_appearance (d : Dialect) (root : Entity) (cs : List Condition) (f : Field) :
    let p := ofConditions d root cs
    let names := Condition.appearances root cs f.model
    let written (name : String) := f.applied d (name ++ "." ++ f.columnName)
    (names = [] → p.reference f = written f.model.table) ∧
    (f.appearance = none → ∀ name, names = [name] → p.reference f = written name) ∧
    (f.appearance = none → 1 < names.length →
      p.reference f = .error (.ambiguousModel f.model.name names.length)) ∧
    (∀ i, f.appearance = some i → ∀ name, names[i]? = some name → p.reference f = written name) ∧
    (∀ i, f.appearance = some i → 1 ≤ names.length → names.length ≤ i →
      p.reference f = .error (.appearanceOutOfRange f.model.name i names.length)) ∧
    (∀ (place : Condition.Place) (inner : List Condition), cs = place.fill inner →
      names.length = 1 → ((place.scope (.root root)).entity.toModel == f.model) = true →
      f.appearance = none ∨ f.appearance = some 0 →
      p.reference f = p.column (place.scope (.root root)) f) := by
  intro p names written
  have hnames : (p.tablesOf f.model).map Table.aliasName = names := aliasNames_tablesOf f.model
  have hlength : (p.tablesOf f.model).length = names.length := by rw [← hnames, List.length_map]
  have hdialect : p.dialect = d := dialect_ofConditions
  have hwritten {name : String} (h : p.aliasFor f = .ok name) : p.reference f = written name := by
    rw [reference_of_ok h, hdialect]
  refine ⟨fun hnone => ?_, fun hf name hone => ?_, fun hf hmany => ?_, fun i hf name hget => ?_,
    fun i hf hjoined hle => ?_, ?_⟩
  · exact hwritten (aliasFor_unjoined (List.map_eq_nil_iff.1 (hnames.trans hnone)))
  · obtain ⟨t, ht, rfl⟩ := List.map_eq_singleton_iff.1 (hnames.trans hone)
    exact hwritten (aliasFor_single hf ht)
  · rw [← hlength] at hmany ⊢
    exact reference_of_error (aliasFor_ambiguous hf hmany)
  · rw [← hnames, List.getElem?_map] at hget
    obtain ⟨t, ht, rfl⟩ := Option.map_eq_some_iff.1 hget
    exact hwritten (aliasFor_selected hf ht)
  · rw [← hlength] at hjoined hle ⊢
    exact reference_of_error (aliasFor_out_of_range hf (List.ne_nil_of_length_pos hjoined) hle)
  · rintro place inner rfl hone hscope hf
    have htables := tablesOf_eq_singleton hscope (hlength.trans hone)
    have halias : p.aliasFor f = .ok (place.scope (.root root)).aliasName := by
      obtain hf | hf := hf
      · exact aliasFor_single hf htables
      · exact aliasFor_selected hf (by rw [htables]; rfl)
    rw [reference_of_ok halias, column, Table.column]

theorem reference_to_second_company :
    Condition.appearances Sample.seller [.join Sample.employer false [.join Sample.holding false []]]
        Sample.companyModel = ["company", "company__holding"] ∧
      (ofConditions .postgres Sample.seller
        [.join Sample.employer false [.join Sample.holding false []]]).reference
          { Sample.companyName with appearance := some 1 } =
        .ok (.fragment "company__holding.name" []) := by
  have hnames : Condition.appearances Sample.seller
      [.join Sample.employer false [.join Sample.holding false []]] Sample.companyModel =
        ["company", "company__holding"] := by decide +kernel
  have hcolumn : ({ Sample.companyName with appearance := some 1 } : Field).columnName = "name" := by
    decide +kernel
  have hresolved := (reference_by_appearance .postgres Sample.seller
    [.join Sample.employer false [.join Sample.holding false []]]
    { Sample.companyName with appearance := some 1 }).2.2.2.1 1 rfl "company__holding"
      (congrArg (·[1]?) hnames)
  rw [hcolumn] at hresolved
  exact ⟨hnames, hresolved⟩

end Plan
end Joinery
