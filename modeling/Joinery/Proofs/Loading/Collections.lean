import Joinery.Proofs.Loading.Hydration
import Joinery.Proofs.PlannedAlike
import Joinery.Proofs.Samples

/-! What a plan loads of collections.
A collection that stands in the list of a scope has an entry under its path, and so has every join below it,
under its own. The joins that lead to it have entries of their tables only if they load by themselves or by a
join below. A collection below another is left out, with all below it. -/
namespace Joinery

/-- The path of relations by their names, one below the other. Names that are empty begin no path. -/
def dotted (names : List String) : String :=
  String.intercalate "." (names.dropWhile String.isEmpty)

theorem childPath_dotted (names : List String) (name : String) :
    childPath (dotted names) name = dotted (names ++ [name]) := by
  rw [childPath, dotted, dotted, List.dropWhile_append]
  cases hnames : names.dropWhile String.isEmpty with
  | nil =>
    by_cases hname : name = "" <;> simp [hname]
  | cons first rest =>
    have hfirst : first ≠ "" := by
      have hhead := List.head?_dropWhile_not String.isEmpty names
      simpa [hnames] using hhead
    have hnonempty : String.intercalate "." (first :: rest) ≠ "" := by
      cases rest with
      | nil => simpa using hfirst
      | cons second rest => simp [hfirst]
    rw [if_neg (by simpa using hnonempty), if_neg (by simp),
      String.intercalate_append_of_ne_nil (List.cons_ne_nil _ _) (List.cons_ne_nil _ _)]
    simp

def Preload.collection? : Preload → Option (String × String)
  | .joined _ _ _ => none
  | .collection model path => some (model, path)

def Preload.collections (ps : List Preload) : List (String × String) :=
  ps.filterMap collection?

theorem Preload.mem_collections {model path : String} {ps : List Preload} :
    (model, path) ∈ collections ps ↔ .collection model path ∈ ps := by
  rw [collections, List.mem_filterMap]
  constructor
  · rintro ⟨x, hx, hentry⟩
    cases x with
    | joined m a columns => cases hentry
    | collection m path' =>
      cases hentry
      exact hx
  · exact fun hx => ⟨_, hx, rfl⟩

namespace Condition

mutual

/-- The collections that a condition adds, each before those below it. Inside a collection they are those of
the joins; collections in there add none. -/
def collections (inside : Bool) (names : List String) : Condition → List (String × String)
  | .filter _ => []
  | .join r _ cs =>
    (if inside then [(r.target.name, dotted (names ++ [r.name]))] else [])
      ++ allCollections inside (names ++ [r.name]) cs
  | .preload _ _ => []
  | .collection r nested =>
    if inside then []
    else (r.target.name, dotted (names ++ [r.name])) :: allCollections true (names ++ [r.name]) nested

def allCollections (inside : Bool) (names : List String) : List Condition → List (String × String)
  | [] => []
  | c :: rest => collections inside names c ++ allCollections inside names rest

end

/-! The collections among the steps of conditions. -/

mutual

theorem collections_collectionSteps (names : List String) :
    (c : Condition) → (c.collectionSteps (dotted names)).filterMap Step.collection? = c.collections true names
  | .join r _ cs => by
    rw [collectionSteps, childPath_dotted]
    exact congrArg (List.cons _) (collections_allCollectionSteps _ cs)
  | .filter _ => rfl
  | .preload _ _ => rfl
  | .collection _ _ => rfl

theorem collections_allCollectionSteps (names : List String) : (cs : List Condition) →
    (allCollectionSteps (dotted names) cs).filterMap Step.collection? = allCollections true names cs
  | [] => rfl
  | c :: rest => by
    rw [allCollectionSteps, allCollections, List.filterMap_append, collections_collectionSteps names c,
      collections_allCollectionSteps names rest]

end

mutual

theorem collections_steps (parent : Table) (names : List String) :
    (c : Condition) → (c.steps parent (dotted names)).filterMap Step.collection? = c.collections false names
  | .join r load cs => by
    have hloadings (ss : List Loading) : (ss.map Step.load).filterMap Step.collection? = [] := by
      simp [Step.collection?, Function.comp_def]
    rw [steps, childPath_dotted, List.filterMap_append, List.filterMap_cons_none rfl, hloadings,
      collections_allSteps _ _ cs]
    rfl
  | .collection r nested => by
    rw [steps, childPath_dotted]
    exact congrArg (List.cons _) (collections_allCollectionSteps _ nested)
  | .filter _ => rfl
  | .preload _ _ => rfl

theorem collections_allSteps (parent : Table) (names : List String) : (cs : List Condition) →
    (allSteps parent (dotted names) cs).filterMap Step.collection? = allCollections false names cs
  | [] => rfl
  | c :: rest => by
    rw [allSteps, allCollections, List.filterMap_append, collections_steps parent names c,
      collections_allSteps parent names rest]

end

end Condition

namespace Plan

/-- The second plan goes on from the first with some collections. -/
def Collects (p p' : Plan) (entries : List (String × String)) : Prop :=
  Preload.collections p'.preloads = Preload.collections p.preloads ++ entries

theorem Collects.refl (p : Plan) : p.Collects p [] :=
  (List.append_nil _).symm

theorem Collects.trans {p p' p'' : Plan} {es es' : List (String × String)} (h : p.Collects p' es)
    (h' : p'.Collects p'' es') : p.Collects p'' (es ++ es') := by
  rw [Collects, ← List.append_assoc, ← h]
  exact h'

theorem collections_extendColumns (aliasName : String) (fresh : List String) (ps : List Preload) :
    Preload.collections (extendColumns aliasName fresh ps) = Preload.collections ps := by
  fun_induction extendColumns aliasName fresh ps with
  | case1 => rfl
  | case2 model columns rest => rfl
  | case3 model other columns rest h ih => exact ih
  | case4 model path rest ih => exact congrArg (List.cons (model, path)) ih

theorem collects_load (p : Plan) (t : Table) (fields : List Field) : p.Collects (p.load t fields) [] := by
  rw [Collects, List.append_nil]
  cases h : loadedColumns? t.aliasName p.preloads with
  | none =>
    rw [load_of_unloaded h]
    simp [Preload.collections, Preload.collection?]
  | some known =>
    rw [load_of_loaded h]
    exact collections_extendColumns _ _ _

theorem collects_step (p : Plan) (s : Step) : p.Collects (p.step s) s.collection?.toList := by
  cases s with
  | join l => exact .refl p
  | load s => exact collects_load p s.table s.fields
  | collection model path => simp [step, Step.collection?, Collects, Preload.collections, Preload.collection?]

/-- The collections of a plan are those of its conditions, in their order. -/
theorem collections_ofConditions (d : Dialect) (root : Entity) (cs : List Condition) :
    Preload.collections (ofConditions d root cs).preloads = Condition.allCollections false [] cs := by
  rw [← Condition.collections_allSteps (.root root) [] cs]
  exact ofConditions_adds Collects.refl Collects.trans collects_step d root cs

end Plan

/-! Places that joins lead to. -/

namespace Condition

theorem allCollections_append (inside : Bool) (names : List String) (cs cs' : List Condition) :
    allCollections inside names (cs ++ cs') =
      allCollections inside names cs ++ allCollections inside names cs' := by
  induction cs with
  | nil => rfl
  | cons c rest ih => rw [List.cons_append, allCollections, ih, allCollections, List.append_assoc]

namespace Place

def names : Place → List String
  | .here _ _ => []
  | .joined _ r _ inner _ => r.name :: inner.names

def links (t : Table) (inserted : List Condition) : Place → List Link
  | .here _ _ => []
  | .joined _ r load inner _ => ⟨t, ⟨r, load, inner.fill inserted⟩⟩ :: inner.links (t.reach r) inserted

variable (place : Place) (cs : List Condition)

theorem links_subset (t : Table) : place.links t cs ⊆ allLinks t (place.fill cs) := by
  induction place generalizing t with
  | here before after => exact List.nil_subset _
  | joined before r load inner after ih =>
    intro l hl
    rw [fill, allLinks_append, allLinks]
    refine List.mem_append_right _ (List.mem_append_left _ ?_)
    exact (List.mem_cons.1 hl).elim (fun h => h ▸ List.mem_cons_self) fun h =>
      List.mem_cons_of_mem _ (ih _ h)

theorem allCollections_subset (inside : Bool) (outer : List String) :
    allCollections inside (outer ++ place.names) cs ⊆ allCollections inside outer (place.fill cs) := by
  induction place generalizing outer with
  | here before after =>
    intro entry h
    simp only [names, List.append_nil] at h
    simp only [fill, allCollections_append]
    exact List.mem_append_left _ (List.mem_append_right _ h)
  | joined before r load inner after ih =>
    intro entry h
    rw [names, List.append_cons] at h
    rw [fill, allCollections_append, allCollections, collections]
    exact List.mem_append_right _ (List.mem_append_left _ (List.mem_append_right _ (ih _ h)))

end Place

end Condition

namespace Plan

open Condition

theorem addCollections_append (p : Plan) (path : String) (cs cs' : List Condition) :
    p.addCollections path (cs ++ cs') = (p.addCollections path cs).addCollections path cs' := by
  induction cs generalizing p with
  | nil => rfl
  | cons c rest ih => exact ih _

/-- A collection below another adds nothing. -/
theorem addCollections_fill (p : Plan) (path : String) (inner : Place) (r : Relation)
    (nested : List Condition) :
    p.addCollections path (inner.fill [.collection r nested]) = p.addCollections path (inner.fill []) := by
  induction inner generalizing p path with
  | here before after =>
    simp only [Place.fill, addCollections_append]
    rfl
  | joined before r' load inner after ih =>
    simp only [Place.fill, addCollections_append, addCollections, addCollection, ih]

variable {d : Dialect} {root : Entity} {cs : List Condition}

theorem exists_joined_iff {aliasName : String} :
    (∃ model columns, .joined model aliasName columns ∈ (ofConditions d root cs).preloads) ↔
      aliasName ∈ Entry.names (Loading.entries (allLoadings (.root root) cs)) := by
  rw [← Preload.exists_mem_entries_iff, entries_ofConditions, Entry.names, List.mem_map]

/-- The collections to load are those that stand in the conditions of scopes, and below each of them one for
every join, in their order and under their paths. The table of a join that leads to a collection has an entry
if the join loads, itself or by a join below, and only then where the joins of each scope follow relations of
different names: a collection alone does not load it. A collection below another is left out: without it and
all below it the plan is the same. -/
theorem collections_reached (d : Dialect) (root : Entity) (cs : List Condition) :
    let p := ofConditions d root cs
    Preload.collections p.preloads = allCollections false [] cs ∧
    ∀ (place : Place) (r : Relation) (nested : List Condition), cs = place.fill [.collection r nested] →
      .collection r.target.name (dotted (place.names ++ [r.name])) ∈ p.preloads ∧
      (∀ l ∈ place.links (.root root) [.collection r nested],
        (l.join.loads = true → ∃ model columns, .joined model l.table.aliasName columns ∈ p.preloads) ∧
        (SiblingsDistinct cs → (∃ model columns, .joined model l.table.aliasName columns ∈ p.preloads) →
          l.join.loads = true)) ∧
      (∀ (inner : Place) (r' : Relation) (load : Bool) (below : List Condition),
        nested = inner.fill [.join r' load below] →
          .collection r'.target.name (dotted (place.names ++ [r.name] ++ inner.names ++ [r'.name])) ∈
            p.preloads) ∧
      ∀ (inner : Place) (r' : Relation) (below : List Condition), nested = inner.fill [.collection r' below] →
        ofConditions d root (place.fill [.collection r (inner.fill [])]) = p := by
  intro p
  have hcollections : Preload.collections p.preloads = allCollections false [] cs :=
    collections_ofConditions d root cs
  refine ⟨hcollections, ?_⟩
  rintro place r nested rfl
  have hplace : allCollections false place.names [.collection r nested] ⊆ Preload.collections p.preloads :=
    hcollections ▸ place.allCollections_subset [.collection r nested] false []
  refine ⟨Preload.mem_collections.1 (hplace List.mem_cons_self), fun l hl => ?_, ?_, ?_⟩
  · have hlink := place.links_subset _ _ hl
    refine ⟨fun hloads => exists_joined_iff.2 (mem_names_entries hlink hloads), fun hcs hjoined => ?_⟩
    exact (mem_names_entries_iff hcs hlink).1 (exists_joined_iff.1 hjoined)
  · rintro inner r' load below rfl
    have hinner := inner.allCollections_subset [.join r' load below] true (place.names ++ [r.name])
    refine Preload.mem_collections.1 (hplace ?_)
    rw [allCollections, collections, if_neg Bool.false_ne_true, List.cons_append]
    exact List.mem_cons_of_mem _ (List.mem_append_left _ (hinner List.mem_cons_self))
  · rintro inner r' below rfl
    -- the plan reads of a collection only what its list adds, and collections in there add nothing
    have halike : PlannedAlike [.collection r (inner.fill [])]
        [.collection r (inner.fill [.collection r' below])] :=
      .collection (fun p path => (addCollections_fill p path inner r' below).symm) r
    exact (halike.fill place).ofConditions d root

end Plan

namespace Sample

def staff : Relation :=
  ⟨companyModel, "Sellers", seller, "id", "company_id"⟩

def staffCompany : Join :=
  ⟨employer, true, [.collection staff []]⟩

end Sample

namespace Plan

open Condition

def staffedSellers : List Condition :=
  [.join Sample.employer true [.collection Sample.staff [Sample.staffCompany.toCondition]]]

def companyPlace : Place :=
  .joined [] Sample.employer true (.here [] []) []

/-- The sellers of the companies are loaded, but not those of the companies of these. -/
theorem collections_staffedSellers :
    let p := ofConditions .postgres Sample.seller staffedSellers
    .collection "Seller" "Company.Sellers" ∈ p.preloads ∧
    (∃ model columns, .joined model "company" columns ∈ p.preloads) ∧
    .collection "Company" "Company.Sellers.Company" ∈ p.preloads ∧
    ofConditions .postgres Sample.seller
      [.join Sample.employer true [.collection Sample.staff [.join Sample.employer true []]]] = p := by
  obtain ⟨-, hreached⟩ := collections_reached .postgres Sample.seller staffedSellers
  obtain ⟨hown, hjoins, hbelow, hdropped⟩ :=
    hreached companyPlace Sample.staff [Sample.staffCompany.toCondition] rfl
  have hpath : dotted (companyPlace.names ++ [Sample.staff.name]) = "Company.Sellers" := by decide +kernel
  have hpath' : dotted (companyPlace.names ++ [Sample.staff.name] ++ (Place.here [] []).names ++
      [Sample.employer.name]) = "Company.Sellers.Company" := by decide +kernel
  have htable : (Table.reach (.root Sample.seller) Sample.employer).aliasName = "company" := by decide +kernel
  refine ⟨hpath ▸ hown, ?_, hpath' ▸ hbelow (.here [] []) Sample.employer true _ rfl,
    hdropped companyPlace Sample.staff [] rfl⟩
  exact htable ▸ (hjoins _ List.mem_cons_self).1 rfl

/-- A collection below a collection is accepted and not loaded, and neither is a table that only leads to a
collection. -/
theorem collections_unreached :
    (∃ inner outer, Sample.staff.preloadCollection [] = .ok inner ∧
      Sample.staff.preloadCollection [⟨Sample.employer, true, [inner]⟩] = .ok outer ∧
      ((Query.ofConditions Sample.company [outer]).compile .postgres).toOption.map Statement.preloads =
        some [.collection "Seller" "Sellers", .collection "Company" "Sellers.Company"] ∧
      ((Query.ofConditions Sample.seller [.join Sample.employer false [inner]]).compile .postgres).toOption.map
        Statement.preloads = some [.collection "Seller" "Company.Sellers"]) ∧
    ¬ ∀ (d : Dialect) (root : Entity) (place inner : Place) (r r' : Relation) (below : List Condition),
      let cs := place.fill [.collection r (inner.fill [.collection r' below])]
      AllTyped root.toModel cs →
        .collection r'.target.name (dotted (place.names ++ [r.name] ++ inner.names ++ [r'.name])) ∈
          (ofConditions d root cs).preloads := by
  refine ⟨⟨_, _, rfl, rfl, by decide +kernel, by decide +kernel⟩, fun h => ?_⟩
  have htyped : AllTyped Sample.company.toModel [.collection Sample.staff [Sample.staffCompany.toCondition]] :=
    ⟨⟨rfl, ⟨⟨rfl, ⟨rfl, trivial, nofun⟩, trivial⟩, trivial⟩, by decide +kernel⟩, trivial⟩
  have hin := h .postgres Sample.company (.here [] []) companyPlace Sample.staff Sample.staff [] htyped
  revert hin
  decide +kernel

end Plan
end Joinery
