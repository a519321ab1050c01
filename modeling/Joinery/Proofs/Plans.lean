import Joinery.Proofs.Trees

/-! What planning adds: the joins of the conditions in depth-first order, each starting from the table
of its scope, with what they load, and the collections. Planning takes one step for each of these, and what
holds of plans is shown step by step. Loading changes neither the tables nor the joins. -/
namespace Joinery

/-- Two tables of one name, each the root or both not. -/
structure Table.Alike (t t' : Table) : Prop where
  aliasName : t'.aliasName = t.aliasName
  isRoot : t'.isRoot = t.isRoot

namespace Table.Alike

variable {t t' : Table}

theorem refl (t : Table) : t.Alike t :=
  ⟨rfl, rfl⟩

theorem reach (h : t.Alike t') (r : Relation) : t'.reach r = t.reach r := by
  simp only [Table.reach, h.aliasName, h.isRoot]

theorem column (h : t.Alike t') (name : String) : t'.column name = t.column name := by
  simp only [Table.column, h.aliasName]

theorem keyEquality (h : t.Alike t') (r : Relation) : t'.keyEquality r = t.keyEquality r := by
  simp only [Table.keyEquality, h.reach, h.column]

end Table.Alike

/-- A join with the table that it starts from. -/
structure Link where
  parent : Table
  join : Join
deriving Repr

namespace Link

def table (l : Link) : Table :=
  l.parent.reach l.join.relation

def planned (l : Link) : PlannedJoin :=
  Plan.plannedJoin l.parent l.join

theorem on_eq (l : Link) {live : Option String}
    (h : (l.table.liveness? fun mark => l.join.conditions.any (·.affects mark)) = live) :
    l.planned.on =
      String.intercalate " AND " (l.parent.keyEquality l.join.relation :: live.toList) := by
  rw [table] at h
  rw [planned, Plan.plannedJoin]
  simp only [h]
  cases live with
  | none => simp
  | some live => simp [String.append_assoc]

end Link

namespace Condition

mutual

/-- The joins of a condition in the scope of a table, each before the ones below it. -/
def links (parent : Table) : Condition → List Link
  | .filter _ => []
  | .join r load cs => ⟨parent, ⟨r, load, cs⟩⟩ :: allLinks (parent.reach r) cs
  | .preload _ _ => []
  | .collection _ _ => []

def allLinks (parent : Table) : List Condition → List Link
  | [] => []
  | c :: rest => links parent c ++ allLinks parent rest

end

theorem allLinks_eq_flatMap (parent : Table) (cs : List Condition) :
    allLinks parent cs = cs.flatMap (links parent) := by
  induction cs with
  | nil => rfl
  | cons c rest ih => simp [allLinks, ih]

end Condition

/-- Fields of a table that are to be loaded. -/
structure Loading where
  table : Table
  fields : List Field
deriving Repr

def Loading.named (t : Table) (cs : List Condition) : List Loading :=
  cs.filterMap fun
    | .preload _ fields => some ⟨t, fields⟩
    | _ => none

namespace Link

def own (l : Link) : List Loading :=
  (if l.join.load then [⟨l.table, l.join.relation.target.fields⟩] else []) ++
    Loading.named l.table l.join.conditions

/-- The loading of the table that a join starts from, through whose rows those below are reached. -/
def ofParent (l : Link) : List Loading :=
  if l.join.loads && !l.parent.isRoot then [⟨l.parent, l.parent.entity.fields⟩] else []

def loadings (l : Link) : List Loading :=
  l.ofParent ++ l.own

end Link

/-- A step of planning. -/
inductive Step where
  | join (l : Link)
  | load (s : Loading)
  | collection (model path : String)
deriving Repr

namespace Step

def link? : Step → Option Link
  | .join l => some l
  | .load _ => none
  | .collection _ _ => none

def loading? : Step → Option Loading
  | .join _ => none
  | .load s => some s
  | .collection _ _ => none

def collection? : Step → Option (String × String)
  | .join _ => none
  | .load _ => none
  | .collection model path => some (model, path)

end Step

namespace Condition

def allLoadings (t : Table) (cs : List Condition) : List Loading :=
  (allLinks t cs).flatMap Link.loadings

theorem allLoadings_cons (t : Table) (c : Condition) (rest : List Condition) :
    allLoadings t (c :: rest) = (c.links t).flatMap Link.loadings ++ allLoadings t rest := by
  rw [allLoadings, allLinks, List.flatMap_append]
  rfl

mutual

/-- The steps that a condition inside a collection takes: one for each join. -/
def collectionSteps (path : String) : Condition → List Step
  | .filter _ => []
  | .join r _ cs =>
    .collection r.target.name (childPath path r.name) :: allCollectionSteps (childPath path r.name) cs
  | .preload _ _ => []
  | .collection _ _ => []

def allCollectionSteps (path : String) : List Condition → List Step
  | [] => []
  | c :: rest => collectionSteps path c ++ allCollectionSteps path rest

end

mutual

def steps (parent : Table) (path : String) : Condition → List Step
  | .filter _ => []
  | .join r load cs =>
    .join ⟨parent, ⟨r, load, cs⟩⟩ :: (Link.loadings ⟨parent, ⟨r, load, cs⟩⟩).map .load ++
      allSteps (parent.reach r) (childPath path r.name) cs
  | .preload _ _ => []
  | .collection r nested =>
    .collection r.target.name (childPath path r.name) :: allCollectionSteps (childPath path r.name) nested

def allSteps (parent : Table) (path : String) : List Condition → List Step
  | [] => []
  | c :: rest => steps parent path c ++ allSteps parent path rest

end

end Condition

namespace Plan

/-! Loading fields of a table, for the first time and again. -/

theorem load_of_unloaded {p : Plan} {t : Table} {fields : List Field}
    (h : loadedColumns? t.aliasName p.preloads = none) :
    p.load t fields = { p with
      preloads := p.preloads ++
        [.joined t.entity.name t.aliasName (fields.map Field.columnName)]
      selections := p.selections ++
        (fields.map Field.columnName).map (Selection.mk t.aliasName) } := by
  simp [load, h]

theorem load_of_loaded {p : Plan} {t : Table} {fields : List Field} {known : List String}
    (h : loadedColumns? t.aliasName p.preloads = some known) :
    p.load t fields =
      let fresh := (fields.map Field.columnName).filter fun c => !known.contains c
      { p with
        preloads := extendColumns t.aliasName fresh p.preloads
        selections := p.selections ++ fresh.map (Selection.mk t.aliasName) } := by
  simp [load, h]

/-! Planning, step by step. -/

def step (p : Plan) : Step → Plan
  | .join l => { p with joins := p.joins ++ [l.planned], tables := p.tables ++ [l.table] }
  | .load s => p.load s.table s.fields
  | .collection model path => { p with preloads := p.preloads ++ [.collection model path] }

def follow (p : Plan) (ss : List Step) : Plan :=
  ss.foldl step p

theorem follow_cons (p : Plan) (s : Step) (ss : List Step) :
    p.follow (s :: ss) = (p.step s).follow ss := rfl

theorem follow_append (p : Plan) (ss ss' : List Step) :
    p.follow (ss ++ ss') = (p.follow ss).follow ss' :=
  List.foldl_append

theorem follow_adds {α : Type} {R : Plan → Plan → List α → Prop} {f : Step → Option α}
    (hrefl : ∀ p, R p p [])
    (htrans : ∀ {p p' p'' : Plan} {as as'}, R p p' as → R p' p'' as' → R p p'' (as ++ as'))
    (hstep : ∀ p s, R p (step p s) (f s).toList) (p : Plan) (ss : List Step) :
    R p (p.follow ss) (ss.filterMap f) := by
  induction ss generalizing p with
  | nil => exact hrefl p
  | cons s rest ih =>
    have hboth := htrans (hstep p s) (ih (p.step s))
    rw [follow_cons]
    cases hs : f s <;> simpa [hs] using hboth

/-! Planning takes the steps of the conditions. -/

theorem loadNamed_eq_follow (p : Plan) (t : Table) (cs : List Condition) :
    loadNamed t p cs = p.follow ((Loading.named t cs).map .load) := by
  fun_induction loadNamed t p cs with
  | case1 p => rfl
  | case2 p m fields rest ih => exact ih
  | case3 p c rest h ih =>
    have hnone : Loading.named t (c :: rest) = Loading.named t rest := by
      cases c with
      | preload m fields => exact absurd rfl (h m fields)
      | _ => rfl
    rw [hnone]
    exact ih

theorem addJoin_eq_follow (p : Plan) (l : Link) :
    p.addJoin l.parent l.join = p.follow (.join l :: l.loadings.map .load) := by
  have hload (b : Bool) (p : Plan) (t : Table) (fields : List Field) :
      (if b then p.load t fields else p) =
        p.follow ((if b then [(⟨t, fields⟩ : Loading)] else []).map .load) := by
    cases b <;> rfl
  rw [addJoin, loadNamed_eq_follow, hload, hload, ← follow_append, ← follow_append, Link.loadings, Link.own,
    List.map_append, List.map_append]
  rfl

mutual

theorem addCollection_eq_follow (p : Plan) (path : String) :
    (c : Condition) → p.addCollection path c = p.follow (c.collectionSteps path)
  | .join r _ cs => by
    rw [addCollection]
    exact addCollections_eq_follow _ _ cs
  | .filter _ => rfl
  | .preload _ _ => rfl
  | .collection _ _ => rfl

theorem addCollections_eq_follow (p : Plan) (path : String) :
    (cs : List Condition) → p.addCollections path cs = p.follow (Condition.allCollectionSteps path cs)
  | [] => rfl
  | c :: rest => by
    rw [addCollections, addCollection_eq_follow p path c, addCollections_eq_follow _ path rest, ← follow_append]
    rfl

end

mutual

theorem addCondition_eq_follow (parent : Table) (path : String) (p : Plan) :
    (c : Condition) → addCondition parent path p c = p.follow (c.steps parent path)
  | .join r load cs => by
    have hjoined := addJoin_eq_follow p ⟨parent, ⟨r, load, cs⟩⟩
    rw [addCondition, hjoined, addConditions_eq_follow _ _ _ cs, ← follow_append]
    rfl
  | .collection r nested => by
    rw [addCondition]
    exact addCollections_eq_follow _ _ nested
  | .filter _ => rfl
  | .preload _ _ => rfl

theorem addConditions_eq_follow (parent : Table) (path : String) (p : Plan) :
    (cs : List Condition) → addConditions parent path p cs = p.follow (Condition.allSteps parent path cs)
  | [] => rfl
  | c :: rest => by
    rw [addConditions, addCondition_eq_follow parent path p c, addConditions_eq_follow _ _ _ rest,
      ← follow_append]
    rfl

end

theorem ofConditions_eq_follow (d : Dialect) (root : Entity) (cs : List Condition) :
    ofConditions d root cs = (start d root).follow (Condition.allSteps (.root root) "" cs) :=
  addConditions_eq_follow _ _ _ cs

/-- A plan has what its steps add. -/
theorem ofConditions_adds {α : Type} {R : Plan → Plan → List α → Prop} {f : Step → Option α}
    (hrefl : ∀ p, R p p [])
    (htrans : ∀ {p p' p'' : Plan} {as as'}, R p p' as → R p' p'' as' → R p p'' (as ++ as'))
    (hstep : ∀ p s, R p (step p s) (f s).toList) (d : Dialect) (root : Entity) (cs : List Condition) :
    R (start d root) (ofConditions d root cs) ((Condition.allSteps (.root root) "" cs).filterMap f) := by
  rw [ofConditions_eq_follow]
  exact follow_adds hrefl htrans hstep _ _

/-- What holds of the plan without conditions, and is kept by every step that is taken, holds of the plan. -/
theorem invariant_ofConditions {P : Plan → Prop} {d : Dialect} {root : Entity} {cs : List Condition}
    (hstart : P (start d root))
    (hstep : ∀ p, ∀ s ∈ Condition.allSteps (.root root) "" cs, P p → P (step p s)) :
    P (ofConditions d root cs) := by
  rw [ofConditions_eq_follow]
  exact List.foldlRecOn _ step hstart fun p hp s hs => hstep p s hs hp

end Plan

namespace Condition

/-! The joins and the loadings among the steps of conditions. -/

mutual

theorem filterMap_collectionSteps {α : Type} {f : Step → Option α}
    (hf : ∀ model path, f (.collection model path) = none) (path : String) :
    (c : Condition) → (c.collectionSteps path).filterMap f = []
  | .join r _ cs => by
    rw [collectionSteps, List.filterMap_cons, hf]
    exact filterMap_allCollectionSteps hf _ cs
  | .filter _ => rfl
  | .preload _ _ => rfl
  | .collection _ _ => rfl

theorem filterMap_allCollectionSteps {α : Type} {f : Step → Option α}
    (hf : ∀ model path, f (.collection model path) = none) (path : String) :
    (cs : List Condition) → (allCollectionSteps path cs).filterMap f = []
  | [] => rfl
  | c :: rest => by
    rw [allCollectionSteps, List.filterMap_append, filterMap_collectionSteps hf path c,
      filterMap_allCollectionSteps hf path rest, List.append_nil]

end

mutual

theorem filterMap_steps {α : Type} {f : Step → Option α}
    (hf : ∀ model path, f (.collection model path) = none) (parent : Table) (path : String) :
    (c : Condition) → (c.steps parent path).filterMap f =
      (c.links parent).flatMap fun l => (.join l :: l.loadings.map Step.load).filterMap f
  | .join r load cs => by
    rw [steps, List.filterMap_append, filterMap_allSteps hf _ _ cs]
    rfl
  | .collection r nested => by
    rw [steps, List.filterMap_cons, hf]
    exact filterMap_allCollectionSteps hf _ nested
  | .filter _ => rfl
  | .preload _ _ => rfl

theorem filterMap_allSteps {α : Type} {f : Step → Option α}
    (hf : ∀ model path, f (.collection model path) = none) (parent : Table) (path : String) :
    (cs : List Condition) → (allSteps parent path cs).filterMap f =
      (allLinks parent cs).flatMap fun l => (.join l :: l.loadings.map Step.load).filterMap f
  | [] => rfl
  | c :: rest => by
    rw [allSteps, allLinks, List.filterMap_append, List.flatMap_append, filterMap_steps hf parent path c,
      filterMap_allSteps hf parent path rest]

end

theorem links_allSteps (parent : Table) (path : String) (cs : List Condition) :
    (allSteps parent path cs).filterMap Step.link? = allLinks parent cs := by
  rw [filterMap_allSteps fun _ _ => rfl]
  simp [Step.link?, Function.comp_def]

theorem loadings_allSteps (parent : Table) (path : String) (cs : List Condition) :
    (allSteps parent path cs).filterMap Step.loading? = allLoadings parent cs := by
  rw [filterMap_allSteps fun _ _ => rfl]
  simp [allLoadings, List.filterMap_cons, Step.loading?, Function.comp_def]

end Condition

namespace Plan

/-- The second plan goes on from the first with the tables and joins of links. -/
structure Extends (p p' : Plan) (ls : List Link) : Prop where
  dialect : p'.dialect = p.dialect
  root : p'.root = p.root
  tables : p'.tables = p.tables ++ ls.map Link.table
  joins : p'.joins = p.joins ++ ls.map Link.planned

theorem Extends.refl (p : Plan) : p.Extends p [] := by
  constructor <;> simp

theorem Extends.trans {p p' p'' : Plan} {ls ls' : List Link} (h : p.Extends p' ls)
    (h' : p'.Extends p'' ls') : p.Extends p'' (ls ++ ls') where
  dialect := h'.dialect.trans h.dialect
  root := h'.root.trans h.root
  tables := by rw [h'.tables, h.tables, List.map_append, List.append_assoc]
  joins := by rw [h'.joins, h.joins, List.map_append, List.append_assoc]

theorem extends_step (p : Plan) (s : Step) : p.Extends (p.step s) s.link?.toList := by
  cases s <;> constructor <;> simp [step, load, Step.link?]

variable {d : Dialect} {root : Entity} {cs : List Condition}

/-- Planning adds the tables and the joins of the links of conditions, and no others. -/
theorem extends_ofConditions (d : Dialect) (root : Entity) (cs : List Condition) :
    (start d root).Extends (ofConditions d root cs) (Condition.allLinks (.root root) cs) := by
  rw [← Condition.links_allSteps (.root root) "" cs]
  exact ofConditions_adds Extends.refl Extends.trans extends_step d root cs

@[simp] theorem dialect_ofConditions : (ofConditions d root cs).dialect = d :=
  (extends_ofConditions d root cs).dialect

@[simp] theorem root_ofConditions : (ofConditions d root cs).root = .root root :=
  (extends_ofConditions d root cs).root

theorem tables_ofConditions : (ofConditions d root cs).tables =
    .root root :: (Condition.allLinks (.root root) cs).map Link.table :=
  (extends_ofConditions d root cs).tables

theorem joins_ofConditions : (ofConditions d root cs).joins =
    (Condition.allLinks (.root root) cs).map Link.planned :=
  (extends_ofConditions d root cs).joins

theorem aliasFor_eq_ok {p : Plan} {f : Field} {aliasName : String}
    (h : p.aliasFor f = .ok aliasName) :
    p.tablesOf f.model = [] ∧ aliasName = f.model.table ∨
      ∃ t ∈ p.tables, t.entity.toModel == f.model ∧ aliasName = t.aliasName := by
  have hmem : ∀ t ∈ p.tablesOf f.model, t ∈ p.tables ∧ t.entity.toModel == f.model := by
    intro t ht
    exact List.mem_filter.1 ht
  simp only [aliasFor] at h
  split at h
  · rename_i hnone
    exact .inl ⟨hnone, (Except.ok.inj h).symm⟩
  · rename_i t hone _
    obtain ⟨ht, hmodel⟩ := hmem t (by simp [hone])
    exact .inr ⟨t, ht, hmodel, (Except.ok.inj h).symm⟩
  · cases h
  · split at h
    · rename_i t hget
      obtain ⟨ht, hmodel⟩ := hmem t (List.mem_of_getElem? hget)
      exact .inr ⟨t, ht, hmodel, (Except.ok.inj h).symm⟩
    · cases h

end Plan
end Joinery
