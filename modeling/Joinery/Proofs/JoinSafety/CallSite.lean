import Joinery.Proofs.AcceptedUpdates
import Joinery.Proofs.JoinSafety.Conditions
import Joinery.Proofs.Samples

/-! Join safety of whole statements.
A statement is analysed without error, and every field that it refers to without a table for its model
is found. Hence the text of a statement without findings names tables of its plan only. -/
namespace Joinery

namespace Lint

/-- Whether references are those of a statement, but for fields of its own model. -/
structure Names (b : Builder) (refs : List Reference) : Prop where
  referred : ∀ r ∈ refs, r.field ∈ b.references
  named : ∀ f ∈ b.references, f.model = b.root.toModel ∨ ∃ r ∈ refs, r.field = f

variable {b b' : Builder} {refs refs' : List Reference} {t : CallTree}

theorem Names.of_eq (h : b.references = refs.map Reference.field) : Names b refs where
  referred _ hr := h ▸ List.mem_map_of_mem hr
  named _ hf := .inr (List.mem_map.1 (h ▸ hf))

theorem Names.grow (h : Names b refs) (hroot : b'.root = b.root)
    (hgrow : b'.references = b.references ++ refs'.map Reference.field) :
    Names b' (refs ++ refs') where
  referred r hr := by
    rw [hgrow, List.mem_append]
    obtain hr | hr := List.mem_append.1 hr
    · exact .inl (h.referred r hr)
    · exact .inr (List.mem_map_of_mem hr)
  named f hf := by
    rw [hgrow, List.mem_append] at hf
    obtain hf | hf := hf
    · obtain hmodel | ⟨r, hr, hrf⟩ := h.named f hf
      · exact .inl (hroot ▸ hmodel)
      · exact .inr ⟨r, List.mem_append_left _ hr, hrf⟩
    · obtain ⟨r, hr, hrf⟩ := List.mem_map.1 hf
      exact .inr ⟨r, List.mem_append_right _ hr, hrf⟩

theorem Names.growOwn (h : Names b refs) {f : Field} (hf : f.model = b.root.toModel)
    (hroot : b'.root = b.root) (hgrow : b'.references = b.references ++ [f]) : Names b' refs where
  referred r hr := hgrow ▸ List.mem_append_left _ (h.referred r hr)
  named g hg := by
    rw [hgrow, List.mem_append, List.mem_singleton] at hg
    obtain hg | rfl := hg
    · exact hroot ▸ h.named g hg
    · exact .inl (hroot ▸ hf)

theorem references_assigned (u : Update) (as : List Assignment) :
    (Builder.update { u with assignments := u.assignments ++ as }).references =
      (Builder.update u).references ++ as.flatMap Assignment.references := by
  simp [Builder.references]

theorem Chain.names {handle : Relation → String} {known : List String}
    (h : Chain handle known b refs t) : Names b refs := by
  induction h with
  | query hwritten => exact .of_eq (by simp [Builder.references, Query.ofConditions, hwritten.references])
  | update hwritten =>
    exact .of_eq (by simp [Builder.references, Update.ofConditions, hwritten.references])
  | delete hwritten => exact .of_eq hwritten.references
  | ordered _ _ ih => exact ih.grow rfl (by simp [Builder.references, Query.orderedBy])
  | limited _ ih => exact ⟨ih.referred, ih.named⟩
  | skipped _ ih => exact ⟨ih.referred, ih.named⟩
  | set _ hmodel hset ih =>
    obtain ⟨rfl, -⟩ := Update.push_eq_ok_iff.1 hset
    exact ih.growOwn hmodel rfl (references_assigned _ _)
  | setNull _ hmodel hset ih =>
    obtain ⟨rfl, -⟩ := Update.push_eq_ok_iff.1 hset
    exact ih.growOwn hmodel rfl (references_assigned _ _)
  | setField _ _ hset ih =>
    obtain ⟨rfl, -⟩ := Update.push_eq_ok_iff.1 hset
    exact ih.grow rfl (references_assigned _ _)
  | setMultiple _ hassigned hset ih =>
    obtain ⟨rfl, -⟩ := Update.setMultiple_eq_ok_iff.1 hset
    exact ih.grow rfl (by rw [references_assigned, hassigned.references])
  | passed _ _ _ ih => exact ih

variable {s : Schema} {a : Analyzer} {tables : List Table} {joined : List String} {v : Visit}
  {ts : List CallTree}

namespace Analyzer

theorem checkAssigned_cons (t : CallTree) (rest : List CallTree) :
    checkAssigned joined v (t :: rest) =
      checkAssigned joined v [t] >>= fun v => checkAssigned joined v rest := by
  simp only [checkAssigned]
  cases fieldModel t with
  | error e => rfl
  | ok owner =>
    split
    · rename_i others p
      cases h : checkFields joined (v.check joined owner.1 owner.2) (operandList others) <;>
        simp [bind, Except.bind, h]
    · rfl

theorem checkAssigned_append (ts ts' : List CallTree) :
    checkAssigned joined v (ts ++ ts') =
      checkAssigned joined v ts >>= fun v => checkAssigned joined v ts' := by
  induction ts generalizing v with
  | nil => rfl
  | cons t rest ih =>
    rw [List.cons_append, checkAssigned_cons, checkAssigned_cons t rest, bind_assoc]
    exact bind_congr fun v => ih

theorem checkMethods_append (methods methods' : List (List CallTree)) :
    checkMethods joined v (methods ++ methods') =
      checkMethods joined v methods >>= fun v => checkMethods joined v methods' := by
  induction methods generalizing v with
  | nil => rfl
  | cons args rest ih =>
    rw [List.cons_append, checkMethods, checkMethods, bind_assoc]
    exact bind_congr fun v => ih

theorem checkAssigned_handle {r : Reference} (h : Handle r.field r.position t)
    (hr : isModelName r.field.model.name = true) :
    checkAssigned joined v [t] = .ok (v.check joined r.field.model.name r.position) := by
  have hmodel := fieldModel_handle h hr
  cases h with
  | call => simp [checkAssigned, hmodel]; rfl
  | @function name t args p hname _ =>
    have hmark : name ≠ "assign_dynamic" := by
      rintro rfl
      exact not_fieldFunction _ (by decide) hname
    simp [checkAssigned, hmodel, hmark]; rfl

end Analyzer

/-- Whether operands are checked without error, whatever is joined, and cover references. -/
def Checked (s : Schema) (tables : List Table) (refs : List Reference) (ts : List CallTree) : Prop :=
  ∀ joined v, Joins s tables joined →
    ∃ v', Analyzer.checkAssigned joined v ts = .ok v' ∧ Covers tables v v' refs

theorem Checked.nil : Checked s tables [] [] :=
  fun _ v _ => ⟨v, rfl, .refl⟩

theorem Checked.append (h : Checked s tables refs ts) {ts' : List CallTree}
    (h' : Checked s tables refs' ts') : Checked s tables (refs ++ refs') (ts ++ ts') := by
  intro joined v hj
  obtain ⟨v', hv', hcovers⟩ := h joined v hj
  obtain ⟨v'', hv'', hcovers'⟩ := h' joined v' hj
  refine ⟨v'', ?_, hcovers.append hcovers'⟩
  rw [Analyzer.checkAssigned_append, hv']
  exact hv''

theorem Checked.handle (hs : s.Recognised a) {r : Reference} (h : Handle r.field r.position t)
    (hr : s.model r.field.model) : Checked s tables [r] [t] :=
  fun _ _ hj => ⟨_, Analyzer.checkAssigned_handle h (hs.isModelName _ hr), covers_check hj hr⟩

theorem Checked.method (hs : s.Recognised a) {r : Reference} (h : Handle r.field r.position t)
    (hr : s.model r.field.model) {name : String} (hname : name ≠ "assign_dynamic")
    {args : List CallTree} {p : Position} : Checked s tables [r] [.method name (t :: args) p] := by
  intro joined v hj
  refine ⟨_, ?_, covers_check hj hr⟩
  have hmodel := fieldModel_handle h (hs.isModelName _ hr)
  simp [Analyzer.checkAssigned, fieldModel, hmodel, hname]
  rfl

theorem Checked.assignField (hs : s.Recognised a) {r other : Reference}
    (h : Handle r.field r.position t) (hr : s.model r.field.model) {args : List CallTree}
    (hargs : Operands CallTree.isOther [other] args) (hother : s.model other.field.model)
    {p : Position} : Checked s tables [r, other] [.method "assign_dynamic" (t :: args) p] := by
  intro joined v hj
  have hmodel := fieldModel_handle h (hs.isModelName _ hr)
  obtain ⟨v', hv', hcovers⟩ := checkFields_covers hs hj hargs.forall₂ (by simpa using hother)
    (v := v.check joined r.field.model.name r.position)
  refine ⟨v', ?_, (covers_check hj hr).append hcovers⟩
  simp only [Analyzer.checkAssigned, fieldModel, hmodel]
  change (Analyzer.checkFields joined _ _ >>= fun v => Except.ok v) = _
  rw [hv']
  rfl

theorem Operands.checked (hs : s.Recognised a) (h : Operands CallTree.isOther refs ts)
    (hrefs : ∀ r ∈ refs, s.model r.field.model) : Checked s tables refs (operandList ts) := by
  induction h with
  | nil => exact .nil
  | append _ _ ih ih' =>
    rw [operandList_append]
    exact (ih fun r hr => hrefs r (List.mem_append_left _ hr)).append
      (ih' fun r hr => hrefs r (List.mem_append_right _ hr))
  | list _ ih => simpa [operandList, operands] using ih hrefs
  | converted hname _ ih =>
    simpa [operandList, operands, conversions_subset hname] using ih hrefs
  | field ht =>
    rw [operandList_singleton, operands_handle ht]
    exact .handle hs ht (hrefs _ (by simp))
  | @plain t ht =>
    cases t with
    | other p => exact .nil
    | call path generics children p => exact ht.elim
    | method name children p => exact ht.elim
    | list children p => exact ht.elim

theorem Assigned.checked (hs : s.Recognised a) {as : List Assignment} (h : Assigned as refs ts)
    (hrefs : ∀ r ∈ refs, s.model r.field.model) : Checked s tables refs (operandList ts) := by
  induction h with
  | nil => exact .nil
  | append _ _ ih ih' =>
    rw [operandList_append]
    exact (ih fun r hr => hrefs r (List.mem_append_left _ hr)).append
      (ih' fun r hr => hrefs r (List.mem_append_right _ hr))
  | list _ ih => simpa [operandList, operands] using ih hrefs
  | value ht =>
    simpa [operandList, operands, wrappers] using
      Checked.method hs ht (hrefs _ (by simp)) (by decide)
  | null ht =>
    simpa [operandList, operands, wrappers] using
      Checked.method hs ht (hrefs _ (by simp)) (by decide)
  | field ht hargs =>
    simpa [operandList, operands, wrappers] using
      Checked.assignField hs ht (hrefs _ (by simp)) hargs (hrefs _ (by simp))

def CheckedMethods (s : Schema) (tables : List Table) (refs : List Reference)
    (methods : List (List CallTree)) : Prop :=
  ∀ joined v, Joins s tables joined →
    ∃ v', Analyzer.checkMethods joined v methods = .ok v' ∧ Covers tables v v' refs

theorem CheckedMethods.nil : CheckedMethods s tables [] [] :=
  fun _ v _ => ⟨v, rfl, .refl⟩

theorem CheckedMethods.concat {methods : List (List CallTree)} {args : List CallTree}
    (h : CheckedMethods s tables refs methods) (h' : Checked s tables refs' (operandList args)) :
    CheckedMethods s tables (refs ++ refs') (methods ++ [args]) := by
  intro joined v hj
  obtain ⟨v', hv', hcovers⟩ := h joined v hj
  obtain ⟨v'', hv'', hcovers'⟩ := h' joined v' hj
  refine ⟨v'', ?_, hcovers.append hcovers'⟩
  rw [Analyzer.checkMethods_append, hv']
  change (Analyzer.checkAssigned joined v' _ >>= fun v => Except.ok v) = _
  rw [hv'']
  rfl

/-- A statement taken apart, into its conditions and the arguments of the methods to check. -/
structure Apart (s : Schema) (a : Analyzer) (tables : List Table) (b : Builder)
    (refs : List Reference) (t : CallTree) (ts : List CallTree) (methods : List (List CallTree))
    (first last : List Reference) : Prop where
  refs : refs = first ++ last
  written : Written s.handle a.known b.conditions first ts
  checked : CheckedMethods s tables last methods
  chain : ∀ outer, a.chain outer t = .ok ⟨[b.root.name], ts, methods ++ outer⟩

namespace Apart

variable {methods : List (List CallTree)} {first last : List Reference} {name : String}
  {args : List CallTree} {p : Position}

theorem start (hs : s.Recognised a) (h : Written s.handle a.known b.conditions refs ts)
    (hname : name ∈ Config.default.queryFunctions) {qualifier : List String} :
    Apart s a tables b refs (.call (qualifier ++ [name]) [b.root.name] ts p) ts [] refs [] := by
  refine ⟨by simp, h, .nil, fun outer => ?_⟩
  have hquery : Config.default.isQueryFunction name = true := List.contains_iff_mem.2 hname
  simp [Analyzer.chain, hs.isQueryFunction, hquery]

theorem passed (hs : s.Recognised a) (h : Apart s a tables b refs t ts methods first last)
    (hroot : b'.root = b.root) (hconditions : b'.conditions = b.conditions)
    (horder : name ∉ Config.default.orderMethods) (hset : name ∉ Config.default.setMethods) :
    Apart s a tables b' refs (.method name (t :: args) p) ts methods first last := by
  refine ⟨h.refs, hconditions ▸ h.written, h.checked, fun outer => ?_⟩
  have hchain := hroot ▸ h.chain outer
  have hordered : Config.default.isOrderMethod name = false := by
    simpa [Config.isOrderMethod] using horder
  have hassigned : Config.default.isSetMethod name = false := by
    simpa [Config.isSetMethod] using hset
  simpa [Analyzer.chain, hs.isOrderMethod, hordered, hs.isSetMethod, hassigned] using hchain

theorem check (hs : s.Recognised a) (h : Apart s a tables b refs t ts methods first last)
    (hroot : b'.root = b.root) (hconditions : b'.conditions = b.conditions)
    (hname : name ∈ Config.default.orderMethods ++ Config.default.setMethods)
    (hargs : Checked s tables refs' (operandList args)) :
    Apart s a tables b' (refs ++ refs') (.method name (t :: args) p) ts (methods ++ [args]) first
      (last ++ refs') := by
  refine ⟨by rw [h.refs, List.append_assoc], hconditions ▸ h.written, h.checked.concat hargs,
    fun outer => ?_⟩
  have hchain := hroot ▸ h.chain (args :: outer)
  have hchecked : Config.default.isOrderMethod name = true ∨ Config.default.isSetMethod name = true := by
    simpa [Config.isOrderMethod, Config.isSetMethod] using hname
  simpa [Analyzer.chain, hs.isOrderMethod, hs.isSetMethod, hchecked] using hchain

end Apart

/-- Whether a statement can be taken apart. -/
def Separable (s : Schema) (a : Analyzer) (tables : List Table) (b : Builder) (refs : List Reference)
    (t : CallTree) : Prop :=
  ∃ ts methods first last, Apart s a tables b refs t ts methods first last

namespace Separable

variable {name : String} {args : List CallTree} {p : Position}

theorem passed (hs : s.Recognised a) (h : Separable s a tables b refs t) (hroot : b'.root = b.root)
    (hconditions : b'.conditions = b.conditions) (horder : name ∉ Config.default.orderMethods)
    (hset : name ∉ Config.default.setMethods) :
    Separable s a tables b' refs (.method name (t :: args) p) := by
  obtain ⟨ts, methods, first, last, happart⟩ := h
  exact ⟨ts, methods, first, last, happart.passed hs hroot hconditions horder hset⟩

theorem check (hs : s.Recognised a) (h : Separable s a tables b refs t) (hroot : b'.root = b.root)
    (hconditions : b'.conditions = b.conditions)
    (hname : name ∈ Config.default.orderMethods ++ Config.default.setMethods)
    (hargs : Checked s tables refs' (operandList args)) :
    Separable s a tables b' (refs ++ refs') (.method name (t :: args) p) := by
  obtain ⟨ts, methods, first, last, happart⟩ := h
  exact ⟨ts, _, first, _, happart.check hs hroot hconditions hname hargs⟩

end Separable

/-- Every statement is taken apart, with the methods in the order of the source. -/
theorem Chain.separable (hs : s.Recognised a) (h : Chain s.handle a.known b refs t)
    (hrefs : ∀ r ∈ refs, s.model r.field.model) (tables : List Table) :
    Separable s a tables b refs t := by
  induction h with
  | @query root cs _ _ _ _ hwritten =>
    exact ⟨_, _, _, _, .start (b := .query (.ofConditions root cs)) hs hwritten (by decide)⟩
  | @update root cs _ _ _ _ hwritten =>
    exact ⟨_, _, _, _, .start (b := .update (.ofConditions root cs)) hs hwritten (by decide)⟩
  | @delete root cs _ _ _ _ hwritten =>
    exact ⟨_, _, _, _, .start (b := .delete ⟨root, cs⟩) hs hwritten (by decide)⟩
  | @ordered q o _ _ _ _ _ _ hargs ih =>
    have hbefore := ih fun r hr => hrefs r (by simp [hr])
    exact hbefore.check hs rfl rfl (by cases o <;> decide)
      (hargs.checked hs fun r hr => hrefs r (List.mem_append_right _ hr))
  | limited _ ih => exact (ih hrefs).passed hs rfl rfl (by decide) (by decide)
  | skipped _ ih => exact (ih hrefs).passed hs rfl rfl (by decide) (by decide)
  | set _ _ hset ih =>
    obtain ⟨rfl, -⟩ := Update.push_eq_ok_iff.1 hset
    exact (ih hrefs).passed hs rfl rfl (by decide) (by decide)
  | setNull _ _ hset ih =>
    obtain ⟨rfl, -⟩ := Update.push_eq_ok_iff.1 hset
    exact (ih hrefs).passed hs rfl rfl (by decide) (by decide)
  | setField _ hargs hset ih =>
    obtain ⟨rfl, -⟩ := Update.push_eq_ok_iff.1 hset
    have hbefore := ih fun r hr => hrefs r (by simp [hr])
    exact hbefore.check hs rfl rfl (by decide)
      (hargs.checked hs fun r hr => hrefs r (List.mem_append_right _ hr))
  | setMultiple _ hassigned hset ih =>
    obtain ⟨rfl, -⟩ := Update.setMultiple_eq_ok_iff.1 hset
    have hbefore := ih fun r hr => hrefs r (by simp [hr])
    exact hbefore.check hs rfl rfl (by decide)
      (hassigned.checked hs fun r hr => hrefs r (List.mem_append_right _ hr))
  | passed horder hset _ ih => exact (ih hrefs).passed hs rfl rfl horder hset

/-- The models of a statement, its relations and its fields are those of a schema, and its conditions
are on the models that they are written for. -/
structure Schema.Has (s : Schema) (b : Builder) : Prop where
  root : s.model b.root.toModel
  typed : Condition.AllTyped b.root.toModel b.conditions
  meets : Condition.AllMeet s.requirement (.root b.root) b.conditions
  references : ∀ f ∈ b.references, s.model f.model

theorem Schema.Has.inScope (h : s.Has b) (d : Dialect) :
    InScope s (b.plan d).tables (.root b.root) b.conditions where
  table := by simp [Builder.plan, Plan.tables_ofConditions]
  model := h.root
  links l hl := by
    rw [Builder.plan, Plan.tables_ofConditions]
    exact List.mem_cons_of_mem _ (List.mem_map_of_mem hl)
  typed := Condition.allTyped_iff.1 h.typed
  meets := Condition.allMeet_iff.1 h.meets

/-- The analysis of a statement succeeds and covers its references. -/
theorem covers_walk (hs : s.Recognised a) (hb : s.Has b) (h : Chain s.handle a.known b refs t)
    (d : Dialect) : ∃ v, a.walk t = .ok v ∧ Covers (b.plan d).tables .empty v refs := by
  have hrefs : ∀ r ∈ refs, s.model r.field.model := fun r hr => hb.references _ (h.names.referred r hr)
  obtain ⟨ts, methods, first, last, happart⟩ := h.separable hs hrefs (b.plan d).tables
  have hscope := hb.inScope d
  have hroot : Joins s (b.plan d).tables [b.root.name] := by
    intro m hm hname
    exact ⟨_, hscope.table, hs.identified _ m hb.root hm (List.mem_singleton.1 hname).symm⟩
  obtain ⟨joined, v, hwalk, hj, hcovers⟩ := happart.written.covers hs (v := .empty) hscope hroot
  obtain ⟨v', hv', hcovers'⟩ := happart.checked joined v hj
  refine ⟨v'.see joined, ?_, ?_⟩
  · simp only [Analyzer.walk, happart.chain [], List.append_nil]
    change (a.conditions [b.root.name] .empty ts >>= _) = _
    rw [hwalk]
    change (Analyzer.checkMethods joined v methods >>= _) = _
    rw [hv']
    rfl
  · have hboth := happart.refs ▸ hcovers.append hcovers'
    exact ⟨hboth.keeps, hboth.finds⟩

/-- Every reference of a statement to a model without a table is found. Without findings, the text does
not hang on what other models would be called: tables for them, of any name, change nothing. -/
theorem unjoined_reported (hs : s.Recognised a) (hb : s.Has b) (h : Chain s.handle a.known b refs t)
    (d : Dialect) :
    ∃ findings, a.callSite t = .ok findings ∧
      (∀ r ∈ refs, (b.plan d).tablesOf r.field.model = [] → r.finding ∈ findings) ∧
      (∀ f ∈ b.references, (b.plan d).tablesOf f.model = [] →
        ∃ r ∈ refs, r.field = f ∧ r.finding ∈ findings) ∧
      (findings = [] →
        (∀ f ∈ b.references, (b.plan d).tablesOf f.model ≠ []) ∧
        ∀ extra, (∀ t ∈ extra, (b.plan d).tablesOf t.entity.toModel = []) →
          b.toSqlOn { b.plan d with tables := (b.plan d).tables ++ extra } = b.toSql d) := by
  obtain ⟨v, hwalk, hcovers⟩ := covers_walk hs hb h d
  have hfound : ∀ r ∈ refs, (b.plan d).tablesOf r.field.model = [] → r.finding ∈ v.findings := by
    intro r hr hnone
    exact hcovers.finds r hr fun htable => hasTable_iff.1 htable hnone
  have hnamed : ∀ f ∈ b.references, (b.plan d).tablesOf f.model = [] →
      ∃ r ∈ refs, r.field = f ∧ r.finding ∈ v.findings := by
    intro f hf hnone
    obtain hmodel | ⟨r, hr, rfl⟩ := h.names.named f hf
    · have hroot : HasTable (b.plan d).tables f.model :=
        ⟨_, (hb.inScope d).table, hs.identified _ _ hb.root (hb.references f hf) (by rw [hmodel]; rfl)⟩
      exact absurd hnone (hasTable_iff.1 hroot)
    · exact ⟨r, hr, rfl, hfound r hr hnone⟩
  refine ⟨v.findings, by rw [Analyzer.callSite, hwalk]; rfl, hfound, hnamed, fun hempty => ?_⟩
  have hjoined : ∀ f ∈ b.references, (b.plan d).tablesOf f.model ≠ [] := by
    intro f hf hnone
    obtain ⟨r, _, _, hfinding⟩ := hnamed f hf hnone
    rw [hempty] at hfinding
    cases hfinding
  refine ⟨hjoined, fun extra hextra => ?_⟩
  rw [← Builder.toSqlOn_plan]
  exact (Plan.agrees_unjoined hjoined hextra).toSqlOn

end Lint

namespace Sample

open Lint

def cityModel : Model :=
  ⟨"City", "cities", "id", none⟩

def cityName : Field :=
  .ofName cityModel "Name"

def schema : Schema where
  model m := m = sellerModel ∨ m = companyModel ∨ m = cityModel
  relation r := r = employer
  handle _ := "company"

def linter : Analyzer :=
  .ofConfig .default

/-- Sellers with their companies, named like a city that is not joined, in the order of the companies'
names. -/
def sellersLikeCities : Builder :=
  .query ((Query.ofConditions seller [.join employer true [],
    .filter (sellerName.compareFields .eq [cityName])]).orderedBy companyName .descending)

def sellersLikeCitiesReferences : List Reference :=
  [⟨cityName, ⟨4, 43⟩⟩, ⟨companyName, ⟨6, 17⟩⟩]

def companyTree : CallTree :=
  .method "into" [.method "preload"
    [.call ["Seller", "company"] [] [.list [] ⟨3, 25⟩] ⟨3, 9⟩] ⟨3, 33⟩] ⟨3, 43⟩

def likeCityTree : CallTree :=
  .method "into" [.method "eq" [
    .method "is_dynamic" [.call ["Seller", "name"] [] [] ⟨4, 9⟩] ⟨4, 24⟩,
    .call ["City", "name"] [] [] ⟨4, 43⟩] ⟨4, 39⟩] ⟨4, 57⟩

def sellersLikeCitiesTree : CallTree :=
  .method "descending" [
    .call ["query"] ["Seller"] [.list [companyTree, likeCityTree] ⟨2, 23⟩] ⟨2, 5⟩,
    .call ["Company", "name"] [] [] ⟨6, 17⟩] ⟨6, 6⟩

theorem recognised : schema.Recognised linter where
  usual := rfl
  isModelName := by
    rintro m (rfl | rfl | rfl) <;> decide
  identified := by
    rintro m n (rfl | rfl | rfl) (rfl | rfl | rfl) <;> decide
  leads := by
    have htargets : linter.relationTargets "company" = ["Company"] := by decide +kernel
    rintro r rfl m _ hname
    exact List.mem_singleton.1 (htargets ▸ hname)
  notConnector := by
    rintro r rfl
    decide

theorem schema_has : schema.Has sellersLikeCities where
  root := .inl rfl
  typed := ⟨⟨rfl, trivial⟩, ⟨rfl, rfl⟩, trivial⟩
  meets := by
    have hcity : ∀ g, Operand.field g ∈ [cityName].map Operand.field → schema.model g.model := by
      intro g hg
      obtain rfl : g = cityName := by simpa using hg
      exact .inr (.inr rfl)
    exact ⟨⟨⟨rfl, .inr (.inl rfl)⟩, trivial⟩, ⟨.inl rfl, hcity⟩, trivial⟩
  references := by
    intro f hf
    obtain rfl | rfl : f = cityName ∨ f = companyName := by
      simpa [sellersLikeCities, Builder.references, Query.orderedBy, Query.ofConditions,
        Condition.allReferences, Condition.references, Field.compareFields, Predicate.references,
        Operand.field?] using hf
    · exact .inr (.inr rfl)
    · exact .inr (.inl rfl)

theorem handle_plain {f : Field} {accessor : String} {p : Position} :
    Handle f p (.call [f.model.name, accessor] [] [] p) :=
  @Handle.call f p [] [] accessor

theorem written_companyTree :
    Written schema.handle linter.known [.join employer true []] [] [companyTree] := by
  have hjoin : Written schema.handle linter.known [.join employer false []] []
      [.call ["Seller", "company"] [] [.list [] ⟨3, 25⟩] ⟨3, 9⟩] :=
    @Written.join _ _ employer [] [] _ [] [] _ (.list .nil)
  have hinto : "into" ∈ conversions := by decide
  exact .converted hinto hjoin.preloaded

theorem written_likeCityTree : Written schema.handle linter.known
    [.filter (sellerName.compareFields .eq [cityName])] [⟨cityName, ⟨4, 43⟩⟩] [likeCityTree] := by
  have hseller : Handle sellerName ⟨4, 9⟩ (.call ["Seller", "name"] [] [] ⟨4, 9⟩) := handle_plain
  have hcity : Handle cityName ⟨4, 43⟩ (.call ["City", "name"] [] [] ⟨4, 43⟩) := handle_plain
  have heq : "eq" ∈ Config.default.comparisonMethods := by decide
  have hinto : "into" ∈ conversions := by decide
  exact .converted hinto (.dynamic heq hseller (.field (r := ⟨cityName, ⟨4, 43⟩⟩) hcity))

theorem chain_sellersLikeCities : Chain schema.handle linter.known sellersLikeCities
    sellersLikeCitiesReferences sellersLikeCitiesTree := by
  have hcompany : Handle companyName ⟨6, 17⟩ (.call ["Company", "name"] [] [] ⟨6, 17⟩) := handle_plain
  have hquery := @Chain.query schema.handle linter.known seller _ _ _ [] ⟨2, 5⟩
    (.list (p := ⟨2, 23⟩) (written_companyTree.append written_likeCityTree))
  exact hquery.ordered (.field (r := ⟨companyName, ⟨6, 17⟩⟩) hcompany)

end Sample

namespace Lint

theorem unjoined_reported_sellersLikeCities :
    Sample.schema.Recognised Sample.linter ∧ Sample.schema.Has Sample.sellersLikeCities ∧
      Chain Sample.schema.handle Sample.linter.known Sample.sellersLikeCities
        Sample.sellersLikeCitiesReferences Sample.sellersLikeCitiesTree ∧
      ∃ findings, Sample.linter.callSite Sample.sellersLikeCitiesTree = .ok findings ∧
        ⟨"City", ⟨4, 43⟩⟩ ∈ findings := by
  refine ⟨Sample.recognised, Sample.schema_has, Sample.chain_sellersLikeCities, ?_⟩
  obtain ⟨findings, hsite, hfound, _⟩ := unjoined_reported Sample.recognised Sample.schema_has
    Sample.chain_sellersLikeCities .postgres
  exact ⟨findings, hsite, hfound ⟨Sample.cityName, ⟨4, 43⟩⟩ List.mem_cons_self (by decide +kernel)⟩

end Lint
end Joinery
