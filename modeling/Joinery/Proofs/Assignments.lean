import Joinery.Proofs.Fragment
import Joinery.Proofs.JoinSafety.References
import Joinery.Proofs.Rows.Choice
import Joinery.Proofs.Samples

/-! The tables that an update writes.
A column that is assigned under its name alone is one of the updated table. MySQL can write several tables,
and its statements name the table of each assigned column once there are joins; on the other engines every
assignment goes to the updated table, whatever appearance of the model its field asks for. -/
namespace Joinery

/-- An assigned column, with the table that it is named with. Alone, it is one of the updated table. -/
structure Target where
  table? : Option Table
  column : String
deriving Repr

namespace Target

def text : Target → String
  | ⟨some t, column⟩ => t.column column
  | ⟨none, column⟩ => column

def OfRoot (x : Target) : Prop :=
  ∀ t, x.table? = some t → t.isRoot = true

theorem ofRoot_alone (column : String) : OfRoot ⟨none, column⟩ :=
  nofun

theorem ofRoot_named {t : Table} {column : String} : OfRoot ⟨some t, column⟩ ↔ t.isRoot = true :=
  ⟨fun h => h t rfl, fun h _ ht => Option.some.inj ht ▸ h⟩

end Target

namespace Plan

variable {d : Dialect} {root : Entity} {cs : List Condition} {p : Plan}

theorem tablesOf_root : (ofConditions d root cs).tablesOf root.toModel = .root root ::
    ((Condition.allLinks (.root root) cs).map Link.table).filter (·.entity.toModel == root.toModel) := by
  have hroot : (root.toModel == root.toModel) = true := by simp [BEq.beq]
  rw [tablesOf, tables_ofConditions, List.filter_cons]
  simp only [Table.root, hroot, if_true]

theorem isRoot_tablesOf {i : Nat} {t : Table}
    (h : ((ofConditions d root cs).tablesOf root.toModel)[i]? = some t) : t.isRoot = true ↔ i = 0 := by
  rw [tablesOf_root] at h
  cases i with
  | zero =>
    have ht : Table.root root = t := by simpa using h
    simp [← ht, Table.root]
  | succ i =>
    rw [List.getElem?_cons_succ] at h
    obtain ⟨hmem, -⟩ := List.mem_filter.1 (List.mem_of_getElem? h)
    obtain ⟨l, -, rfl⟩ := List.mem_map.1 hmem
    simp [Link.table]

/-- A field of a model with tables in the plan goes by the one at its appearance. -/
theorem aliasFor_eq_ok_of_tables {f : Field} {aliasName : String} (h : p.aliasFor f = .ok aliasName)
    (hne : p.tablesOf f.model ≠ []) :
    ∃ t, (p.tablesOf f.model)[f.appearance.getD 0]? = some t ∧ aliasName = t.aliasName := by
  unfold aliasFor at h
  generalize p.tablesOf f.model = candidates at h hne ⊢
  cases happearance : f.appearance with
  | none =>
    match candidates with
    | [t] => exact ⟨t, rfl, by simpa [happearance] using h.symm⟩
    | _ :: _ :: _ => simp [happearance] at h
  | some i =>
    cases hget : candidates[i]? with
    | none =>
      cases candidates with
      | nil => exact absurd rfl hne
      | cons t rest => simp [happearance, hget] at h
    | some t =>
      cases candidates with
      | nil => exact absurd rfl hne
      | cons u rest => exact ⟨t, hget, by simpa [happearance, hget] using h.symm⟩

end Plan

namespace Choice

def updateHead (t : Table) : Choice → String
  | .joined links _ =>
    "UPDATE " ++ t.entity.table ++ (joinClauses (links.map Link.planned)).toText ++ " SET "
  | _ => "UPDATE " ++ t.entity.table ++ " SET "

def updateTail (t : Table) : Choice → String
  | .alone filter => (whereClause [] filter).toText
  | .joined _ filter => (whereClause [] filter).toText
  | .listed links filter =>
    " FROM " ++ joinSources (links.map Link.planned)
      ++ (whereClause (links.map Link.planned) filter).toText
  | .keyed links filter => (keyText "" t links filter).toText

theorem toText_updateText (c : Choice) (t : Table) (assignments : List Sql) :
    (c.updateText t assignments).toText =
      c.updateHead t ++ String.intercalate ", " (assignments.map Sql.toText) ++ c.updateTail t := by
  cases c with
  | alone filter => simp [updateText, updateHead, updateTail, Sql.toText_joined]
  | joined links filter => simp [updateText, updateHead, updateTail, Sql.toText_joined]
  | listed links filter =>
    simp [updateText, updateHead, updateTail, Sql.toText_joined, String.append_assoc]
  | keyed links filter => simp [updateText, updateHead, updateTail, Sql.toText_joined]

end Choice

namespace Update

variable {u : Update} {d : Dialect} {p : Plan}

theorem target_eq_ok {cs : List Condition} {root : Entity} {f : Field} {name : String}
    (hf : f.belongsTo root.toModel = true)
    (h : target (Plan.ofConditions d root cs) true f = .ok name) :
    ∃ t, ((Plan.ofConditions d root cs).tablesOf root.toModel)[f.appearance.getD 0]? = some t ∧
      name = t.column f.columnName := by
  have htables := (Plan.ofConditions d root cs).tablesOf_congr hf
  have hroot : (Plan.ofConditions d root cs).root = .root root := Plan.root_ofConditions
  have hfroot : f.belongsTo (Table.root root).entity.toModel = true := hf
  rw [target, hroot] at h
  cases happearance : f.appearance with
  | none =>
    refine ⟨.root root, by rw [Plan.tablesOf_root]; rfl, ?_⟩
    simpa [hfroot, happearance] using h.symm
  | some i =>
    have hne : (Plan.ofConditions d root cs).tablesOf f.model ≠ [] := by
      rw [htables, Plan.tablesOf_root]
      exact List.cons_ne_nil _ _
    simp only [happearance, Bool.not_true, Bool.false_eq_true, if_false, Option.isNone_some,
      Bool.and_false, bind_eq_ok, pure_eq_ok] at h
    obtain ⟨aliasName, halias, rfl⟩ := h
    obtain ⟨t, ht, rfl⟩ := Plan.aliasFor_eq_ok_of_tables halias hne
    rw [htables, happearance] at ht
    exact ⟨t, ht, rfl⟩

theorem assignmentSql_eq_ok {qualified : Bool} {a : Assignment} {q : Sql}
    (h : assignmentSql p qualified a = .ok q) :
    ∃ name value, target p qualified a.field = .ok name ∧ q.toText = name ++ " = " ++ value := by
  rw [assignmentSql, bind_eq_ok] at h
  obtain ⟨name, hname, h⟩ := h
  have hwritten : ∃ value, q = .text (name ++ " = ") ++ value := by
    cases hvalue : a.value with
    | value v =>
      simp only [hvalue, bind_eq_ok, pure_eq_ok] at h
      obtain ⟨value, -, rfl⟩ := h
      exact ⟨value, rfl⟩
    | field other =>
      simp only [hvalue, bind_eq_ok, pure_eq_ok] at h
      obtain ⟨value, -, rfl⟩ := h
      exact ⟨value, rfl⟩
    | null =>
      simp only [hvalue, bind_eq_ok, pure_eq_ok] at h
      obtain ⟨value, -, rfl⟩ := h
      exact ⟨value, rfl⟩
  obtain ⟨value, rfl⟩ := hwritten
  exact ⟨name, value.toText, hname, by rw [Sql.toText_append, Sql.toText_text]⟩

theorem exists_values {qualified : Bool} {x : Assignment → Target} {assignments : List Assignment}
    {written : List Sql}
    (h : List.Forall₂ (fun a q => assignmentSql p qualified a = .ok q) assignments written)
    (hx : ∀ a ∈ assignments, ∀ name, target p qualified a.field = .ok name → (x a).text = name) :
    ∃ values, values.length = (assignments.map x).length ∧ written.map Sql.toText =
      List.zipWith (fun x value => x.text ++ " = " ++ value) (assignments.map x) values := by
  induction h with
  | nil => exact ⟨[], rfl, rfl⟩
  | @cons a q assignments written hq _ ih =>
    obtain ⟨values, hlength, htexts⟩ := ih fun b hb => hx b (by simp [hb])
    obtain ⟨name, value, hname, htext⟩ := assignmentSql_eq_ok hq
    have hcolumn := hx a (by simp) name hname
    refine ⟨value :: values, by simpa using hlength, ?_⟩
    simp [htext, htexts, hcolumn]

def links (u : Update) : List Link :=
  Condition.allLinks (.root u.root) u.conditions

/-- Whether the columns are named with their tables. -/
def qualifies (u : Update) (d : Dialect) : Bool :=
  d == .mysql && (u.assignsOthers || !u.links.isEmpty)

/-- Whether the text of an update assigns these columns, in this order. -/
def Assigns (u : Update) (d : Dialect) (s : Statement) (targets : List Target) : Prop :=
  ∃ filter values, (Plan.ofConditions d u.root u.conditions).filter u.conditions = .ok filter ∧
    values.length = targets.length ∧
    s.sql = (Choice.ofUpdate d u.links filter).updateHead (.root u.root) ++
      String.intercalate ", " (List.zipWith (fun x value => x.text ++ " = " ++ value) targets values) ++
      (Choice.ofUpdate d u.links filter).updateTail (.root u.root)

theorem exists_written {s : Statement} (h : u.compile d = .ok s) :
    ∃ filter written, (Plan.ofConditions d u.root u.conditions).filter u.conditions = .ok filter ∧
      List.Forall₂ (fun a q =>
        assignmentSql (.ofConditions d u.root u.conditions) (u.qualifies d) a = .ok q)
        u.assignments written ∧
      s.sql = ((Choice.ofUpdate d u.links filter).updateText (.root u.root) written).toText := by
  obtain ⟨filter, hfilter, htext⟩ := Builder.exists_choice (b := .update u) h
  obtain ⟨q, hq, hs⟩ := map_eq_ok.1 htext
  simp only [Builder.textOf, bind_eq_ok, pure_eq_ok, mapM_eq_ok] at hq
  obtain ⟨written, hwritten, rfl⟩ := hq
  exact ⟨filter, written, hfilter, hwritten, hs.symm⟩

theorem assigns_of_compile {s : Statement} (h : u.compile d = .ok s) {x : Assignment → Target}
    (hx : ∀ a ∈ u.assignments, ∀ name,
      target (.ofConditions d u.root u.conditions) (u.qualifies d) a.field = .ok name →
        (x a).text = name) :
    u.Assigns d s (u.assignments.map x) := by
  obtain ⟨filter, written, hfilter, hwritten, hs⟩ := exists_written h
  obtain ⟨values, hlength, htexts⟩ := exists_values hwritten hx
  refine ⟨filter, values, hfilter, hlength, ?_⟩
  rw [hs, Choice.toText_updateText, htexts]

theorem exists_target {s : Statement} (h : u.compile d = .ok s) {a : Assignment}
    (ha : a ∈ u.assignments) :
    ∃ name, target (.ofConditions d u.root u.conditions) (u.qualifies d) a.field = .ok name := by
  obtain ⟨-, written, -, hwritten, -⟩ := exists_written h
  obtain ⟨q, -, hq⟩ := exists_mem_right_of_forall₂ hwritten ha
  obtain ⟨name, -, hname, -⟩ := assignmentSql_eq_ok hq
  exact ⟨name, hname⟩

/-- A field of the root as MySQL's statement names it: alone, or as one of the table at its appearance. -/
def named (u : Update) (f : Field) : Target :=
  ⟨if u.links.isEmpty then none
    else ((Plan.ofConditions .mysql u.root u.conditions).tablesOf u.root.toModel)[f.appearance.getD 0]?,
    f.columnName⟩

theorem named_of_target {f : Field} {name : String} (hown : u.assignsOthers = false)
    (hf : f.belongsTo u.root.toModel = true)
    (h : target (.ofConditions .mysql u.root u.conditions) (u.qualifies .mysql) f = .ok name) :
    (u.named f).text = name ∧ ((u.named f).OfRoot ↔ u.links = [] ∨ f.appearance.getD 0 = 0) := by
  by_cases hlinks : u.links.isEmpty = true
  · have halone : u.named f = ⟨none, f.columnName⟩ := by simp [named, hlinks]
    have hqualified : u.qualifies .mysql = false := by simp [qualifies, hown, hlinks]
    rw [hqualified] at h
    rw [halone]
    exact ⟨Except.ok.inj h, iff_of_true (Target.ofRoot_alone _) (.inl (List.isEmpty_iff.1 hlinks))⟩
  · have hqualified : u.qualifies .mysql = true := by simp [qualifies, hlinks]
    rw [hqualified] at h
    obtain ⟨t, ht, rfl⟩ := target_eq_ok hf h
    have hnamed : u.named f = ⟨some t, f.columnName⟩ := by simp [named, hlinks, ht]
    rw [hnamed, Target.ofRoot_named, Plan.isRoot_tablesOf ht]
    exact ⟨rfl, (or_iff_right fun h => hlinks (List.isEmpty_iff.2 h)).symm⟩

theorem compile_of_assignsOthers (hd : d ≠ .mysql) (h : u.assignsOthers = true) :
    u.compile d = .error (.unsupported "set_multiple" d) := by
  have hassignments : u.assignments.isEmpty = false := by
    obtain ⟨a, ha, -⟩ := List.any_eq_true.1 h
    exact List.isEmpty_eq_false_iff.2 (List.ne_nil_of_mem ha)
  simp [compile, hassignments, h, hd]
  rfl

/-- An update that compiles on MySQL and on another engine assigns columns of its root's model only. The
other engine names them alone, MySQL with the table at the appearance of the field once there are joins; so
an assignment goes to the updated table on both just where there is no join or its field asks for no later
appearance. An assignment to another model makes the other engine refuse the update. -/
theorem compile_assigns (hd : d ≠ .mysql) {s : Statement} (h : u.compile .mysql = .ok s) :
    (u.assignsOthers = true → u.compile d = .error (.unsupported "set_multiple" d)) ∧
    ∀ s', u.compile d = .ok s' →
      (∀ a ∈ u.assignments, a.field.belongsTo u.root.toModel = true) ∧
      u.Assigns d s' (u.assignments.map fun a => ⟨none, a.field.columnName⟩) ∧
      u.Assigns .mysql s (u.assignments.map fun a => u.named a.field) ∧
      ∀ a ∈ u.assignments,
        (u.named a.field).OfRoot ↔ u.links = [] ∨ a.field.appearance.getD 0 = 0 := by
  refine ⟨compile_of_assignsOthers hd, fun s' h' => ?_⟩
  have hown : u.assignsOthers = false := by
    by_contra hothers
    rw [compile_of_assignsOthers hd (by simpa using hothers)] at h'
    cases h'
  have hfields : ∀ a ∈ u.assignments, a.field.belongsTo u.root.toModel = true := by
    simpa [assignsOthers] using hown
  have halone : u.qualifies d = false := by simp [qualifies, hd]
  refine ⟨hfields, ?_, ?_, fun a ha => ?_⟩
  · refine assigns_of_compile h' fun a _ name hname => ?_
    rw [halone] at hname
    exact Except.ok.inj hname
  · exact assigns_of_compile h fun a ha name hname => (named_of_target hown (hfields a ha) hname).1
  · obtain ⟨name, hname⟩ := exists_target h ha
    exact (named_of_target hown (hfields a ha) hname).2

def manager : Relation :=
  ⟨Sample.sellerModel, "Manager", Sample.seller, "manager_id", "id"⟩

def renamedManager : Update :=
  ⟨Sample.seller, [.join manager false []],
    [{ Sample.sellerName with appearance := some 1 }.assign (.text "x")]⟩

/-- On MySQL this is the manager, on PostgreSQL the seller. -/
theorem compile_assigns_renamedManager :
    ∃ s s' t, renamedManager.compile .mysql = .ok s ∧ renamedManager.compile .postgres = .ok s' ∧
      renamedManager.Assigns .postgres s' [⟨none, "name"⟩] ∧
      renamedManager.Assigns .mysql s [⟨some t, "name"⟩] ∧ t.isRoot = false := by
  obtain ⟨s, hs⟩ : ∃ s, renamedManager.compile .mysql = .ok s := ⟨_, rfl⟩
  obtain ⟨s', hs'⟩ : ∃ s, renamedManager.compile .postgres = .ok s := ⟨_, rfl⟩
  obtain ⟨-, hassigns, hmysql, -⟩ := (compile_assigns (d := .postgres) (by decide) hs).2 s' hs'
  exact ⟨s, s', (Table.root Sample.seller).reach manager, hs, hs', hassigns, hmysql, rfl⟩

/-- An update that compiles on two engines does not write the same table on both. -/
theorem renamedManager_differs :
    (renamedManager.compile .postgres).toOption.map Statement.sql = some
      "UPDATE sellers SET name = ? FROM sellers manager WHERE manager.id = sellers.manager_id" ∧
    (renamedManager.compile .mysql).toOption.map Statement.sql = some
      ("UPDATE sellers INNER JOIN sellers manager ON manager.id = sellers.manager_id"
        ++ " SET manager.name = ?") ∧
    ¬ ∀ (u : Update) (d : Dialect) (s s' : Statement), d ≠ .mysql → u.compile d = .ok s →
      u.compile .mysql = .ok s' → ∀ a ∈ u.assignments, ∀ column,
        target (.ofConditions .mysql u.root u.conditions) (u.qualifies .mysql) a.field = .ok column →
          column = a.field.columnName ∨ column = (Table.root u.root).column a.field.columnName := by
  refine ⟨by decide +kernel, by decide +kernel, fun h => ?_⟩
  have hcolumn := h renamedManager .postgres _ _ (by decide) rfl rfl _ (by simp [renamedManager]; rfl)
    "manager.name" (by decide +kernel)
  revert hcolumn
  decide +kernel

end Update
end Joinery
