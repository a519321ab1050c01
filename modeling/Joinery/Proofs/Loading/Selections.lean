import Joinery.Proofs.Builder
import Joinery.Proofs.Fragment
import Joinery.Proofs.Loading.Entries
import Joinery.Proofs.Samples

/-! What a plan selects, beside what it loads.
Each time that fields of a table are loaded, the columns that are new to its entry are selected. The columns
that are selected of a table are therefore those of its entry, in the same order, and none is selected twice
unless the fields of one loading name it twice. -/
namespace Joinery
namespace Plan

/-! The columns that are loaded of a table, after each step. -/

theorem loadedColumns?_concat_joined (aliasName model other : String) (columns : List String)
    (ps : List Preload) : loadedColumns? aliasName (ps ++ [.joined model other columns]) =
      (loadedColumns? aliasName ps).or (if other = aliasName then some columns else none) := by
  induction ps with
  | nil => rfl
  | cons x rest ih =>
    cases x with
    | joined m a cs =>
      rw [List.cons_append, loadedColumns?, loadedColumns?, ih]
      split <;> rfl
    | collection m path => exact ih

theorem loadedColumns?_concat_collection (aliasName model path : String) (ps : List Preload) :
    loadedColumns? aliasName (ps ++ [.collection model path]) = loadedColumns? aliasName ps := by
  induction ps with
  | nil => rfl
  | cons x rest ih =>
    cases x with
    | joined m a cs => rw [List.cons_append, loadedColumns?, loadedColumns?, ih]
    | collection m path => exact ih

theorem loadedColumns?_extendColumns (aliasName other : String) (fresh : List String)
    (ps : List Preload) : loadedColumns? aliasName (extendColumns other fresh ps) =
      (loadedColumns? aliasName ps).map fun cs => if other = aliasName then cs ++ fresh else cs := by
  induction ps with
  | nil => rfl
  | cons x rest ih =>
    cases x with
    | joined m a cs =>
      by_cases hother : a = other
      · subst hother
        by_cases hname : a = aliasName <;> simp [extendColumns, loadedColumns?, hname]
      · by_cases hname : a = aliasName
        · subst hname
          have hfresh : ¬ other = a := fun h => hother h.symm
          simp [extendColumns, loadedColumns?, hother, hfresh]
        · simp [extendColumns, loadedColumns?, hother, hname, ih]
    | collection m path => exact ih

/-! The two lists side by side. -/

/-- The columns that are selected of a table. -/
def selected (aliasName : String) (selections : List Selection) : List Selection :=
  selections.filter (·.aliasName = aliasName)

theorem selected_append (aliasName other : String) (columns : List String) (ss : List Selection) :
    selected aliasName (ss ++ columns.map (Selection.mk other)) =
      selected aliasName ss ++ if other = aliasName then columns.map (Selection.mk aliasName) else [] := by
  rw [selected, List.filter_append, List.filter_map]
  split
  · rename_i hother
    subst hother
    simp [selected, Function.comp_def]
  · rename_i hother
    simp [selected, Function.comp_def, hother]

/-- Whether the columns that are selected of each table are those of its entry. -/
def Mirrored (p : Plan) : Prop :=
  ∀ aliasName, selected aliasName p.selections =
    ((loadedColumns? aliasName p.preloads).getD []).map (Selection.mk aliasName)

theorem mirrored_load {p : Plan} (hp : p.Mirrored) (t : Table) (fields : List Field) :
    (p.load t fields).Mirrored := by
  intro aliasName
  have hname := hp aliasName
  cases h : loadedColumns? t.aliasName p.preloads with
  | none =>
    rw [load_of_unloaded h, selected_append, hname, loadedColumns?_concat_joined]
    by_cases ht : t.aliasName = aliasName
    · simp [← ht, h]
    · simp [ht]
  | some known =>
    rw [load_of_loaded h, selected_append, hname, loadedColumns?_extendColumns]
    by_cases ht : t.aliasName = aliasName
    · simp [← ht, h]
    · simp [ht]

theorem mirrored_step {p : Plan} (hp : p.Mirrored) (s : Step) : (p.step s).Mirrored := by
  cases s with
  | join l => exact hp
  | load s => exact mirrored_load hp s.table s.fields
  | collection model path =>
    intro aliasName
    rw [step, loadedColumns?_concat_collection]
    exact hp aliasName

theorem exists_joined_of_loaded {aliasName : String} {columns : List String} {ps : List Preload}
    (h : loadedColumns? aliasName ps = some columns) : ∃ model, .joined model aliasName columns ∈ ps := by
  fun_induction loadedColumns? aliasName ps with
  | case1 => cases h
  | case2 model columns rest =>
    cases h
    exact ⟨model, List.mem_cons_self⟩
  | case3 model other known rest hne ih =>
    obtain ⟨m, hm⟩ := ih h
    exact ⟨m, List.mem_cons_of_mem _ hm⟩
  | case4 model path rest ih =>
    obtain ⟨m, hm⟩ := ih h
    exact ⟨m, List.mem_cons_of_mem _ hm⟩

theorem loadedColumns?_of_mem {model aliasName : String} {columns : List String} {ps : List Preload}
    (hnames : (Entry.names (Preload.entries ps)).Nodup) (h : .joined model aliasName columns ∈ ps) :
    loadedColumns? aliasName ps = some columns := by
  fun_induction loadedColumns? aliasName ps with
  | case1 => cases h
  | case2 m known rest =>
    obtain h | h := List.mem_cons.1 h
    · cases h
      rfl
    · have hmem : aliasName ∈ Entry.names (Preload.entries rest) :=
        List.mem_map.2 (Preload.exists_mem_entries_iff.2 ⟨model, columns, h⟩)
      exact absurd hmem (List.nodup_cons.1 hnames).1
  | case3 m other known rest hne ih =>
    obtain h | h := List.mem_cons.1 h
    · cases h
      exact absurd rfl hne
    · exact ih (List.nodup_cons.1 hnames).2 h
  | case4 m path rest ih =>
    obtain h | h := List.mem_cons.1 h
    · cases h
    · exact ih hnames h

end Plan

namespace Loading

variable {s : Loading} {ss : List Loading} {es : List Entry}

theorem nodup_columns_addTo (hs : s.columns.Nodup) (hes : ∀ e ∈ es, e.columns.Nodup) :
    ∀ e ∈ s.addTo es, e.columns.Nodup := by
  induction es with
  | nil =>
    intro e he
    rw [List.mem_singleton.1 he]
    exact hs
  | cons x rest ih =>
    have hx := hes x List.mem_cons_self
    have hrest : ∀ e ∈ rest, e.columns.Nodup := fun e he => hes e (List.mem_cons_of_mem _ he)
    intro e he
    rw [addTo] at he
    split at he
    · obtain rfl | he := List.mem_cons.1 he
      · refine List.nodup_append.2 ⟨hx, hs.filter _, fun c hc c' hc' heq => ?_⟩
        have hnew := (List.mem_filter.1 hc').2
        simp [← heq, hc] at hnew
      · exact hrest e he
    · obtain rfl | he := List.mem_cons.1 he
      · exact hx
      · exact ih hrest e he

theorem nodup_columns (h : ∀ s ∈ ss, s.columns.Nodup) : ∀ e ∈ entries ss, e.columns.Nodup := by
  induction ss using List.reverseRecOn with
  | nil => exact fun e he => nomatch he
  | append_singleton ss s ih =>
    rw [entries_concat]
    exact nodup_columns_addTo (h s (by simp)) (ih fun s' hs' => h s' (by simp [hs']))

end Loading

namespace Plan

variable {d : Dialect} {root : Entity} {cs : List Condition}

theorem mirrored_ofConditions (d : Dialect) (root : Entity) (cs : List Condition) :
    (ofConditions d root cs).Mirrored :=
  invariant_ofConditions (fun _ => rfl) fun _ s _ hp => mirrored_step hp s

theorem nodup_names_ofConditions :
    (Entry.names (Preload.entries (ofConditions d root cs).preloads)).Nodup := by
  rw [entries_ofConditions]
  exact Loading.nodup_entries _

/-- No column is selected twice if no loading names one twice. -/
theorem nodup_selections (h : ∀ s ∈ Condition.allLoadings (.root root) cs, s.columns.Nodup) :
    (ofConditions d root cs).selections.Nodup := by
  rw [List.nodup_iff_count_le_one]
  intro x
  have hone : (selected x.aliasName (ofConditions d root cs).selections).Nodup := by
    rw [mirrored_ofConditions]
    cases hcolumns : loadedColumns? x.aliasName (ofConditions d root cs).preloads with
    | none => exact List.nodup_nil
    | some columns =>
      obtain ⟨model, hmem⟩ := exists_joined_of_loaded hcolumns
      have hentry : ⟨model, x.aliasName, columns⟩ ∈
          Loading.entries (Condition.allLoadings (.root root) cs) := by
        rw [← entries_ofConditions d]
        exact List.mem_filterMap.2 ⟨_, hmem, rfl⟩
      have hnodup : columns.Nodup := Loading.nodup_columns h _ hentry
      exact hnodup.map fun c c' heq => (Selection.mk.inj heq).2
  have hcount := List.count_filter (p := fun s => decide (s.aliasName = x.aliasName))
    (l := (ofConditions d root cs).selections) (a := x) (by simp)
  rw [← hcount]
  exact List.nodup_iff_count_le_one.1 hone x

end Plan

/-- A query selects the columns of the root and then those of its plan, and loads what its plan loads. -/
theorem Query.exists_selectClause {q : Query} {d : Dialect} {s : Statement} (h : q.compile d = .ok s) :
    let p := Plan.ofConditions d q.root q.conditions
    s.preloads = p.preloads ∧ ∃ rest, s.sql = selectClause p ++ " FROM " ++ q.root.table ++ rest := by
  simp only [compile, toSql, bind_eq_ok, pure_eq_ok] at h
  obtain ⟨sql, ⟨filter, -, order, -, rfl⟩, rfl⟩ := h
  intro p
  let rest := joinClauses p.joins ++ whereClause [] filter ++ order ++
    .text (pagination p.dialect q.limit q.offset (!q.order.isEmpty))
  refine ⟨rfl, rest.toText, ?_⟩
  simp [Statement.ofSql, rest, p, String.append_assoc]

namespace Plan

/-- Each table has one entry at most for what is loaded of it. The columns that are selected of the table are
those of its entry in the same order, each with a label made of both names, and no others are selected. None is
selected twice, however often its table is loaded, unless one list of fields to load names it twice. Queries
write the selections after the columns of the root. -/
theorem selections_ofConditions (d : Dialect) (root : Entity) (cs : List Condition) :
    let p := ofConditions d root cs
    (Entry.names (Preload.entries p.preloads)).Nodup ∧
    (∀ model aliasName columns, .joined model aliasName columns ∈ p.preloads →
      selected aliasName p.selections = columns.map (Selection.mk aliasName) ∧
      (selected aliasName p.selections).map (Selection.text d) =
        columns.map fun c => aliasName ++ "." ++ c ++ " AS " ++ d.quote (aliasName ++ "__" ++ c)) ∧
    (∀ x ∈ p.selections, ∃ model columns, .joined model x.aliasName columns ∈ p.preloads) ∧
    ((∀ s ∈ Condition.allLoadings (.root root) cs, s.columns.Nodup) → p.selections.Nodup) ∧
    ∀ q : Query, q.root = root → q.conditions = cs → ∀ s, q.compile d = .ok s →
      s.preloads = p.preloads ∧ ∃ rest, s.sql = "SELECT " ++ root.table ++ ".*" ++
        String.join (p.selections.map fun x => ", " ++ x.text d) ++ " FROM " ++ root.table ++ rest := by
  intro p
  have hmirrored := mirrored_ofConditions d root cs
  refine ⟨nodup_names_ofConditions, fun model aliasName columns hmem => ?_, fun x hx => ?_,
    nodup_selections, ?_⟩
  · have hselected : selected aliasName p.selections = columns.map (Selection.mk aliasName) := by
      rw [hmirrored, loadedColumns?_of_mem nodup_names_ofConditions hmem]
      rfl
    refine ⟨hselected, ?_⟩
    rw [hselected, List.map_map]
    rfl
  · cases hcolumns : loadedColumns? x.aliasName p.preloads with
    | none =>
      have hmem : x ∈ selected x.aliasName p.selections := by simpa [selected] using hx
      rw [hmirrored, hcolumns] at hmem
      cases hmem
    | some columns =>
      obtain ⟨model, hmem⟩ := exists_joined_of_loaded hcolumns
      exact ⟨model, columns, hmem⟩
  · rintro q rfl rfl s h
    obtain ⟨hpreloads, rest, hrest⟩ := Query.exists_selectClause h
    refine ⟨hpreloads, rest, ?_⟩
    rw [hrest, Query.selectClause, root_ofConditions, dialect_ofConditions]
    rfl

def overlappingSellers : List Condition :=
  [.join Sample.employer true
    [.preload Sample.companyModel [Sample.companyName], .join Sample.holding true []]]

/-- The columns of the companies are selected once. -/
theorem selections_overlappingSellers :
    let p := ofConditions .postgres Sample.seller overlappingSellers
    (∀ s ∈ Condition.allLoadings (.root Sample.seller) overlappingSellers, s.columns.Nodup) ∧
    p.selections.Nodup ∧ .joined "Company" "company" ["id", "name"] ∈ p.preloads ∧
    selected "company" p.selections = [⟨"company", "id"⟩, ⟨"company", "name"⟩] ∧
    ∃ s, (Query.ofConditions Sample.seller overlappingSellers).compile .postgres = .ok s ∧
      s.preloads = p.preloads := by
  intro p
  have hloadings : ∀ s ∈ Condition.allLoadings (.root Sample.seller) overlappingSellers,
      s.columns.Nodup := by decide +kernel
  have hmem : .joined "Company" "company" ["id", "name"] ∈ p.preloads := by decide +kernel
  obtain ⟨-, hselected, -, hnodup, hquery⟩ :=
    selections_ofConditions .postgres Sample.seller overlappingSellers
  refine ⟨hloadings, hnodup hloadings, hmem, (hselected _ _ _ hmem).1, _, rfl, ?_⟩
  exact (hquery (.ofConditions _ _) rfl rfl _ rfl).1

end Plan
end Joinery
