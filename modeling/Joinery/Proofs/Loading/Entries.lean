import Joinery.Proofs.Plans
import Mathlib.Data.List.Induction
import Mathlib.Data.List.Nodup

/-! Entries for what a plan loads.
Planning loads fields of joined tables one after the other. Each table has one entry, with all columns that
are loaded of it, and the entries stand in the order in which their tables were loaded first. -/
namespace Joinery

/-- The columns that are loaded of a joined table. -/
structure Entry where
  model : String
  aliasName : String
  columns : List String
deriving DecidableEq, Repr

def Preload.entry? : Preload → Option Entry
  | .joined model aliasName columns => some ⟨model, aliasName, columns⟩
  | .collection _ _ => none

def Preload.entries (ps : List Preload) : List Entry :=
  ps.filterMap entry?

theorem Preload.exists_mem_entries_iff {aliasName : String} {ps : List Preload} :
    (∃ e ∈ entries ps, e.aliasName = aliasName) ↔
      ∃ model columns, .joined model aliasName columns ∈ ps := by
  constructor
  · rintro ⟨e, he, rfl⟩
    obtain ⟨x, hx, hentry⟩ := List.mem_filterMap.1 he
    cases x with
    | joined model aliasName columns =>
      cases hentry
      exact ⟨model, columns, hx⟩
    | collection model path => cases hentry
  · rintro ⟨model, columns, hx⟩
    exact ⟨_, List.mem_filterMap.2 ⟨_, hx, rfl⟩, rfl⟩

theorem Preload.entries_append_cons (before after : List Preload) (model aliasName : String)
    (columns : List String) : entries (before ++ .joined model aliasName columns :: after) =
      entries before ++ ⟨model, aliasName, columns⟩ :: entries after := by
  simp [entries, entry?]

namespace Loading

def columns (s : Loading) : List String :=
  s.fields.map Field.columnName

/-- Adds the columns to the entry of the table, or a new entry. -/
def addTo (s : Loading) : List Entry → List Entry
  | [] => [⟨s.table.entity.name, s.table.aliasName, s.columns⟩]
  | e :: rest =>
    if e.aliasName = s.table.aliasName then
      { e with columns := e.columns ++ s.columns.filter fun c => !e.columns.contains c } :: rest
    else e :: s.addTo rest

def entries (ss : List Loading) : List Entry :=
  ss.foldl (fun es s => s.addTo es) []

end Loading

/-! Entries after loadings: one for each table, in the order in which the tables were loaded first, with all
the columns that were loaded. -/

def Entry.names (es : List Entry) : List String :=
  es.map aliasName

namespace Loading

variable {s : Loading} {ss : List Loading} {es : List Entry} {e : Entry}

theorem names_addTo (s : Loading) (es : List Entry) : Entry.names (s.addTo es) =
    if s.table.aliasName ∈ Entry.names es then Entry.names es
    else Entry.names es ++ [s.table.aliasName] := by
  induction es with
  | nil => rfl
  | cons e rest ih =>
    by_cases he : e.aliasName = s.table.aliasName
    · simp [addTo, Entry.names, he]
    · have hne : ¬ s.table.aliasName = e.aliasName := fun h => he h.symm
      simp only [Entry.names] at ih
      simp only [addTo, he, if_false, Entry.names, List.map_cons, ih, List.mem_cons, hne, false_or]
      exact apply_ite (List.cons e.aliasName) _ _ _

theorem nodup_addTo (h : (Entry.names es).Nodup) : (Entry.names (s.addTo es)).Nodup := by
  rw [names_addTo]
  split
  · exact h
  · rename_i hnew
    exact List.nodup_append.2 ⟨h, List.nodup_singleton _, fun a ha b hb hab =>
      hnew (List.mem_singleton.1 hb ▸ hab ▸ ha)⟩

theorem exists_of_mem (he : e ∈ es) :
    ∃ e' ∈ s.addTo es, e'.aliasName = e.aliasName ∧ e.columns ⊆ e'.columns := by
  induction es with
  | nil => cases he
  | cons x rest ih =>
    rw [addTo]
    obtain rfl | he := List.mem_cons.1 he
    · split
      · exact ⟨_, List.mem_cons_self, rfl, List.subset_append_left _ _⟩
      · exact ⟨e, List.mem_cons_self, rfl, List.Subset.refl _⟩
    · split
      · exact ⟨e, List.mem_cons_of_mem _ he, rfl, List.Subset.refl _⟩
      · obtain ⟨e', he', hsame⟩ := ih he
        exact ⟨e', List.mem_cons_of_mem _ he', hsame⟩

theorem exists_loaded (s : Loading) (es : List Entry) :
    ∃ e ∈ s.addTo es, e.aliasName = s.table.aliasName ∧ s.columns ⊆ e.columns := by
  induction es with
  | nil => exact ⟨_, List.mem_singleton_self _, rfl, List.Subset.refl _⟩
  | cons x rest ih =>
    rw [addTo]
    split
    · rename_i hx
      refine ⟨_, List.mem_cons_self, hx, fun c hc => ?_⟩
      by_cases hknown : c ∈ x.columns
      · exact List.mem_append_left _ hknown
      · exact List.mem_append_right _ (by simpa [hc] using hknown)
    · obtain ⟨e, he, hsame⟩ := ih
      exact ⟨e, List.mem_cons_of_mem _ he, hsame⟩

/-- An entry is an earlier one of its name, or that of the loading. -/
theorem source_of_mem_addTo (he : e ∈ s.addTo es) :
    (∃ e' ∈ es, e'.aliasName = e.aliasName ∧ e'.model = e.model) ∨
      s.table.aliasName = e.aliasName ∧ s.table.entity.name = e.model := by
  induction es with
  | nil =>
    rw [List.mem_singleton.1 he]
    exact .inr ⟨rfl, rfl⟩
  | cons x rest ih =>
    rw [addTo] at he
    split at he
    · obtain rfl | he := List.mem_cons.1 he
      · exact .inl ⟨x, List.mem_cons_self, rfl, rfl⟩
      · exact .inl ⟨e, List.mem_cons_of_mem _ he, rfl, rfl⟩
    · obtain rfl | he := List.mem_cons.1 he
      · exact .inl ⟨e, List.mem_cons_self, rfl, rfl⟩
      · obtain ⟨e', he', hsame⟩ | hnew := ih he
        · exact .inl ⟨e', List.mem_cons_of_mem _ he', hsame⟩
        · exact .inr hnew

theorem entries_append (ss ss' : List Loading) :
    entries (ss ++ ss') = ss'.foldl (fun es s => s.addTo es) (entries ss) :=
  List.foldl_append

theorem entries_concat (ss : List Loading) (s : Loading) : entries (ss ++ [s]) = s.addTo (entries ss) :=
  entries_append ss [s]

theorem nodup_entries (ss : List Loading) : (Entry.names (entries ss)).Nodup := by
  induction ss using List.reverseRecOn with
  | nil => exact List.nodup_nil
  | append_singleton ss s ih =>
    rw [entries_concat]
    exact nodup_addTo ih

theorem source_of_mem (he : e ∈ entries ss) :
    ∃ s ∈ ss, s.table.aliasName = e.aliasName ∧ s.table.entity.name = e.model := by
  induction ss using List.reverseRecOn generalizing e with
  | nil => cases he
  | append_singleton ss s ih =>
    rw [entries_concat] at he
    obtain ⟨e', he', halias, hmodel⟩ | hnew := source_of_mem_addTo he
    · obtain ⟨s', hs', halias', hmodel'⟩ := ih he'
      exact ⟨s', List.mem_append_left _ hs', halias'.trans halias, hmodel'.trans hmodel⟩
    · exact ⟨s, by simp, hnew⟩

theorem exists_of_mem_loadings (hs : s ∈ ss) :
    ∃ e ∈ entries ss, e.aliasName = s.table.aliasName ∧ s.columns ⊆ e.columns := by
  induction ss using List.reverseRecOn with
  | nil => cases hs
  | append_singleton ss s' ih =>
    rw [entries_concat]
    obtain hs | hs := List.mem_append.1 hs
    · obtain ⟨e, he, halias, hsub⟩ := ih hs
      obtain ⟨e', he', halias', hsub'⟩ := exists_of_mem (s := s') he
      exact ⟨e', he', halias'.trans halias, List.Subset.trans hsub hsub'⟩
    · rw [List.mem_singleton.1 hs]
      exact exists_loaded s' (entries ss)

/-- The entry of a table has the columns of all its loadings. -/
theorem columns_subset (he : e ∈ entries ss) (hs : s ∈ ss) (hname : s.table.aliasName = e.aliasName) :
    s.columns ⊆ e.columns := by
  obtain ⟨e', he', halias, hsub⟩ := exists_of_mem_loadings hs
  have hsame : e' = e := List.inj_on_of_nodup_map (nodup_entries ss) he' he (halias.trans hname)
  exact hsame ▸ hsub

theorem exists_names_append (ss ss' : List Loading) :
    ∃ more, Entry.names (entries (ss ++ ss')) = Entry.names (entries ss) ++ more := by
  induction ss' using List.reverseRecOn with
  | nil => exact ⟨[], by simp⟩
  | append_singleton ss' s ih =>
    obtain ⟨more, hmore⟩ := ih
    rw [← List.append_assoc, entries_concat, names_addTo, hmore]
    split
    · exact ⟨more, rfl⟩
    · exact ⟨more ++ [s.table.aliasName], List.append_assoc _ _ _⟩

/-- Before the entry of a table stand those of the tables that were loaded before it. -/
theorem names_before {before after : List Entry} {earlier later : List Loading}
    (hentries : entries (earlier ++ s :: later) = before ++ e :: after)
    (hname : s.table.aliasName = e.aliasName) (hnew : s.table.aliasName ∉ Entry.names (entries earlier)) :
    Entry.names before = Entry.names (entries earlier) := by
  obtain ⟨more, hmore⟩ := exists_names_append (earlier ++ [s]) later
  rw [List.append_assoc, List.singleton_append, hentries, entries_concat, names_addTo, if_neg hnew] at hmore
  have hnodup := nodup_entries (earlier ++ s :: later)
  have hnames : Entry.names before ++ e.aliasName :: Entry.names after =
      Entry.names (entries earlier) ++ e.aliasName :: more := by
    simpa [Entry.names, hname] using hmore
  rw [hentries, Entry.names, List.map_append, List.nodup_append] at hnodup
  have hbefore : e.aliasName ∉ Entry.names before := fun h => hnodup.2.2 _ h _ List.mem_cons_self rfl
  have hafter : e.aliasName ∉ Entry.names after := (List.nodup_cons.1 hnodup.2.1).1
  exact ((List.append_cons_inj_of_notMem hbefore hafter).1 hnames).1

end Loading

namespace Plan

/-! The loadings of a plan. -/

theorem entries_of_unloaded {s : Loading} {ps : List Preload}
    (h : loadedColumns? s.table.aliasName ps = none) :
    Preload.entries (ps ++ [.joined s.table.entity.name s.table.aliasName s.columns]) =
      s.addTo (Preload.entries ps) := by
  induction ps with
  | nil => rfl
  | cons x rest ih =>
    cases x with
    | joined model aliasName columns =>
      rw [loadedColumns?] at h
      split at h
      · cases h
      · rename_i hne
        have hrest := ih h
        simp only [Preload.entries, List.cons_append, List.filterMap_cons, Preload.entry?] at hrest ⊢
        rw [hrest, Loading.addTo, if_neg hne]
    | collection model path => exact ih h

theorem entries_of_loaded {s : Loading} {ps : List Preload} {known : List String}
    (h : loadedColumns? s.table.aliasName ps = some known) :
    Preload.entries (extendColumns s.table.aliasName (s.columns.filter fun c => !known.contains c) ps) =
      s.addTo (Preload.entries ps) := by
  induction ps with
  | nil => cases h
  | cons x rest ih =>
    cases x with
    | joined model aliasName columns =>
      rw [loadedColumns?] at h
      split at h
      · rename_i heq
        cases h
        simp only [extendColumns, if_pos heq, Preload.entries, List.filterMap_cons, Preload.entry?,
          Loading.addTo]
      · rename_i hne
        have hrest := ih h
        simp only [Preload.entries] at hrest
        simp only [extendColumns, if_neg hne, Preload.entries, List.filterMap_cons, Preload.entry?,
          Loading.addTo, hrest]
    | collection model path => exact ih h

/-- The second plan goes on from the first with some loadings. -/
def Loads (p p' : Plan) (ss : List Loading) : Prop :=
  Preload.entries p'.preloads = ss.foldl (fun es s => s.addTo es) (Preload.entries p.preloads)

theorem Loads.refl (p : Plan) : p.Loads p [] := rfl

theorem Loads.trans {p p' p'' : Plan} {ss ss' : List Loading} (h : p.Loads p' ss)
    (h' : p'.Loads p'' ss') : p.Loads p'' (ss ++ ss') := by
  rw [Loads, List.foldl_append, ← h]
  exact h'

theorem loads_load (p : Plan) (t : Table) (fields : List Field) :
    p.Loads (p.load t fields) [⟨t, fields⟩] := by
  rw [Loads, List.foldl_cons, List.foldl_nil]
  cases h : loadedColumns? t.aliasName p.preloads with
  | none =>
    rw [load_of_unloaded h]
    exact entries_of_unloaded (s := ⟨t, fields⟩) h
  | some known =>
    rw [load_of_loaded h]
    exact entries_of_loaded (s := ⟨t, fields⟩) h

theorem loads_step (p : Plan) (s : Step) : p.Loads (p.step s) s.loading?.toList := by
  cases s with
  | join l => exact .refl p
  | load s => exact loads_load p s.table s.fields
  | collection model path => simp [step, Step.loading?, Loads, Preload.entries, Preload.entry?]

/-- The entries of a plan are those of the loadings of its joins. -/
theorem entries_ofConditions (d : Dialect) (root : Entity) (cs : List Condition) :
    Preload.entries (ofConditions d root cs).preloads =
      Loading.entries (Condition.allLoadings (.root root) cs) := by
  rw [← Condition.loadings_allSteps (.root root) "" cs]
  exact ofConditions_adds Loads.refl Loads.trans loads_step d root cs

end Plan
end Joinery
