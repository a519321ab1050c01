import Joinery.Proofs.Labels
import Joinery.Proofs.Loading.Entries

/-! What a plan loads of the joined tables.
A table has an entry with its columns if its join loads rows, itself or below. Rows below a table are reached
through the rows of that table: its entry then holds all columns of its model, and stands before the entries
of the tables below it. -/
namespace Joinery

/-- Whether a join stands in the conditions of another, and starts from its table. -/
def Link.Within (l l' : Link) : Prop :=
  l.parent = l'.table ∧ l.join.toCondition ∈ l'.join.conditions

namespace Condition

/-! Joins below joins. -/

mutual

/-- A join starts from the table at the outset, or it stands within a join before it. -/
theorem parent_of_links (t : Table) : (c : Condition) →
    ∀ (i : Nat) (l : Link), (c.links t)[i]? = some l → l.parent = t ∧ l.join.toCondition = c ∨
      ∃ (m : Nat) (l' : Link), m < i ∧ (c.links t)[m]? = some l' ∧ l.Within l'
  | .join r load cs => by
    intro i l hi
    cases i with
    | zero =>
      cases hi
      exact .inl ⟨rfl, rfl⟩
    | succ i =>
      right
      obtain ⟨hparent, hl⟩ | ⟨m, l', hm, hl', hbelow⟩ := parent_of_allLinks (t.reach r) cs i l hi
      · exact ⟨0, _, Nat.succ_pos i, rfl, hparent, hl⟩
      · exact ⟨m + 1, l', Nat.succ_lt_succ hm, hl', hbelow⟩
  | .filter _ => fun _ _ hi => by cases hi
  | .preload _ _ => fun _ _ hi => by cases hi
  | .collection _ _ => fun _ _ hi => by cases hi

theorem parent_of_allLinks (t : Table) : (cs : List Condition) →
    ∀ (i : Nat) (l : Link), (allLinks t cs)[i]? = some l → l.parent = t ∧ l.join.toCondition ∈ cs ∨
      ∃ (m : Nat) (l' : Link), m < i ∧ (allLinks t cs)[m]? = some l' ∧ l.Within l'
  | [] => fun _ _ hi => by cases hi
  | c :: rest => by
    intro i l hi
    rw [allLinks, List.getElem?_append] at hi
    split at hi
    · obtain ⟨hparent, rfl⟩ | ⟨m, l', hm, hl', hbelow⟩ := parent_of_links t c i l hi
      · exact .inl ⟨hparent, List.mem_cons_self⟩
      · refine .inr ⟨m, l', hm, ?_, hbelow⟩
        rw [allLinks, List.getElem?_append_left (by omega), hl']
    · obtain ⟨hparent, hl⟩ | ⟨m, l', hm, hl', hbelow⟩ := parent_of_allLinks t rest _ l hi
      · exact .inl ⟨hparent, List.mem_cons_of_mem _ hl⟩
      · refine .inr ⟨m + (c.links t).length, l', by omega, ?_, hbelow⟩
        rw [allLinks, List.getElem?_append_right (Nat.le_add_left _ _), Nat.add_sub_cancel, hl']

end

mutual

theorem exists_append_of_mem_links {t : Table} {l : Link} : (c : Condition) → l ∈ c.links t →
    ∃ before after, c.links t = before ++ (l :: allLinks l.table l.join.conditions) ++ after
  | .join r load cs => by
    intro hl
    obtain rfl | hl := List.mem_cons.1 hl
    · exact ⟨[], [], by simp [links, Link.table]⟩
    · obtain ⟨before, after, hinner⟩ := exists_append_of_mem_allLinks cs hl
      exact ⟨⟨t, ⟨r, load, cs⟩⟩ :: before, after, congrArg _ hinner⟩
  | .filter _ => fun hl => by cases hl
  | .preload _ _ => fun hl => by cases hl
  | .collection _ _ => fun hl => by cases hl

theorem exists_append_of_mem_allLinks {t : Table} {l : Link} :
    (cs : List Condition) → l ∈ allLinks t cs →
      ∃ before after, allLinks t cs = before ++ (l :: allLinks l.table l.join.conditions) ++ after
  | [] => fun hl => by cases hl
  | c :: rest => by
    intro hl
    obtain hl | hl := List.mem_append.1 hl
    · obtain ⟨before, after, hfirst⟩ := exists_append_of_mem_links c hl
      exact ⟨before, after ++ allLinks t rest, by rw [allLinks, hfirst]; simp⟩
    · obtain ⟨before, after, hrest⟩ := exists_append_of_mem_allLinks rest hl
      exact ⟨c.links t ++ before, after, by rw [allLinks, hrest]; simp⟩

end

mutual

theorem loads_of_mem_links {t : Table} {l : Link} (hl : l.join.loads = true) :
    (c : Condition) → l ∈ c.links t → c.loads = true
  | .join r load cs => by
    intro hmem
    obtain rfl | hmem := List.mem_cons.1 hmem
    · exact hl
    · simp [loads, anyLoads_of_mem_allLinks hl cs hmem]
  | .filter _ => fun hmem => by cases hmem
  | .preload _ _ => fun hmem => by cases hmem
  | .collection _ _ => fun hmem => by cases hmem

theorem anyLoads_of_mem_allLinks {t : Table} {l : Link} (hl : l.join.loads = true) :
    (cs : List Condition) → l ∈ allLinks t cs → anyLoads cs = true
  | [] => fun hmem => by cases hmem
  | c :: rest => by
    intro hmem
    obtain hmem | hmem := List.mem_append.1 hmem
    · simp [anyLoads, loads_of_mem_links hl c hmem]
    · simp [anyLoads, anyLoads_of_mem_allLinks hl rest hmem]

end

theorem named_of_quiet (t : Table) {cs : List Condition} (h : anyLoads cs = false) :
    Loading.named t cs = [] := by
  rw [anyLoads_eq_any, List.any_eq_false] at h
  rw [Loading.named, List.filterMap_eq_nil_iff]
  intro c hc
  cases c with
  | preload m fields => exact absurd rfl (h _ hc)
  | _ => rfl

theorem loadings_of_quiet {l : Link} (h : l.join.loads = false) : l.loadings = [] := by
  obtain ⟨hload, hbelow⟩ : l.join.load = false ∧ anyLoads l.join.conditions = false := by
    simpa [Join.loads, Join.toCondition, loads] using h
  simp [Link.loadings, Link.ofParent, Link.own, h, hload, named_of_quiet l.table hbelow]

mutual

theorem loadings_links_of_quiet (t : Table) :
    (c : Condition) → c.loads = false → (c.links t).flatMap Link.loadings = []
  | .join r load cs => by
    intro h
    have hbelow : anyLoads cs = false := (Bool.or_eq_false_iff.1 h).2
    have hjoin : Link.loadings ⟨t, ⟨r, load, cs⟩⟩ = [] := loadings_of_quiet h
    rw [links, List.flatMap_cons, hjoin]
    exact allLoadings_of_quiet (t.reach r) cs hbelow
  | .filter _ => fun _ => rfl
  | .preload _ _ => fun _ => rfl
  | .collection _ _ => fun _ => rfl

theorem allLoadings_of_quiet (t : Table) :
    (cs : List Condition) → anyLoads cs = false → allLoadings t cs = []
  | [] => fun _ => rfl
  | c :: rest => by
    intro h
    obtain ⟨hc, hrest⟩ := Bool.or_eq_false_iff.1 h
    rw [allLoadings_cons, loadings_links_of_quiet t c hc, allLoadings_of_quiet t rest hrest]
    rfl

end

/-- The first loading below a joined table is that of the table itself, with all fields of its model. -/
theorem exists_loadings_cons {t : Table} (ht : t.isRoot = false) {cs : List Condition}
    (h : ∃ l ∈ allLinks t cs, l.join.loads = true) :
    ∃ rest, allLoadings t cs = ⟨t, t.entity.fields⟩ :: rest := by
  induction cs with
  | nil =>
    obtain ⟨l, hl, -⟩ := h
    cases hl
  | cons c rest ih =>
    cases hc : c.loads with
    | false =>
      obtain ⟨l, hl, hloads⟩ := h
      have hrest : l ∈ allLinks t rest := by
        refine (List.mem_append.1 hl).resolve_left fun hfirst => ?_
        have hc' := loads_of_mem_links hloads c hfirst
        simp [hc] at hc'
      obtain ⟨more, hmore⟩ := ih ⟨l, hrest, hloads⟩
      refine ⟨more, ?_⟩
      rw [allLoadings_cons, loadings_links_of_quiet t c hc, hmore, List.nil_append]
    | true =>
      cases c with
      | join r load inner =>
        have hjoin : (Join.loads ⟨r, load, inner⟩ && !t.isRoot) = true := by
          rw [ht]
          exact (Bool.and_true _).trans hc
        have hfirst : Link.loadings ⟨t, ⟨r, load, inner⟩⟩ =
            ⟨t, t.entity.fields⟩ :: Link.own ⟨t, ⟨r, load, inner⟩⟩ := by
          simp only [Link.loadings, Link.ofParent, hjoin, if_true, List.singleton_append]
        rw [allLoadings_cons, links, List.flatMap_cons, hfirst, List.cons_append, List.cons_append]
        exact ⟨_, rfl⟩
      | preload m fields =>
        obtain ⟨l, hl, hloads⟩ := h
        exact ih ⟨l, hl, hloads⟩
      | filter x => cases hc
      | collection r nested => cases hc

end Condition

namespace Link

variable {l : Link} {s : Loading}

theorem table_of_mem_own (h : s ∈ l.own) : s.table = l.table := by
  obtain h | h := List.mem_append.1 h
  · split at h
    · rw [List.mem_singleton.1 h]
    · cases h
  · obtain ⟨c, -, hc⟩ := List.mem_filterMap.1 h
    split at hc
    · cases hc
      rfl
    · cases hc

theorem exists_own_cons (h : l.join.loads = true) : ∃ fields rest,
    l.own ++ Condition.allLoadings l.table l.join.conditions = ⟨l.table, fields⟩ :: rest := by
  cases hown : l.own with
  | cons s rest =>
    have hs : s.table = l.table := table_of_mem_own (by simp [hown])
    exact ⟨s.fields, _, by rw [List.cons_append, ← hs]⟩
  | nil =>
    -- it loads because of a join in its conditions, whose loadings begin with that of its parent
    obtain ⟨hload, hnamed⟩ := List.append_eq_nil_iff.1 hown
    have hquiet : l.join.load = false := by
      by_contra hne
      simp [hne] at hload
    obtain ⟨c, hc, hloads⟩ : ∃ c ∈ l.join.conditions, c.loads = true := by
      rw [← List.any_eq_true, ← Condition.anyLoads_eq_any]
      simpa [Join.loads, Join.toCondition, Condition.loads, hquiet] using h
    have hbelow : ∃ l' ∈ Condition.allLinks l.table l.join.conditions, l'.join.loads = true := by
      cases c with
      | join r load inner =>
        refine ⟨⟨l.table, ⟨r, load, inner⟩⟩, ?_, hloads⟩
        rw [Condition.allLinks_eq_flatMap, List.mem_flatMap]
        exact ⟨_, hc, List.mem_cons_self⟩
      | preload m fields =>
        have hmem := List.filterMap_eq_nil_iff.1 hnamed _ hc
        cases hmem
      | filter x => cases hloads
      | collection r nested => cases hloads
    obtain ⟨rest, hrest⟩ := Condition.exists_loadings_cons (Table.isRoot_reach _ _) hbelow
    exact ⟨_, rest, hrest⟩

theorem loads_of_own (h : s ∈ l.own) : l.join.loads = true := by
  by_contra hquiet
  have hnone := Condition.loadings_of_quiet (Bool.eq_false_iff.2 hquiet)
  have hmem : s ∈ l.loadings := List.mem_append_right _ h
  rw [hnone] at hmem
  cases hmem

end Link

namespace Plan

open Condition

variable {d : Dialect} {root : Entity} {cs : List Condition} {l : Link} {s : Loading}

theorem exists_of_mem_ofParent {i : Nat} (hi : (allLinks (.root root) cs)[i]? = some l)
    (hs : s ∈ l.ofParent) :
    ∃ m l', m < i ∧ (allLinks (.root root) cs)[m]? = some l' ∧ l'.join.loads = true ∧
      s.table = l'.table := by
  rw [Link.ofParent] at hs
  split at hs
  · rename_i hparent
    simp only [Bool.and_eq_true, Bool.not_eq_true'] at hparent
    rw [List.mem_singleton.1 hs]
    obtain ⟨hroot, -⟩ | ⟨m, l', hm, hl', htable, hbelow⟩ := parent_of_allLinks (.root root) cs i l hi
    · rw [hroot] at hparent
      cases hparent.2
    · have hany : anyLoads l'.join.conditions = true := by
        rw [anyLoads_eq_any, List.any_eq_true]
        exact ⟨_, hbelow, hparent.1⟩
      exact ⟨m, l', hm, hl', by simp [Join.loads, Join.toCondition, loads, hany], htable⟩
  · cases hs

theorem exists_of_mem_loadings {i : Nat} (hi : (allLinks (.root root) cs)[i]? = some l)
    (hs : s ∈ l.loadings) :
    ∃ m l', m ≤ i ∧ (allLinks (.root root) cs)[m]? = some l' ∧ l'.join.loads = true ∧
      s.table = l'.table := by
  obtain hs | hs := List.mem_append.1 hs
  · obtain ⟨m, l', hm, hbefore⟩ := exists_of_mem_ofParent hi hs
    exact ⟨m, l', hm.le, hbefore⟩
  · exact ⟨i, l, Nat.le_refl i, hi, Link.loads_of_own hs, Link.table_of_mem_own hs⟩

theorem exists_of_mem_allLoadings (hs : s ∈ allLoadings (.root root) cs) :
    ∃ l ∈ allLinks (.root root) cs, l.join.loads = true ∧ s.table = l.table := by
  obtain ⟨l, hl, hs⟩ := List.mem_flatMap.1 hs
  obtain ⟨i, hi⟩ := List.mem_iff_getElem?.1 hl
  obtain ⟨m, l', -, hl', hsource⟩ := exists_of_mem_loadings hi hs
  exact ⟨l', List.mem_of_getElem? hl', hsource⟩

/-- What is loaded before the loadings of a join itself is of the joins before it. -/
theorem exists_before_of_mem {before after : List Link} (h : allLinks (.root root) cs = before ++ l :: after)
    (hs : s ∈ before.flatMap Link.loadings ++ l.ofParent) : ∃ l' ∈ before, s.table = l'.table := by
  have hbefore {m : Nat} {l' : Link} (hm : m < before.length)
      (hl' : (allLinks (.root root) cs)[m]? = some l') : l' ∈ before := by
    rw [h, List.getElem?_append_left hm] at hl'
    exact List.mem_of_getElem? hl'
  obtain hs | hs := List.mem_append.1 hs
  · obtain ⟨l', hl', hs⟩ := List.mem_flatMap.1 hs
    obtain ⟨i, hi, hget⟩ := List.getElem_of_mem hl'
    have hlink : (allLinks (.root root) cs)[i]? = some l' := by
      rw [h, List.getElem?_append_left hi, List.getElem?_eq_getElem hi, hget]
    obtain ⟨m, l'', hm, hl'', -, htable⟩ := exists_of_mem_loadings hlink hs
    exact ⟨l'', hbefore (Nat.lt_of_le_of_lt hm hi) hl'', htable⟩
  · have hlink : (allLinks (.root root) cs)[before.length]? = some l := by
      rw [h, List.getElem?_append_right (Nat.le_refl _), Nat.sub_self]
      rfl
    obtain ⟨m, l', hm, hl', -, htable⟩ := exists_of_mem_ofParent hlink hs
    exact ⟨l', hbefore hm hl', htable⟩

theorem mem_names_entries (hl : l ∈ allLinks (.root root) cs) (hloads : l.join.loads = true) :
    l.table.aliasName ∈ Entry.names (Loading.entries (allLoadings (.root root) cs)) := by
  obtain ⟨before, after, hlinks⟩ := exists_append_of_mem_allLinks cs hl
  obtain ⟨fields, rest, hown⟩ := Link.exists_own_cons hloads
  have hmem : ⟨l.table, fields⟩ ∈ allLoadings (.root root) cs := by
    have hbelow : ⟨l.table, fields⟩ ∈ l.own ++ allLoadings l.table l.join.conditions :=
      hown ▸ List.mem_cons_self
    rw [allLoadings, hlinks]
    simp only [List.flatMap_append, List.flatMap_cons, Link.loadings, List.mem_append] at hbelow ⊢
    tauto
  obtain ⟨e, he, halias, -⟩ := Loading.exists_of_mem_loadings hmem
  exact halias ▸ List.mem_map_of_mem he

section Distinct

variable (hcs : SiblingsDistinct cs)

include hcs

theorem eq_of_aliasName_table {l' : Link} (hl : l ∈ allLinks (.root root) cs)
    (hl' : l' ∈ allLinks (.root root) cs) (hname : l'.table.aliasName = l.table.aliasName) : l' = l :=
  List.inj_on_of_nodup_map (nodup_allLinks root hcs) hl' hl hname

theorem exists_loadings (hl : l ∈ allLinks (.root root) cs) :
    ∃ earlier later, allLoadings (.root root) cs =
        earlier ++ (l.own ++ allLoadings l.table l.join.conditions) ++ later ∧
      ∀ s ∈ earlier, ∀ l' ∈ l :: allLinks l.table l.join.conditions,
        s.table.aliasName ≠ l'.table.aliasName := by
  obtain ⟨before, after, hlinks⟩ := exists_append_of_mem_allLinks cs hl
  refine ⟨before.flatMap Link.loadings ++ l.ofParent, after.flatMap Link.loadings, ?_, ?_⟩
  · simp [allLoadings, hlinks, Link.loadings]
  · intro s hs l' hl' hname
    obtain ⟨l'', hl'', htable⟩ := exists_before_of_mem (by rw [hlinks, List.append_assoc]; rfl) hs
    have hnodup := nodup_allLinks root hcs
    rw [hlinks, List.append_assoc, List.map_append, List.nodup_append] at hnodup
    refine hnodup.2.2 _ (List.mem_map_of_mem hl'') _ (List.mem_map_of_mem (List.mem_append_left _ hl')) ?_
    rw [← htable, hname]

/-- A joined table has an entry if its join loads. -/
theorem mem_names_entries_iff (hl : l ∈ allLinks (.root root) cs) :
    l.table.aliasName ∈ Entry.names (Loading.entries (allLoadings (.root root) cs)) ↔
      l.join.loads = true := by
  constructor
  · intro hname
    obtain ⟨e, he, halias⟩ := List.mem_map.1 hname
    obtain ⟨s, hs, hsource, -⟩ := Loading.source_of_mem he
    obtain ⟨l', hl', hloads, htable⟩ := exists_of_mem_allLoadings hs
    have hsame : l' = l := eq_of_aliasName_table hcs hl hl' (by rw [← htable, hsource, halias])
    exact hsame ▸ hloads
  · exact mem_names_entries hl

theorem model_of_mem_entries (hl : l ∈ allLinks (.root root) cs) {e : Entry}
    (he : e ∈ Loading.entries (allLoadings (.root root) cs))
    (hname : e.aliasName = l.table.aliasName) : e.model = l.join.relation.target.name := by
  obtain ⟨s, hs, halias, hmodel⟩ := Loading.source_of_mem he
  obtain ⟨l', hl', -, htable⟩ := exists_of_mem_allLoadings hs
  have hsame : l' = l := eq_of_aliasName_table hcs hl hl' (by rw [← htable, halias, hname])
  rw [← hmodel, htable, hsame]
  rfl

/-- Before the entry of a joined table stand no entries of the tables below it. -/
theorem not_mem_names_before (hl : l ∈ allLinks (.root root) cs) {e : Entry} {before after : List Entry}
    (hentries : Loading.entries (allLoadings (.root root) cs) = before ++ e :: after)
    (hname : e.aliasName = l.table.aliasName) {l' : Link}
    (hl' : l' ∈ allLinks l.table l.join.conditions) : l'.table.aliasName ∉ Entry.names before := by
  have hloads : l.join.loads = true := by
    rw [← mem_names_entries_iff hcs hl, hentries, ← hname]
    exact List.mem_map_of_mem (by simp)
  obtain ⟨earlier, later, hloadings, hothers⟩ := exists_loadings hcs hl
  obtain ⟨fields, rest, hown⟩ := Link.exists_own_cons hloads
  have hearlier : ∀ l' ∈ l :: allLinks l.table l.join.conditions,
      l'.table.aliasName ∉ Entry.names (Loading.entries earlier) := by
    intro l' hl' hmem
    obtain ⟨e, he, halias⟩ := List.mem_map.1 hmem
    obtain ⟨s, hs, hsource, -⟩ := Loading.source_of_mem he
    exact hothers s hs l' hl' (hsource.trans halias)
  rw [hloadings, hown, List.append_assoc, List.cons_append] at hentries
  rw [Loading.names_before hentries hname.symm (hearlier l List.mem_cons_self)]
  exact hearlier l' (List.mem_cons_of_mem _ hl')

theorem mem_loadings (hl : l ∈ allLinks (.root root) cs)
    (hs : s ∈ l.own ++ allLoadings l.table l.join.conditions) :
    s ∈ allLoadings (.root root) cs := by
  obtain ⟨earlier, later, hloadings, -⟩ := exists_loadings hcs hl
  rw [hloadings]
  exact List.mem_append_left _ (List.mem_append_right _ hs)

end Distinct

/-- Where the joins of each scope follow relations of different names, the table of a join has an entry if
the join loads rows, as it does if one below it loads. The entry names the model. It has all columns of the
model if the join is to load its rows or has one below that loads, and the columns of all fields to load that
stand in the conditions of the join. It stands before the entries of all tables below. -/
theorem preloads_ofConditions (d : Dialect) (root : Entity) (cs : List Condition)
    (hcs : SiblingsDistinct cs) :
    let p := ofConditions d root cs
    ∀ l ∈ allLinks (.root root) cs,
      let below := allLinks l.table l.join.conditions
      ((∃ model columns, .joined model l.table.aliasName columns ∈ p.preloads) ↔ l.join.loads = true) ∧
      ((∃ l' ∈ below, l'.join.loads = true) → l.join.loads = true) ∧
      ∀ before model columns after,
        p.preloads = before ++ .joined model l.table.aliasName columns :: after →
          model = l.join.relation.target.name ∧
          (l.join.load = true ∨ (∃ l' ∈ below, l'.join.loads = true) →
            ∀ f ∈ l.join.relation.target.fields, f.columnName ∈ columns) ∧
          (∀ m fields, .preload m fields ∈ l.join.conditions → ∀ f ∈ fields, f.columnName ∈ columns) ∧
          ∀ l' ∈ below, ∀ model' columns', .joined model' l'.table.aliasName columns' ∉ before := by
  intro p l hl below
  have hentries : Preload.entries p.preloads =
      Loading.entries (allLoadings (.root root) cs) := entries_ofConditions d root cs
  refine ⟨?_, ?_, fun before model columns after hpreloads => ?_⟩
  · rw [← Preload.exists_mem_entries_iff, hentries, ← mem_names_entries_iff hcs hl, Entry.names, List.mem_map]
  · rintro ⟨l', hl', hloads⟩
    exact Bool.or_eq_true_iff.2 (.inr (anyLoads_of_mem_allLinks hloads _ hl'))
  · rw [hpreloads, Preload.entries_append_cons] at hentries
    have hmem : ⟨model, l.table.aliasName, columns⟩ ∈
        Loading.entries (allLoadings (.root root) cs) := by
      rw [← hentries]
      simp
    have hcolumns (fields : List Field)
        (hs : ⟨l.table, fields⟩ ∈ l.own ++ allLoadings l.table l.join.conditions) :
        ∀ f ∈ fields, f.columnName ∈ columns := fun f hf =>
      Loading.columns_subset hmem (mem_loadings hcs hl hs) rfl (List.mem_map_of_mem hf)
    refine ⟨model_of_mem_entries hcs hl hmem rfl, ?_, fun m fields hm => ?_,
      fun l' hl' model' columns' hx => ?_⟩
    · rintro (hload | hbelow)
      · refine hcolumns _ (List.mem_append_left _ ?_)
        simp [Link.own, hload]
      · -- the joins below load the table as a whole, to reach their rows through its rows
        obtain ⟨rest, hrest⟩ := exists_loadings_cons (Table.isRoot_reach _ _) hbelow
        exact hcolumns _ (List.mem_append_right _ (hrest ▸ List.mem_cons_self))
    · refine hcolumns fields (List.mem_append_left _ (List.mem_append_right _ ?_))
      exact List.mem_filterMap.2 ⟨_, hm, rfl⟩
    · obtain ⟨e, he, halias⟩ := Preload.exists_mem_entries_iff.2 ⟨model', columns', hx⟩
      exact not_mem_names_before hcs hl hentries.symm rfl hl' (halias ▸ List.mem_map_of_mem he)

def hydratedSellers : List Condition :=
  [.join Sample.employer false
    [.preload Sample.companyModel [Sample.companyName], .join Sample.holding true []]]

/-- The companies are loaded as a whole, before their holdings. -/
theorem preloads_hydratedSellers :
    let p := ofConditions .postgres Sample.seller hydratedSellers
    (∃ model columns, .joined model "company" columns ∈ p.preloads) ∧
    ∀ before model columns after, p.preloads = before ++ .joined model "company" columns :: after →
      (∀ f ∈ Sample.company.fields, f.columnName ∈ columns) ∧
      ∀ model' columns', .joined model' "company__holding" columns' ∉ before := by
  have hcs : SiblingsDistinct hydratedSellers :=
    ⟨List.nodup_singleton _, ⟨List.nodup_singleton _, trivial, ⟨List.nodup_nil, trivial⟩, trivial⟩, trivial⟩
  let company : Link := ⟨.root Sample.seller, Sample.employer, false,
    [.preload Sample.companyModel [Sample.companyName], .join Sample.holding true []]⟩
  let held : Link := ⟨company.table, Sample.holding, true, []⟩
  have hcompany : company.table.aliasName = "company" := by decide +kernel
  have hheld : held.table.aliasName = "company__holding" := by decide +kernel
  have hbelow : held ∈ allLinks company.table company.join.conditions := List.mem_cons_self
  obtain ⟨hentry, -, hplan⟩ :=
    preloads_ofConditions .postgres Sample.seller hydratedSellers hcs company List.mem_cons_self
  rw [hcompany] at hentry hplan
  refine ⟨hentry.2 rfl, fun before model columns after h => ?_⟩
  obtain ⟨-, hfields, -, hbefore⟩ := hplan before model columns after h
  exact ⟨hfields (.inr ⟨held, hbelow, rfl⟩), hheld ▸ hbefore held hbelow⟩

end Plan
end Joinery
