import Joinery.Proofs.Aliases
import Joinery.Proofs.Samples
import Joinery.Proofs.Scoping.Numbers
import Mathlib.Data.List.Nodup

/-! Names that tell tables and columns apart.
Where the joins of each scope follow relations of different names, all tables of a statement have names of
their own. Where no column could be taken for a separator and a rest, its label tells a column from those of
all tables. -/
namespace Joinery

namespace Condition

/-- The names of the relations that the joins of a list follow, as they stand in the names of tables. -/
def joinNames (cs : List Condition) : List String :=
  (cs.filterMap join?).map fun j => Text.snakeCase j.relation.name

mutual

/-- Whether in the scopes within a condition no two joins follow relations of one name. -/
def Distinct : Condition → Prop
  | .filter _ => True
  | .join _ _ cs => (joinNames cs).Nodup ∧ AllDistinct cs
  | .preload _ _ => True
  | .collection _ _ => True

def AllDistinct : List Condition → Prop
  | [] => True
  | c :: rest => Distinct c ∧ AllDistinct rest

end

/-- Whether in no scope of the conditions two joins follow relations of one name. -/
def SiblingsDistinct (cs : List Condition) : Prop :=
  (joinNames cs).Nodup ∧ AllDistinct cs

def joinKey (s : Nat × Join) : Nat × String :=
  (s.1, Text.snakeCase s.2.relation.name)

def joinKeys (os : List Numbered) : List (Nat × String) :=
  (os.filterMap Numbered.join?).map joinKey

theorem joinKeys_append (os os' : List Numbered) : joinKeys (os ++ os') = joinKeys os ++ joinKeys os' := by
  simp [joinKeys]

theorem exists_of_mem_joinKeys {os : List Numbered} {key : Nat × String} (h : key ∈ joinKeys os) :
    ∃ o ∈ os, o.scope = key.1 := by
  obtain ⟨s, hs, rfl⟩ := List.mem_map.1 h
  obtain ⟨o, ho, hjoin⟩ := List.mem_filterMap.1 hs
  obtain ⟨j, -, rfl⟩ := Option.map_eq_some_iff.1 hjoin
  exact ⟨o, ho, rfl⟩

theorem joinNames_cons (c : Condition) (rest : List Condition) :
    joinNames (c :: rest) = joinNames [c] ++ joinNames rest := by
  rw [joinNames, ← List.singleton_append, List.filterMap_append, List.map_append]
  rfl

theorem mem_joinNames_of_mem_numbered {scope next : Nat} (h : scope < next) {c : Condition}
    {name : String} (hname : (scope, name) ∈ joinKeys (c.numbered scope next)) : name ∈ joinNames [c] := by
  cases c with
  | join r load cs =>
    obtain hown | hinner := List.mem_cons.1 hname
    · cases hown
      exact List.mem_cons_self
    · obtain ⟨o, ho, hscope⟩ := exists_of_mem_joinKeys hinner
      have hbelow := scope_of_mem_allNumbered cs o ho
      simp only at hscope
      omega
  | _ => cases hname

theorem mem_joinNames_of_mem_allNumbered {scope next : Nat} (h : scope < next) {cs : List Condition}
    {name : String} (hname : (scope, name) ∈ joinKeys (allNumbered scope next cs)) :
    name ∈ joinNames cs := by
  induction cs generalizing next with
  | nil => cases hname
  | cons c rest ih =>
    rw [allNumbered, joinKeys_append] at hname
    rw [joinNames_cons]
    obtain hfirst | hrest := List.mem_append.1 hname
    · exact List.mem_append_left _ (mem_joinNames_of_mem_numbered h hfirst)
    · exact List.mem_append_right _ (ih (Nat.lt_add_right c.joinCount h) hrest)

mutual

theorem nodup_joinKeys_numbered {scope next : Nat} (h : scope < next) :
    (c : Condition) → c.Distinct → (joinKeys (c.numbered scope next)).Nodup
  | .join r load cs => by
    intro hc
    have hinner := nodup_joinKeys_allNumbered (Nat.lt_succ_self next) cs hc
    refine List.nodup_cons.2 ⟨fun hmem => ?_, hinner⟩
    obtain ⟨o, ho, hscope⟩ := exists_of_mem_joinKeys hmem
    have hbelow := scope_of_mem_allNumbered cs o ho
    simp only [joinKey] at hscope
    omega
  | .filter _ => fun _ => List.nodup_nil
  | .preload _ _ => fun _ => List.nodup_nil
  | .collection _ _ => fun _ => List.nodup_nil

theorem nodup_joinKeys_allNumbered {scope next : Nat} (h : scope < next) :
    (cs : List Condition) → SiblingsDistinct cs → (joinKeys (allNumbered scope next cs)).Nodup
  | [] => fun _ => List.nodup_nil
  | c :: rest => by
    rintro ⟨hnames, hc, hrest⟩
    rw [joinNames_cons, List.nodup_append] at hnames
    have hlater : scope < next + c.joinCount := Nat.lt_add_right c.joinCount h
    have hfirst := nodup_joinKeys_numbered h c hc
    have hothers := nodup_joinKeys_allNumbered hlater rest ⟨hnames.2.1, hrest⟩
    rw [allNumbered, joinKeys_append, List.nodup_append]
    refine ⟨hfirst, hothers, ?_⟩
    rintro ⟨k, name⟩ hkey _ hkey' rfl
    -- both are in the scope of the list itself, or the first of them below the first condition
    obtain ⟨o, ho, hscope⟩ := exists_of_mem_joinKeys hkey
    obtain ⟨o', ho', hscope'⟩ := exists_of_mem_joinKeys hkey'
    have hlt := scope_of_mem_numbered c o ho
    have hge := scope_of_mem_allNumbered rest o' ho'
    simp only at hscope hscope'
    obtain rfl : k = scope := by omega
    exact hnames.2.2 name (mem_joinNames_of_mem_numbered h hkey)
      name (mem_joinNames_of_mem_allNumbered hlater hkey') rfl

end

end Condition

namespace Plan

open Condition

variable {d : Dialect} {root : Entity} {cs : List Condition} {i k i' k' : Nat} {j j' : Join}

theorem table_zero : (ofConditions d root cs).table 0 = .root root := by
  rw [table, tables_ofConditions]
  rfl

theorem table_succ (h : (numberedJoins cs)[i]? = some (k, j)) :
    (ofConditions d root cs).table (i + 1) = ((ofConditions d root cs).table k).reach j.relation := by
  obtain ⟨-, -, ht, -⟩ := join_ofConditions d root h
  rw [table, ht]
  rfl

theorem scope_of_join (h : (numberedJoins cs)[i]? = some (k, j)) :
    k = 0 ∨ ∃ m k' j', k = m + 1 ∧ m < i ∧ (numberedJoins cs)[m]? = some (k', j') := by
  have hk := scope_lt_of_getElem?_all Nat.zero_lt_one cs i k j h
  have hi := (List.getElem?_eq_some_iff.1 h).1
  cases k with
  | zero => exact .inl rfl
  | succ m =>
    have hm : m < (numberedJoins cs).length := by omega
    exact .inr ⟨m, _, _, rfl, by omega, List.getElem?_eq_getElem hm⟩

/-- Joins are told apart by the names of their tables, if within each scope they are. -/
theorem eq_of_aliasName (hcs : SiblingsDistinct cs) (h : (numberedJoins cs)[i]? = some (k, j))
    (h' : (numberedJoins cs)[i']? = some (k', j'))
    (hname : ((ofConditions d root cs).table (i + 1)).aliasName =
      ((ofConditions d root cs).table (i' + 1)).aliasName) : i = i' := by
  induction i using Nat.strong_induction_on generalizing i' k k' j j' with
  | h i ih =>
    rw [table_succ h, table_succ h', Table.aliasName_reach_eq_iff] at hname
    obtain ⟨hroot, hparent, hrelation⟩ := hname
    have hscope : k = k' := by
      obtain rfl | ⟨m, l, a, rfl, hm, hjoin⟩ := scope_of_join h
      · obtain rfl | ⟨m', l', a', rfl, -, hjoin'⟩ := scope_of_join h'
        · rfl
        · rw [table_zero, table_succ hjoin'] at hroot
          cases hroot
      · obtain rfl | ⟨m', l', a', rfl, -, hjoin'⟩ := scope_of_join h'
        · rw [table_zero, table_succ hjoin] at hroot
          cases hroot
        · have hsame := hparent (by rw [table_succ hjoin, Table.isRoot_reach])
          rw [ih m hm hjoin hjoin' hsame]
    have hkeys := nodup_joinKeys_allNumbered Nat.zero_lt_one cs hcs
    have hkey : (joinKeys (allNumbered 0 1 cs))[i]? = some (k, Text.snakeCase j.relation.name) := by
      rw [joinKeys, List.getElem?_map, ← numberedJoins, h]
      rfl
    have hkey' : (joinKeys (allNumbered 0 1 cs))[i']? = some (k, Text.snakeCase j.relation.name) := by
      rw [joinKeys, List.getElem?_map, ← numberedJoins, h', hscope, hrelation]
      rfl
    exact (List.getElem?_inj (List.getElem?_eq_some_iff.1 hkey).1 hkeys).1 (hkey.trans hkey'.symm)

/-- The joins of a statement have tables with names of their own, if within each scope they do. -/
theorem nodup_allLinks (root : Entity) (hcs : SiblingsDistinct cs) :
    ((allLinks (.root root) cs).map fun l => l.table.aliasName).Nodup := by
  let p := ofConditions .postgres root cs
  have hlinks : (allLinks (.root root) cs).map (fun l => l.table.aliasName) =
      (numberedJoins cs).map fun s => ((p.table s.1).reach s.2.relation).aliasName := by
    rw [allLinks_ofConditions (d := .postgres), List.map_map]
    rfl
  rw [hlinks, List.nodup_iff_getElem?_ne_getElem?]
  intro i i' hlt hi' hsame
  rw [List.length_map] at hi'
  have hi : i < (numberedJoins cs).length := hlt.trans hi'
  have hjoin := List.getElem?_eq_getElem hi
  have hjoin' := List.getElem?_eq_getElem hi'
  rw [List.getElem?_map, List.getElem?_map, hjoin, hjoin'] at hsame
  have hname : (p.table (i + 1)).aliasName = (p.table (i' + 1)).aliasName := by
    rw [table_succ hjoin, table_succ hjoin']
    exact Option.some.inj hsame
  exact Nat.ne_of_lt hlt (eq_of_aliasName hcs hjoin hjoin' hname)

/-- No join has a table with the name of the root, if no relation of the root is called like that, and the
name is no path. -/
theorem aliasName_ne_root (hroot : ¬ "__".toList <:+: root.table.toList) (hfirst : root.table ∉ joinNames cs)
    {l : Link} (hl : l ∈ allLinks (.root root) cs) : l.table.aliasName ≠ root.table := by
  intro hname
  rw [allLinks_ofConditions (d := .postgres)] at hl
  obtain ⟨⟨k, j⟩, hs, rfl⟩ := List.mem_map.1 hl
  obtain ⟨i, hi⟩ := List.mem_iff_getElem?.1 hs
  rw [Link.table] at hname
  obtain rfl | ⟨m, k', j', rfl, -, hjoin⟩ := scope_of_join hi
  · have hkey : (0, Text.snakeCase j.relation.name) ∈ joinKeys (allNumbered 0 1 cs) :=
      List.mem_map_of_mem (f := joinKey) hs
    rw [table_zero, Table.aliasName_reach_root rfl] at hname
    exact hfirst (hname ▸ mem_joinNames_of_mem_allNumbered Nat.zero_lt_one hkey)
  · rw [table_succ hjoin, Table.aliasName_reach (Table.isRoot_reach _ _)] at hname
    refine hroot (hname ▸ ?_)
    rw [String.toList_append, String.toList_append]
    exact List.infix_append _ _ _

end Plan

theorem Text.isChain_apart_cons {s : String} (hdouble : ¬ "__".toList <:+: s.toList)
    (hstart : ¬ "_".toList <+: s.toList) : List.IsChain Text.Apart ('_' :: s.toList) := by
  rw [List.isChain_cons]
  refine ⟨fun c hc => ?_, ?_⟩
  · obtain ⟨rest, hrest⟩ := List.head?_eq_some_iff.1 hc
    refine .inr fun hunderscore => hstart ⟨rest, ?_⟩
    rw [hrest, hunderscore]
    rfl
  · rw [List.isChain_iff_forall_rel_of_append_cons_cons]
    intro a b before after hs
    by_contra hboth
    obtain ⟨ha, hb⟩ := not_or.1 hboth
    refine hdouble ⟨before, after, ?_⟩
    rw [hs, not_not.1 ha, not_not.1 hb]
    simp

/-- A label gives back the name of the table and the column, if no separator can begin in the column. -/
theorem Selection.label_inj {s s' : Selection}
    (hs : ¬ "__".toList <:+: s.column.toList ∧ ¬ "_".toList <+: s.column.toList)
    (hs' : ¬ "__".toList <:+: s'.column.toList ∧ ¬ "_".toList <+: s'.column.toList)
    (h : s.label = s'.label) : s = s' := by
  have hlabels : s.aliasName.toList ++ '_' :: '_' :: s.column.toList =
      s'.aliasName.toList ++ '_' :: '_' :: s'.column.toList := by
    simpa [label] using congrArg String.toList h
  have hsame := Text.append_underscores_inj (Text.isChain_apart_cons hs.1 hs.2)
    (Text.isChain_apart_cons hs'.1 hs'.2) hlabels
  cases s
  cases s'
  exact congr_arg₂ mk (String.toList_inj.1 hsame.1) (String.toList_inj.1 hsame.2)

namespace Plan

open Condition

variable {d : Dialect} {root : Entity} {cs : List Condition}

/-- The tables of a statement have names of their own, if the joins of each scope follow relations of
different names, none of them from the root is called like the root, and the name of the root is no path. The
labels of the selected columns then tell the columns apart, if no separator can begin in a column. -/
theorem names_distinct (d : Dialect) (root : Entity) (cs : List Condition)
    (hroot : ¬ "__".toList <:+: root.table.toList) (hcs : SiblingsDistinct cs)
    (hfirst : root.table ∉ joinNames cs) :
    let p := ofConditions d root cs
    (p.tables.map Table.aliasName).Nodup ∧
    ((∀ s ∈ p.selections, ¬ "__".toList <:+: s.column.toList ∧ ¬ "_".toList <+: s.column.toList) →
      ∀ s ∈ p.selections, ∀ s' ∈ p.selections, s.label = s'.label → s = s') := by
  intro p
  refine ⟨?_, fun hcolumns s hs s' hs' => Selection.label_inj (hcolumns s hs) (hcolumns s' hs')⟩
  rw [tables_ofConditions, List.map_cons, List.map_map, List.nodup_cons]
  refine ⟨fun hmem => ?_, nodup_allLinks root hcs⟩
  obtain ⟨l, hl, hname⟩ := List.mem_map.1 hmem
  exact aliasName_ne_root hroot hfirst hl hname

def loadedSellers : List Condition :=
  [.join Sample.employer true [.join Sample.holding true []]]

/-- Sellers, companies and holdings are told apart, with all of their columns. -/
theorem names_loadedSellers :
    let p := ofConditions .postgres Sample.seller loadedSellers
    p.tables.map Table.aliasName = ["sellers", "company", "company__holding"] ∧
    (p.tables.map Table.aliasName).Nodup ∧
    ∀ s ∈ p.selections, ∀ s' ∈ p.selections, s.label = s'.label → s = s' := by
  have hcs : SiblingsDistinct loadedSellers :=
    ⟨List.nodup_singleton _, ⟨List.nodup_singleton _, ⟨List.nodup_nil, trivial⟩, trivial⟩, trivial⟩
  obtain ⟨hnames, hlabels⟩ := names_distinct .postgres Sample.seller loadedSellers (by decide +kernel) hcs
    (by decide +kernel)
  exact ⟨by decide +kernel, hnames, hlabels (by decide +kernel)⟩

end Plan
end Joinery
