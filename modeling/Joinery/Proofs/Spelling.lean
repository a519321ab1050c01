import Joinery.Proofs.Names
import Joinery.Proofs.Plans

/-! Names spelled in a class of characters.
When the tables and columns of models are spelled in a class that holds the characters of names in snake
case, so is every name that a plan gives to a table, whatever the relations are called. -/
namespace Joinery

def Spelled (ok : Char → Bool) (s : String) : Prop :=
  ∀ c ∈ s.toList, ok c = true

instance (ok : Char → Bool) (s : String) : Decidable (Spelled ok s) :=
  decidable_of_iff (s.toList.all ok = true) List.all_eq_true

/-- A class of characters with those of names and the dot between a table and its column. -/
structure NameClass (ok : Char → Bool) : Prop where
  name : ∀ c, Text.isNameChar c = true → ok c = true
  dot : ok '.' = true

variable {ok : Char → Bool}

theorem Spelled.append {s t : String} (hs : Spelled ok s) (ht : Spelled ok t) :
    Spelled ok (s ++ t) := by
  intro c hc
  rw [String.toList_append, List.mem_append] at hc
  exact hc.elim (hs c) (ht c)

theorem Spelled.join {ss : List String} (h : ∀ s ∈ ss, Spelled ok s) :
    Spelled ok (String.join ss) := by
  intro c hc
  rw [String.toList_join, List.mem_flatMap] at hc
  obtain ⟨s, hs, hc⟩ := hc
  exact h s hs c hc

theorem Spelled.intercalate {separator : String} {ss : List String} (hs : Spelled ok separator)
    (h : ∀ s ∈ ss, Spelled ok s) : Spelled ok (String.intercalate separator ss) := by
  intro c hc
  rw [String.toList_intercalate] at hc
  obtain hc | ⟨l, hl, hc⟩ := Text.mem_intercalate hc
  · exact hs c hc
  · obtain ⟨s, hmem, rfl⟩ := List.mem_map.1 hl
    exact h s hmem c hc

theorem NameClass.snakeCase (hok : NameClass ok) (s : String) : Spelled ok (Text.snakeCase s) :=
  fun c hc => hok.name c (Text.isNameChar_snakeCase s c hc)

structure Model.Spelled (ok : Char → Bool) (m : Model) : Prop where
  table : Joinery.Spelled ok m.table
  primaryKey : Joinery.Spelled ok m.primaryKey
  deletedAt : ∀ mark, m.deletedAt = some mark → Joinery.Spelled ok mark

structure Field.Spelled (ok : Char → Bool) (f : Field) : Prop where
  model : f.model.Spelled ok
  column : ∀ column, f.column = some column → Joinery.Spelled ok column

structure Entity.Spelled (ok : Char → Bool) (e : Entity) : Prop where
  model : e.toModel.Spelled ok
  fields : ∀ f ∈ e.fields, f.Spelled ok

structure Relation.Spelled (ok : Char → Bool) (r : Relation) : Prop where
  target : r.target.Spelled ok
  localColumn : Joinery.Spelled ok r.localColumn
  foreignColumn : Joinery.Spelled ok r.foreignColumn

theorem Field.Spelled.columnName (hok : NameClass ok) {f : Field} (h : f.Spelled ok) :
    Joinery.Spelled ok f.columnName := by
  unfold Field.columnName
  split
  · rename_i column hcolumn
    exact h.column column hcolumn
  · exact hok.snakeCase f.name

structure Table.Spelled (ok : Char → Bool) (t : Table) : Prop where
  entity : t.entity.Spelled ok
  aliasName : Joinery.Spelled ok t.aliasName

namespace Table

theorem Spelled.root {e : Entity} (h : e.Spelled ok) : (root e).Spelled ok :=
  ⟨h, h.model.table⟩

theorem Spelled.reach (hok : NameClass ok) {t : Table} (ht : t.Spelled ok) {r : Relation}
    (hr : r.Spelled ok) : (t.reach r).Spelled ok where
  entity := hr.target
  aliasName := by
    have hname := hok.snakeCase r.name
    have hline : Joinery.Spelled ok "__" := by
      intro c hc
      rw [show c = '_' by simpa using hc]
      exact hok.name '_' (by decide)
    simp only [Table.reach]
    split
    · exact hname
    · exact (ht.aliasName.append hline).append hname

theorem Spelled.column (hok : NameClass ok) {t : Table} (ht : t.Spelled ok) {name : String}
    (h : Joinery.Spelled ok name) : Joinery.Spelled ok (t.column name) := by
  refine (ht.aliasName.append ?_).append h
  intro c hc
  rw [show c = '.' by simpa using hc]
  exact hok.dot

theorem Spelled.keyEquality {t : Table} (h : t.Spelled ok) (hok : NameClass ok) {r : Relation}
    (hr : r.Spelled ok) :
    Joinery.Spelled ok ((t.reach r).column r.foreignColumn) ∧
      Joinery.Spelled ok (t.column r.localColumn) :=
  ⟨(h.reach hok hr).column hok hr.foreignColumn, h.column hok hr.localColumn⟩

end Table

def Requirement.Spells (q : Requirement) (ok : Char → Bool) : Prop :=
  (∀ f, q.field f → f.Spelled ok) ∧ ∀ r, q.relation r → r.Spelled ok

/-- Every join of spelled conditions starts from a spelled table and follows a spelled relation, and its own
conditions are as required. -/
theorem Condition.spelled_links (hok : NameClass ok) {q : Requirement} (hq : q.Spells ok)
    {c : Condition} {t : Table} (ht : t.Spelled ok) (hc : c.Meets q t) :
    ∀ l ∈ c.links t, l.parent.Spelled ok ∧ l.join.relation.Spelled ok ∧
      AllMeet q l.table l.join.conditions := by
  induction c using Condition.induct generalizing t with
  | filter p => simp [links]
  | preload m fields => simp [links]
  | collection r nested ih => simp [links]
  | join r load cs ih =>
    have hr := hq.2 r hc.1
    intro l hl
    rw [links, List.mem_cons, allLinks_eq_flatMap, List.mem_flatMap] at hl
    obtain rfl | ⟨c, hcs, hl⟩ := hl
    · exact ⟨ht, hr, hc.2⟩
    · exact ih c hcs (ht.reach hok hr) (allMeet_iff.1 hc.2 c hcs) l hl

namespace Plan

variable {d : Dialect} {root : Entity} {cs : List Condition}

theorem spelled_links (hok : NameClass ok) {q : Requirement} (hq : q.Spells ok)
    (hroot : root.Spelled ok) (hcs : Condition.AllMeet q (.root root) cs) :
    ∀ l ∈ Condition.allLinks (.root root) cs, l.parent.Spelled ok ∧ l.join.relation.Spelled ok ∧
      Condition.AllMeet q l.table l.join.conditions := by
  intro l hl
  rw [Condition.allLinks_eq_flatMap, List.mem_flatMap] at hl
  obtain ⟨c, hc, hl⟩ := hl
  exact Condition.spelled_links hok hq (.root hroot) (Condition.allMeet_iff.1 hcs c hc) l hl

theorem spelled_tables (hok : NameClass ok) {q : Requirement} (hq : q.Spells ok)
    (hroot : root.Spelled ok) (hcs : Condition.AllMeet q (.root root) cs) :
    ∀ t ∈ (ofConditions d root cs).tables, t.Spelled ok := by
  intro t ht
  rw [tables_ofConditions, List.mem_cons, List.mem_map] at ht
  obtain rfl | ⟨l, hl, rfl⟩ := ht
  · exact .root hroot
  · obtain ⟨hparent, hr, -⟩ := spelled_links hok hq hroot hcs l hl
    exact hparent.reach hok hr

theorem spelled_aliasFor {p : Plan} (hp : ∀ t ∈ p.tables, t.Spelled ok) {f : Field}
    (hf : f.model.Spelled ok) {aliasName : String} (h : p.aliasFor f = .ok aliasName) :
    Spelled ok aliasName := by
  obtain ⟨-, rfl⟩ | ⟨t, ht, -, rfl⟩ := aliasFor_eq_ok h
  · exact hf.table
  · exact (hp t ht).aliasName

end Plan
end Joinery
