import Joinery.Proofs.Placeholder.Filter
import Joinery.Proofs.Placeholder.Quoting
import Joinery.Statement

/-! Alignment of the columns that a statement selects and of the tables that it joins.
A label stands between quotes, and a scan passes over quoted text. -/
namespace Joinery

open Sql (Plain Neutral Aligned)

variable {d : Dialect}

def Selection.Plain (s : Selection) : Prop :=
  Sql.Plain s.aliasName ∧ Sql.Plain s.column

theorem Selection.neutral_text {s : Selection} (h : s.Plain) :
    Neutral d.backslashEscapes (s.text d) := by
  have hname : Sql.Plain (s.aliasName ++ "." ++ s.column ++ " AS ") :=
    ((h.1.append (by decide)).append h.2).append (by decide)
  exact (Sql.neutral_of_plain hname).append
    (d.neutral_quote _)

namespace Plan

def Selects (p : Plan) : Prop :=
  ∀ s ∈ p.selections, s.Plain

theorem selects_load {p : Plan} (hp : p.Selects) {t : Table} (ht : t.Spelled isPlain)
    {fields : List Field} (hfields : ∀ f ∈ fields, f.Spelled isPlain) :
    (p.load t fields).Selects := by
  have hcolumns : ∀ c ∈ fields.map Field.columnName, Plain c := by
    intro c hc
    obtain ⟨f, hf, rfl⟩ := List.mem_map.1 hc
    exact (hfields f hf).columnName nameClass_isPlain
  intro s hs
  simp only [load] at hs
  rw [List.mem_append, List.mem_map] at hs
  obtain hs | ⟨c, hc, rfl⟩ := hs
  · exact hp s hs
  · refine ⟨ht.aliasName, hcolumns c ?_⟩
    split at hc
    · exact List.mem_of_mem_filter hc
    · exact hc

/-- Whether every join is written plainly. -/
def JoinsPlainly (p : Plan) : Prop :=
  ∀ j ∈ p.joins, Plain j.clause ∧ Plain j.source ∧ Plain j.on

theorem plain_planned {l : Link} (hparent : l.parent.Spelled isPlain)
    (hr : l.join.relation.Spelled isPlain) :
    Plain l.planned.clause ∧ Plain l.planned.source ∧ Plain l.planned.on := by
  have hreach := hparent.reach nameClass_isPlain hr
  have hon : Plain l.planned.on := by
    refine (plain_keyEquality hparent hr).append ?_
    split
    · rename_i live hlive
      exact Spelled.append (by decide) (plain_liveness hreach hlive)
    · decide
  have htable : Plain l.planned.table := hr.target.model.table
  have halias : Plain l.planned.aliasName := hreach.aliasName
  have hkind : Plain l.planned.kind.text := by
    cases l.planned.kind <;> decide
  refine ⟨?_, (htable.append (by decide)).append halias, hon⟩
  exact (((((hkind.append (by decide)).append htable).append (by decide)).append halias).append
    (by decide)).append hon

variable {root : Entity} {cs : List Condition}

theorem spelled_loadings (hroot : root.Spelled isPlain)
    (hcs : Condition.AllMeet (.bindable d) (.root root) cs) :
    ∀ s ∈ Condition.allLoadings (.root root) cs,
      s.table.Spelled isPlain ∧ ∀ f ∈ s.fields, f.Spelled isPlain := by
  intro s hs
  obtain ⟨l, hl, hs⟩ := List.mem_flatMap.1 hs
  obtain ⟨hparent, hr, hinner⟩ :=
    spelled_links nameClass_isPlain (Requirement.bindable_spells d) hroot hcs l hl
  have hreach : l.table.Spelled isPlain := hparent.reach nameClass_isPlain hr
  simp only [Link.loadings, Link.ofParent, Link.own, List.mem_append] at hs
  obtain hs | hs | hs := hs
  · split at hs
    · rw [List.mem_singleton.1 hs]
      exact ⟨hparent, hparent.entity.fields⟩
    · cases hs
  · split at hs
    · rw [List.mem_singleton.1 hs]
      exact ⟨hreach, hr.target.fields⟩
    · cases hs
  · obtain ⟨c, hc, hnamed⟩ := List.mem_filterMap.1 hs
    split at hnamed
    · rename_i m fields
      cases hnamed
      exact ⟨hreach, fun f hf => (Condition.allMeet_iff.1 hinner _ hc f hf).1⟩
    · cases hnamed

theorem selects_ofConditions (hroot : root.Spelled isPlain)
    (hcs : Condition.AllMeet (.bindable d) (.root root) cs) : (ofConditions d root cs).Selects := by
  refine invariant_ofConditions (fun s hs => nomatch hs) fun p s hs hp => ?_
  cases s with
  | join l => exact hp
  | load s =>
    have hloading : s ∈ Condition.allLoadings (.root root) cs := by
      rw [← Condition.loadings_allSteps (.root root) ""]
      exact List.mem_filterMap.2 ⟨_, hs, rfl⟩
    obtain ⟨htable, hfields⟩ := spelled_loadings hroot hcs s hloading
    exact selects_load hp htable hfields
  | collection model path => exact hp

theorem joins_plain (hroot : root.Spelled isPlain)
    (hcs : Condition.AllMeet (.bindable d) (.root root) cs) : (ofConditions d root cs).JoinsPlainly := by
  intro j hj
  rw [joins_ofConditions] at hj
  obtain ⟨l, hl, rfl⟩ := List.mem_map.1 hj
  obtain ⟨hparent, hr, -⟩ :=
    spelled_links nameClass_isPlain (Requirement.bindable_spells d) hroot hcs l hl
  exact plain_planned hparent hr

end Plan
end Joinery
