import Joinery.Proofs.Plans
import Joinery.Statement

/-! The three kinds of statement under one type, as they are built before they are compiled. -/
namespace Joinery

inductive Builder where
  | query (q : Query)
  | update (u : Update)
  | delete (x : Delete)
deriving Repr

namespace Builder

def root : Builder → Entity
  | .query q => q.root
  | .update u => u.root
  | .delete x => x.root

def conditions : Builder → List Condition
  | .query q => q.conditions
  | .update u => u.conditions
  | .delete x => x.conditions

def plan (b : Builder) (d : Dialect) : Plan :=
  .ofConditions d b.root b.conditions

def toSql (b : Builder) (d : Dialect) : Except QueryError Sql :=
  match b with
  | .query q => q.toSql (b.plan d)
  | .update u => u.toSql (b.plan d)
  | .delete x => x.toSql (b.plan d)

def compile (b : Builder) (d : Dialect) : Except QueryError Statement :=
  match b with
  | .query q => q.compile d
  | .update u => u.compile d
  | .delete x => x.compile d

variable {b : Builder} {d : Dialect}

theorem compile_eq_ok {s : Statement} (h : b.compile d = .ok s) :
    ∃ q, b.toSql d = .ok q ∧ s = .ofSql q d s.preloads := by
  cases b with
  | query q =>
    simp only [compile, Query.compile, bind_eq_ok, pure_eq_ok] at h
    obtain ⟨sql, hsql, rfl⟩ := h
    exact ⟨sql, hsql, rfl⟩
  | update u =>
    simp only [compile, Update.compile] at h
    split at h
    · cases h
    · split at h
      · cases h
      · simp only [bind_eq_ok, pure_eq_ok] at h
        obtain ⟨sql, hsql, rfl⟩ := h
        exact ⟨sql, hsql, rfl⟩
  | delete x =>
    simp only [compile, Delete.compile] at h
    split at h
    · cases h
    · simp only [bind_eq_ok, pure_eq_ok] at h
      obtain ⟨sql, hsql, rfl⟩ := h
      exact ⟨sql, hsql, rfl⟩

end Builder
end Joinery
