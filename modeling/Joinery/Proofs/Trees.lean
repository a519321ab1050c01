import Joinery.Filter
import Mathlib.Data.List.Forall2

/-! Trees of predicates and conditions: induction over them, and what can be asked of their parts.
A tree is typed over a model when its fields and relations belong to the models of their scopes, as
the handles that build trees enforce. -/
namespace Joinery

/-- Induction over predicates, with the hypothesis for every child of a node. -/
@[elab_as_elim]
theorem Predicate.induct {motive : Predicate → Prop}
    (compare : ∀ f o values escape, motive (.compare f o values escape))
    (compareFields : ∀ f o operands, motive (.compareFields f o operands))
    (connect : ∀ c ps, (∀ p ∈ ps, motive p) → motive (.connect c ps))
    (related : ∀ r ps, (∀ p ∈ ps, motive p) → motive (.related r ps))
    (raw : ∀ sql values, motive (.raw sql values)) (p : Predicate) : motive p :=
  @Predicate.rec motive (fun ps => ∀ p ∈ ps, motive p) compare compareFields connect related raw
    (fun _ h => nomatch h) (fun _ _ hp hps => List.forall_mem_cons.2 ⟨hp, hps⟩) p

/-- Induction over conditions, with the hypothesis for every condition below a node. -/
@[elab_as_elim]
theorem Condition.induct {motive : Condition → Prop}
    (filter : ∀ p, motive (.filter p))
    (join : ∀ r load cs, (∀ c ∈ cs, motive c) → motive (.join r load cs))
    (preload : ∀ m fields, motive (.preload m fields))
    (collection : ∀ r nested, (∀ c ∈ nested, motive c) → motive (.collection r nested))
    (c : Condition) : motive c :=
  @Condition.rec motive (fun cs => ∀ c ∈ cs, motive c) filter join preload collection
    (fun _ h => nomatch h) (fun _ _ hc hcs => List.forall_mem_cons.2 ⟨hc, hcs⟩) c

/-- What is asked of the parts of a tree: of its fields, of its relations, and of raw SQL in the scope
of a table. -/
structure Requirement where
  field : Field → Prop
  relation : Relation → Prop
  raw : Table → String → List Value → Prop

namespace Predicate

mutual

def Meets (q : Requirement) (t : Table) : Predicate → Prop
  | .compare f _ _ _ => q.field f
  | .compareFields f _ operands => q.field f ∧ ∀ g, .field g ∈ operands → q.field g
  | .connect _ ps => AllMeet q t ps
  | .related r ps => q.relation r ∧ AllMeet q (t.reach r) ps
  | .raw sql values => q.raw t sql values

def AllMeet (q : Requirement) (t : Table) : List Predicate → Prop
  | [] => True
  | p :: rest => Meets q t p ∧ AllMeet q t rest

end

theorem allMeet_iff {q : Requirement} {t : Table} {ps : List Predicate} :
    AllMeet q t ps ↔ ∀ p ∈ ps, p.Meets q t := by
  induction ps with
  | nil => simp [AllMeet]
  | cons p rest ih => simp [AllMeet, ih]

mutual

/-- Whether a predicate is one that the constructors of predicates on a model can give. -/
def Typed (m : Model) : Predicate → Prop
  | .compare f o values escape =>
    f.model = m ∧ o.check values.length = .ok () ∧ (escape.isSome → o = .like)
  | .compareFields f o operands => f.model = m ∧ o.check operands.length = .ok ()
  | .connect c ps => (c.mayVanish = false → ps ≠ []) ∧ AllTyped m ps
  | .related r ps => r.owner = m ∧ ps ≠ [] ∧ AllTyped r.target.toModel ps
  | .raw _ _ => True

def AllTyped (m : Model) : List Predicate → Prop
  | [] => True
  | p :: rest => Typed m p ∧ AllTyped m rest

end

theorem allTyped_iff {m : Model} {ps : List Predicate} :
    AllTyped m ps ↔ ∀ p ∈ ps, p.Typed m := by
  induction ps with
  | nil => simp [AllTyped]
  | cons p rest ih => simp [AllTyped, ih]

end Predicate

namespace Condition

mutual

/-- Whether the parts of a condition in the scope of a table are as required. Collections write no
SQL in the statement, and nothing is asked of them. -/
def Meets (q : Requirement) (t : Table) : Condition → Prop
  | .filter p => p.Meets q t
  | .join r _ cs => q.relation r ∧ AllMeet q (t.reach r) cs
  | .preload _ fields => ∀ f ∈ fields, q.field f
  | .collection _ _ => True

def AllMeet (q : Requirement) (t : Table) : List Condition → Prop
  | [] => True
  | c :: rest => Meets q t c ∧ AllMeet q t rest

end

theorem allMeet_iff {q : Requirement} {t : Table} {cs : List Condition} :
    AllMeet q t cs ↔ ∀ c ∈ cs, c.Meets q t := by
  induction cs with
  | nil => simp [AllMeet]
  | cons c rest ih => simp [AllMeet, ih]

mutual

def Typed (m : Model) : Condition → Prop
  | .filter p => p.Typed m
  | .join r _ cs => r.owner = m ∧ AllTyped r.target.toModel cs
  | .preload model fields => model = m ∧ ∀ f ∈ fields, f.belongsTo m = true
  | .collection r nested =>
    r.owner = m ∧ AllTyped r.target.toModel nested
      ∧ ∀ c ∈ nested, c.loads = true ∧ c.filters = false

def AllTyped (m : Model) : List Condition → Prop
  | [] => True
  | c :: rest => Typed m c ∧ AllTyped m rest

end

theorem allTyped_iff {m : Model} {cs : List Condition} :
    AllTyped m cs ↔ ∀ c ∈ cs, c.Typed m := by
  induction cs with
  | nil => simp [AllTyped]
  | cons c rest ih => simp [AllTyped, ih]

end Condition

theorem bind_eq_ok {ε α β : Type} {x : Except ε α} {f : α → Except ε β} {b : β} :
    x >>= f = .ok b ↔ ∃ a, x = .ok a ∧ f a = .ok b := by
  cases x <;> simp [bind, Except.bind]

theorem pure_eq_ok {ε α : Type} {a b : α} : (pure a : Except ε α) = .ok b ↔ a = b := by
  simp [pure, Except.pure]

theorem map_eq_ok {ε α β : Type} {x : Except ε α} {f : α → β} {b : β} :
    x.map f = .ok b ↔ ∃ a, x = .ok a ∧ f a = b := by
  cases x <;> simp [Except.map]

theorem mapM_eq_ok {ε α β : Type} {f : α → Except ε β} {xs : List α} {ys : List β} :
    xs.mapM f = .ok ys ↔ List.Forall₂ (fun x y => f x = .ok y) xs ys := by
  induction xs generalizing ys with
  | nil => cases ys <;> simp [pure, Except.pure]
  | cons x xs ih =>
    rw [List.mapM_cons]
    simp only [bind_eq_ok, pure_eq_ok, ih, List.forall₂_cons_left_iff]
    constructor
    · rintro ⟨y, hy, ys', hys, rfl⟩
      exact ⟨y, ys', hy, hys, rfl⟩
    · rintro ⟨y, ys', hy, hys, rfl⟩
      exact ⟨y, hy, ys', hys, rfl⟩

theorem mapM_congr {ε α β : Type} {f g : α → Except ε β} {xs : List α} (h : ∀ x ∈ xs, f x = g x) :
    xs.mapM f = xs.mapM g := by
  induction xs with
  | nil => rfl
  | cons x xs ih =>
    have hxs := ih fun y hy => h y (by simp [hy])
    rw [List.mapM_cons, List.mapM_cons, h x (by simp), hxs]

theorem Function.resolve_eq_ok {f : Function} {d : Dialect} {s : Strategy}
    (h : f.resolve d = .ok s) : f.strategy? d = some s := by
  unfold resolve at h
  split at h
  · rename_i s' hs'
    rw [hs', Except.ok.inj h]
  · cases h

theorem Operator.resolve_eq_ok {o : Operator} {d : Dialect} {token : String}
    (h : o.resolve d = .ok token) : o.supports d = true ∧ token = o.tokenOn d := by
  unfold resolve at h
  split at h
  · exact ⟨‹_›, (Except.ok.inj h).symm⟩
  · cases h

theorem exists_mem_left_of_forall₂ {α β : Type} {R : α → β → Prop} {xs : List α} {ys : List β}
    (h : List.Forall₂ R xs ys) {y : β} (hy : y ∈ ys) : ∃ x ∈ xs, R x y := by
  induction h with
  | nil => cases hy
  | cons hR _ ih =>
    obtain rfl | hy := List.mem_cons.1 hy
    · exact ⟨_, by simp, hR⟩
    · obtain ⟨x, hx, hR⟩ := ih hy
      exact ⟨x, by simp [hx], hR⟩

theorem exists_mem_right_of_forall₂ {α β : Type} {R : α → β → Prop} {xs : List α} {ys : List β}
    (h : List.Forall₂ R xs ys) {x : α} (hx : x ∈ xs) : ∃ y ∈ ys, R x y :=
  exists_mem_left_of_forall₂ (R := flip R) h.flip hx

theorem flatMap_of_forall₂ {α β γ : Type} {R : α → β → Prop} {f : α → List γ} {g : β → List γ}
    {xs : List α} {ys : List β} (h : List.Forall₂ R xs ys) (hfg : ∀ x ∈ xs, ∀ y, R x y → g y = f x) :
    ys.flatMap g = xs.flatMap f := by
  induction h with
  | nil => rfl
  | cons hxy _ ih =>
    have hrest := ih fun x hx => hfg x (by simp [hx])
    simp [hfg _ (by simp) _ hxy, hrest]

theorem flatMap_filter_of_eq_nil {α β : Type} {f : α → List β} {shown : α → Bool} {xs : List α}
    (h : ∀ x ∈ xs, shown x = false → f x = []) : (xs.filter shown).flatMap f = xs.flatMap f := by
  induction xs with
  | nil => rfl
  | cons x rest ih =>
    have hrest := ih fun y hy => h y (by simp [hy])
    cases hx : shown x with
    | true => simp [hx, hrest]
    | false => simp [hx, hrest, h x (by simp) hx]

namespace Plan

variable {p : Plan} {t : Table} {q : Sql}

theorem predicate_compare_eq_ok {f : Field} {o : Operator} {values : List Value}
    {escape : Option Value} :
    p.predicate t (.compare f o values escape) = .ok q ↔
      ∃ lhs, p.column t f = .ok lhs ∧ p.comparison lhs o (values.map Sql.bound) escape = .ok q := by
  simp only [predicate, bind_eq_ok]

theorem predicate_compareFields_eq_ok {f : Field} {o : Operator} {operands : List Operand} :
    p.predicate t (.compareFields f o operands) = .ok q ↔
      ∃ lhs, p.column t f = .ok lhs ∧ ∃ written,
        List.Forall₂ (fun x y => p.operand x = .ok y) operands written ∧
        p.comparison lhs o written none = .ok q := by
  simp only [predicate, bind_eq_ok, mapM_eq_ok]

theorem predicate_connect_eq_ok {c : Connective} {ps : List Predicate} :
    p.predicate t (.connect c ps) = .ok q ↔
      ∃ token, c.operator.resolve p.dialect = .ok token ∧ ∃ written,
        p.predicates t ps = .ok written ∧ connected c token written = .ok q := by
  simp only [predicate, bind_eq_ok]

theorem predicate_related_eq_ok {r : Relation} {ps : List Predicate} :
    p.predicate t (.related r ps) = .ok q ↔
      ∃ written, p.predicates (t.reach r) ps = .ok written ∧
        subquery (t.reach r) t r written
          ((t.reach r).liveness? fun mark => ps.any (·.affects mark)) = q := by
  simp only [predicate, bind_eq_ok, pure_eq_ok]

theorem predicates_eq_ok {ps : List Predicate} {written : List Sql} :
    p.predicates t ps = .ok written ↔
      ∃ qs, List.Forall₂ (fun c q => p.predicate t c = .ok q) ps qs ∧
        qs.filter (fun q => !q.isEmpty) = written := by
  induction ps generalizing written with
  | nil => simp [predicates, pure_eq_ok]
  | cons c rest ih =>
    simp only [predicates, bind_eq_ok, pure_eq_ok, ih, List.forall₂_cons_left_iff]
    constructor
    · rintro ⟨q, hq, _, ⟨qs, hqs, rfl⟩, rfl⟩
      refine ⟨q :: qs, ⟨q, qs, hq, hqs, rfl⟩, ?_⟩
      cases h : q.isEmpty <;> simp [h]
    · rintro ⟨_, ⟨q, qs, hq, hqs, rfl⟩, rfl⟩
      refine ⟨q, hq, _, ⟨qs, hqs, rfl⟩, ?_⟩
      cases h : q.isEmpty <;> simp [h]

theorem scopeFilters_eq_ok {cs : List Condition} {written : List Sql} :
    p.scopeFilters t cs = .ok written ↔
      ∃ parts, List.Forall₂ (fun c part => p.conditionFilters t c = .ok part) cs parts ∧
        parts.flatten = written := by
  induction cs generalizing written with
  | nil => simp [scopeFilters, pure_eq_ok]
  | cons c rest ih =>
    simp only [scopeFilters, bind_eq_ok, pure_eq_ok, ih, List.forall₂_cons_left_iff]
    constructor
    · rintro ⟨part, hpart, _, ⟨parts, hparts, rfl⟩, rfl⟩
      exact ⟨part :: parts, ⟨part, parts, hpart, hparts, rfl⟩, rfl⟩
    · rintro ⟨_, ⟨part, parts, hpart, hparts, rfl⟩, rfl⟩
      exact ⟨part, hpart, _, ⟨parts, hparts, rfl⟩, rfl⟩

end Plan
end Joinery
