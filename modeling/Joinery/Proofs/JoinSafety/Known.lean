import Joinery.Lint.Report
import Joinery.Proofs.JoinSafety.Collections
import Joinery.Proofs.JoinSafety.Parallel
import Mathlib.Data.List.Flatten
import Mathlib.Data.List.Perm.Basic

/-! Known models.
The models that an analysis knows decide which untyped operands it checks, and nothing else: to know more
models adds findings at such operands, and takes none away. What the statements of a file name is thus found
in one pass over them, in any order. -/
namespace Joinery

section Inserts

variable {α : Type} {P : α → Prop} {x : α} {xs ys xs' ys' : List α}

/-- The second list is the first with more entries at any places, each of one kind. -/
inductive Inserts (P : α → Prop) : List α → List α → Prop where
  | nil : Inserts P [] []
  | kept {x : α} {xs ys : List α} : Inserts P xs ys → Inserts P (x :: xs) (x :: ys)
  | inserted {x : α} {xs ys : List α} : P x → Inserts P xs ys → Inserts P xs (x :: ys)

namespace Inserts

theorem append (h : Inserts P xs ys) (h' : Inserts P xs' ys') : Inserts P (xs ++ xs') (ys ++ ys') := by
  induction h with
  | nil => exact h'
  | kept _ ih => exact ih.kept
  | inserted hx _ ih => exact ih.inserted hx

theorem sublist (h : Inserts P xs ys) : xs.Sublist ys := by
  induction h with
  | nil => exact List.Sublist.slnil
  | kept _ ih => exact ih.cons_cons _
  | inserted _ _ ih => exact ih.cons _

theorem eq_of_forall_not (h : Inserts P xs ys) (hP : ∀ x, ¬ P x) : xs = ys := by
  induction h with
  | nil => rfl
  | kept _ ih => rw [ih]
  | inserted hx _ _ => exact absurd hx (hP _)

end Inserts
end Inserts

namespace Lint

variable {config : Config} {known known' : List String} {Met : CallTree → Prop} {joined : List String}
  {v v' : Visit} {t : CallTree}

/-- A finding at an untyped operand that one analysis checks, and another does not. -/
def NewlyKnown (known known' : List String) (Met : CallTree → Prop) (f : Finding) : Prop :=
  f.model ∈ known' ∧ f.model ∉ known ∧ ∃ o, Met o ∧ fieldHandle? o = some (f.model, f.position)

/-- The visits of two analyses, the second of which knows more models. -/
structure Visit.Extended (known known' : List String) (Met : CallTree → Prop) (v v' : Visit) : Prop where
  findings : Inserts (NewlyKnown known known' Met) v.findings v'.findings
  seen : v.seen ⊆ v'.seen
  seenBy : ∀ m ∈ v'.seen, m ∈ v.seen ∨ m ∈ known'

namespace Visit

theorem mem_see {models : List String} {m : String} : m ∈ (v.see models).seen ↔ m ∈ v.seen ∨ m ∈ models :=
  mem_joining

namespace Extended

theorem empty : Extended known known' Met .empty .empty :=
  ⟨.nil, List.Subset.refl _, fun _ h => nomatch h⟩

theorem check (h : Extended known known' Met v v') (joined : List String) (m : String) (p : Position) :
    Extended known known' Met (v.check joined m p) (v'.check joined m p) where
  findings := by
    unfold Visit.check
    split
    · exact h.findings
    · exact h.findings.append (.kept .nil)
  seen := fun x hx => List.mem_insert_iff.2 ((List.mem_insert_iff.1 hx).imp_right fun hin => h.seen hin)
  seenBy := fun x hx => by
    simp only [Visit.check, List.mem_insert_iff] at hx ⊢
    exact hx.elim (fun hm => .inl (.inl hm)) fun hin => (h.seenBy x hin).imp_left .inr

/-- Only the second analysis checks an operand. -/
theorem check_right (h : Extended known known' Met v v') (joined : List String) (ht : Met t) {m : String}
    {p : Position} (hfield : fieldHandle? t = some (m, p)) (hno : m ∉ known) (hm : m ∈ known') :
    Extended known known' Met v (v'.check joined m p) where
  findings := by
    unfold Visit.check
    split
    · exact h.findings
    · have hnew : NewlyKnown known known' Met ⟨m, p⟩ := ⟨hm, hno, t, ht, hfield⟩
      simpa using h.findings.append (.inserted hnew .nil)
  seen := fun x hx => List.mem_insert_iff.2 (.inr (h.seen hx))
  seenBy := fun x hx => (List.mem_insert_iff.1 hx).elim (fun hx => .inr (hx ▸ hm)) (h.seenBy x)

theorem see (h : Extended known known' Met v v') (models : List String) :
    Extended known known' Met (v.see models) (v'.see models) where
  findings := h.findings
  seen := fun x hx => mem_see.2 ((mem_see.1 hx).imp_left fun hin => h.seen hin)
  seenBy := fun x hx => by
    rw [mem_see] at hx ⊢
    exact hx.elim (fun hin => (h.seenBy x hin).imp_left .inl) fun hin => .inl (.inr hin)

end Extended
end Visit

def anyKnown (config : Config) (known known' : List String) :
    Simulation config known known' fun _ => True where
  joined names names' := names = names'
  visit _ _ := True
  insert h _ := h ▸ rfl
  check _ _ _ _ := trivial
  operand _ _ _ _ := trivial
  see _ _ := trivial

def moreKnown (config : Config) (h : known ⊆ known') (Met : CallTree → Prop) :
    Simulation config known known' Met where
  joined names names' := names = names'
  visit := Visit.Extended known known' Met
  insert h _ := h ▸ rfl
  check hj hv m p := hj ▸ hv.check _ m p
  operand hj hv t ht := by
    subst hj
    simp only [Analyzer.checkOperands]
    cases hfield : fieldHandle? t with
    | none => exact hv
    | some found =>
      -- the model is known to both analyses, to the second alone, or to neither
      by_cases hin : found.1 ∈ known
      · simpa [hin, h hin] using hv.check _ found.1 found.2
      · by_cases hin' : found.1 ∈ known'
        · simpa [hin, hin'] using hv.check_right _ ht hfield hin hin'
        · simpa [hin, hin'] using hv
  see hj hv := hj ▸ hv.see _

namespace Analyzer

theorem allUntyped_subset_of_chain {a : Analyzer} {outer : List (List CallTree)} {c : Analyzer.Chain}
    (h : a.chain outer t = .ok c) : allUntyped config c.arguments ⊆ untyped config t := by
  induction t using CallTree.induct generalizing outer with
  | call path generics children p ih =>
    rw [chain] at h
    split at h
    · obtain rfl := Except.ok.inj h
      exact List.Subset.refl _
    · cases h
  | method name children p ih =>
    cases children with
    | nil => cases h
    | cons receiver args =>
      have hbelow : untyped config receiver ⊆ untyped config (.method name (receiver :: args) p) :=
        fun o ho => List.mem_append_right _ (List.mem_append_left _ ho)
      rw [chain] at h
      split at h
      · exact List.Subset.trans (ih receiver List.mem_cons_self h) hbelow
      · exact List.Subset.trans (ih receiver List.mem_cons_self h) hbelow
  | list children p ih => cases h
  | other p => cases h

theorem chain_known (known known' : List String) (outer : List (List CallTree)) (t : CallTree) :
    chain ⟨config, known⟩ outer t = chain ⟨config, known'⟩ outer t := by
  induction t using CallTree.induct generalizing outer with
  | call path generics children p ih => rfl
  | method name children p ih =>
    cases children with
    | nil => rfl
    | cons receiver args =>
      have hreceiver := ih receiver List.mem_cons_self
      rw [chain, chain]
      split
      · exact hreceiver _
      · exact hreceiver _
  | list children p ih => rfl
  | other p => rfl

/-- Whether a statement can be followed has nothing to do with the known models. -/
theorem walk_error_iff (t : CallTree) (e : InspectError) :
    walk ⟨config, known⟩ t = .error e ↔ walk ⟨config, known'⟩ t = .error e := by
  rw [walk_eq, walk_eq, chain_known known known']
  cases chain ⟨config, known'⟩ [] t with
  | error e' => rfl
  | ok c => exact ((anyKnown config known known').walkApart rfl trivial fun _ _ => trivial).error_iff e

/-- With more known models, the visit of a statement is extended at its untyped operands. -/
theorem walk_extended (h : known ⊆ known') (t : CallTree) :
    Parallel (Visit.Extended known known' (· ∈ untyped config t)) (walk ⟨config, known⟩ t)
      (walk ⟨config, known'⟩ t) := by
  rw [walk_eq, walk_eq, chain_known known known']
  cases hchain : chain ⟨config, known'⟩ [] t with
  | error e => exact .error e
  | ok c => exact (moreKnown config h _).walkApart rfl .empty fun _ ho => allUntyped_subset_of_chain hchain ho

theorem callSite_extended (h : known ⊆ known') {findings : List Finding}
    (hsite : callSite ⟨config, known⟩ t = .ok findings) :
    ∃ findings', callSite ⟨config, known'⟩ t = .ok findings' ∧
      Inserts (NewlyKnown known known' (· ∈ untyped config t)) findings findings' := by
  obtain ⟨v, hwalk, rfl⟩ := map_eq_ok.1 hsite
  obtain ⟨v', hwalk', hv⟩ := (walk_extended h t).exists_ok hwalk
  exact ⟨v'.findings, congrArg (Except.map Visit.findings) hwalk', hv.findings⟩

theorem callSite_congr (h : ∀ m, m ∈ known ↔ m ∈ known') :
    callSite ⟨config, known⟩ t = callSite ⟨config, known'⟩ t := by
  refine (walk_extended (fun m => (h m).1) t).map_eq fun v v' hv => ?_
  exact hv.findings.eq_of_forall_not fun f hf => hf.2.1 ((h f.model).2 hf.1)

end Analyzer

def collected (config : Config) (sites : List CallTree) : Analyzer :=
  (Analyzer.ofConfig config).withKnown (modelsOf config sites)

variable {sites sites' : List CallTree} {m : String}

theorem mem_modelsOf : m ∈ modelsOf config sites ↔
    ∃ t ∈ sites, ∃ ms, (Analyzer.ofConfig config).models t = .ok ms ∧ m ∈ ms := by
  simp only [modelsOf, List.mem_flatMap]
  refine exists_congr fun t => and_congr_right fun _ => ?_
  cases (Analyzer.ofConfig config).models t <;> simp [Except.toOption]

theorem mem_collected_known : m ∈ (collected config sites).known ↔
    m ∈ config.models ∨ ∃ t ∈ sites, ∃ ms, (Analyzer.ofConfig config).models t = .ok ms ∧ m ∈ ms := by
  rw [← mem_modelsOf]
  exact List.mem_append

/-- One pass over the statements of a file finds all their models: a second pass, with these known, finds the
same. -/
theorem mem_collected_known_iff : m ∈ (collected config sites).known ↔
    m ∈ config.models ∨ ∃ t ∈ sites, ∃ ms, (collected config sites).models t = .ok ms ∧ m ∈ ms := by
  have hpasses (t : CallTree) : Parallel
      (Visit.Extended config.models (collected config sites).known (· ∈ untyped config t))
      ((Analyzer.ofConfig config).walk t) ((collected config sites).walk t) :=
    Analyzer.walk_extended (List.subset_append_left _ _) t
  constructor
  · intro h
    refine (mem_collected_known.1 h).imp_right ?_
    rintro ⟨t, ht, ms, hmodels, hm⟩
    obtain ⟨v, hwalk, rfl⟩ := map_eq_ok.1 hmodels
    obtain ⟨v', hwalk', hv⟩ := (hpasses t).exists_ok hwalk
    exact ⟨t, ht, v'.seen, congrArg (Except.map Visit.seen) hwalk', hv.seen hm⟩
  · rintro (h | ⟨t, ht, ms, hmodels, hm⟩)
    · exact List.mem_append_left _ h
    · obtain ⟨v', hwalk', rfl⟩ := map_eq_ok.1 hmodels
      obtain ⟨v, hwalk, hv⟩ := (hpasses t).exists_ok_left hwalk'
      obtain hfirst | hknown := hv.seenBy m hm
      · exact mem_collected_known.2 (.inr ⟨t, ht, v.seen, congrArg (Except.map Visit.seen) hwalk, hfirst⟩)
      · exact hknown

theorem collected_known_subset (h : sites ⊆ sites') :
    (collected config sites).known ⊆ (collected config sites').known := by
  intro m hm
  refine mem_collected_known.2 ((mem_collected_known.1 hm).imp_right ?_)
  rintro ⟨t, ht, hmodels⟩
  exact ⟨t, h ht, hmodels⟩

theorem callSite_collected_perm (h : sites.Perm sites') (t : CallTree) :
    (collected config sites).callSite t = (collected config sites').callSite t :=
  Analyzer.callSite_congr fun _ =>
    ⟨fun hm => collected_known_subset h.subset hm, fun hm => collected_known_subset h.symm.subset hm⟩

theorem callSite_collected_subset (h : sites ⊆ sites') {findings : List Finding}
    (hsite : (collected config sites).callSite t = .ok findings) :
    ∃ findings', (collected config sites').callSite t = .ok findings' ∧ findings.Sublist findings' := by
  obtain ⟨findings', hsite', hfindings⟩ := Analyzer.callSite_extended (collected_known_subset h) hsite
  exact ⟨findings', hsite', hfindings.sublist⟩

theorem findingsOf_perm (h : sites.Perm sites') :
    (findingsOf config sites).Perm (findingsOf config sites') := by
  refine List.Perm.flatMap h fun t _ => ?_
  exact .of_eq (congrArg (fun found => found.toOption.getD []) (callSite_collected_perm h t))

theorem findingsOf_sublist (h : sites.Sublist sites') :
    (findingsOf config sites).Sublist (findingsOf config sites') := by
  refine List.Sublist.trans (List.Sublist.flatMap_right sites fun t _ => ?_) (h.flatMap _)
  cases hsite : (collected config sites).callSite t with
  | error e =>
    rw [collected] at hsite
    simp [hsite, Except.toOption]
  | ok findings =>
    obtain ⟨findings', hsite', hsub⟩ := callSite_collected_subset h.subset hsite
    rw [collected] at hsite hsite'
    simpa [hsite, hsite', Except.toOption] using hsub

/-- One pass over the statements of a file collects the models of the file: a second pass, with these known,
names no others. Which models are known decides about no failure; to know more inserts findings at untyped
operands of the models added, and leaves those that were there, in their order. So statements in another
order have their findings unchanged, and more statements take no finding away. -/
theorem collected_once (config : Config) (sites : List CallTree) :
    (∀ m, m ∈ (collected config sites).known ↔
      m ∈ config.models ∨ ∃ t ∈ sites, ∃ ms, (Analyzer.ofConfig config).models t = .ok ms ∧ m ∈ ms) ∧
    (∀ m, m ∈ (collected config sites).known ↔
      m ∈ config.models ∨ ∃ t ∈ sites, ∃ ms, (collected config sites).models t = .ok ms ∧ m ∈ ms) ∧
    (∀ known known' t e,
      Analyzer.walk ⟨config, known⟩ t = .error e ↔ Analyzer.walk ⟨config, known'⟩ t = .error e) ∧
    (∀ known known' t findings, known ⊆ known' → Analyzer.callSite ⟨config, known⟩ t = .ok findings →
      ∃ findings', Analyzer.callSite ⟨config, known'⟩ t = .ok findings' ∧ findings.Sublist findings' ∧
        Inserts (NewlyKnown known known' (· ∈ untyped config t)) findings findings') ∧
    (∀ sites', sites.Perm sites' →
      (∀ t, (collected config sites).callSite t = (collected config sites').callSite t) ∧
      (sites.map (collected config sites).callSite).Perm (sites'.map (collected config sites').callSite) ∧
      (findingsOf config sites).Perm (findingsOf config sites')) ∧
    ∀ sites', sites.Sublist sites' →
      (∀ t findings, (collected config sites).callSite t = .ok findings →
        ∃ findings', (collected config sites').callSite t = .ok findings' ∧ findings.Sublist findings') ∧
      (findingsOf config sites).Sublist (findingsOf config sites') := by
  refine ⟨fun _ => mem_collected_known, fun _ => mem_collected_known_iff,
    fun known known' => Analyzer.walk_error_iff, fun known known' t findings h hsite => ?_,
    fun sites' h => ⟨callSite_collected_perm h, ?_, findingsOf_perm h⟩,
    fun sites' h => ⟨fun t findings => callSite_collected_subset h.subset, findingsOf_sublist h⟩⟩
  · obtain ⟨findings', hsite', hfindings⟩ := Analyzer.callSite_extended h hsite
    exact ⟨findings', hsite', hfindings.sublist, hfindings⟩
  · rw [funext (callSite_collected_perm h)]
    exact h.map _

end Lint

namespace Sample

open Lint

def namesakesTree : CallTree :=
  .call ["query"] ["Seller"] [.list [.method "into" [.method "eq" [
    .method "is_unsafe" [.call ["Seller", "name"] [] [] ⟨2, 9⟩] ⟨2, 24⟩,
    .call ["Company", "name"] [] [] ⟨2, 41⟩] ⟨2, 38⟩] ⟨2, 57⟩] ⟨1, 20⟩] ⟨1, 1⟩

def companiesTree : CallTree :=
  .call ["query"] ["Company"] [.list [] ⟨5, 21⟩] ⟨5, 1⟩

end Sample

namespace Lint

/-- The name of a company is a finding only if some statement of the file shows that companies are a model. -/
theorem collected_namesakes :
    (collected .default [Sample.namesakesTree]).callSite Sample.namesakesTree = .ok [] ∧
    (∃ findings, (collected .default [Sample.namesakesTree, Sample.companiesTree]).callSite
        Sample.namesakesTree = .ok findings ∧
      Inserts (NewlyKnown ["Seller"] ["Seller", "Company"] (· ∈ untyped .default Sample.namesakesTree))
        [] findings ∧ findings = [⟨"Company", ⟨2, 41⟩⟩]) ∧
    (findingsOf .default [Sample.namesakesTree, Sample.companiesTree]).Perm
      (findingsOf .default [Sample.companiesTree, Sample.namesakesTree]) := by
  have hfirst : (collected .default [Sample.namesakesTree]).known = ["Seller"] := by decide +kernel
  have hboth : (collected .default [Sample.namesakesTree, Sample.companiesTree]).known =
      ["Seller", "Company"] := by decide +kernel
  have halone : Analyzer.callSite ⟨.default, ["Seller"]⟩ Sample.namesakesTree = .ok [] := by decide +kernel
  obtain ⟨-, -, -, hmore, -, -⟩ := collected_once .default [Sample.namesakesTree]
  obtain ⟨-, -, -, -, hperm, -⟩ := collected_once .default [Sample.namesakesTree, Sample.companiesTree]
  obtain ⟨findings, hsite, -, hfindings⟩ := hmore ["Seller"] ["Seller", "Company"] _ [] (by simp) halone
  refine ⟨?_, ⟨findings, ?_, hfindings, ?_⟩, (hperm _ (.swap ..)).2.2⟩
  · rw [← hfirst] at halone
    exact halone
  · rw [← hboth] at hsite
    exact hsite
  · have hknown : Analyzer.callSite ⟨.default, ["Seller", "Company"]⟩ Sample.namesakesTree =
        .ok [⟨"Company", ⟨2, 41⟩⟩] := by decide +kernel
    exact Except.ok.inj (hsite.symm.trans hknown)

end Lint
end Joinery
