import Joinery.Proofs.Scoping.Numbers

/-! Joins and filters are scoped alike.
A join starts from the root or from a join before it, and a predicate below a join compares columns of the
table that is planned for that join. What else names a table names one of the statement, one of a test
around it, or, as an operand, that of a model which is not joined. -/
namespace Joinery

namespace Piece

/-- Whether a piece within tests names a table of the plan or of a test. An operand may also name the table
of a model that is not joined. -/
def InScope (p : Plan) (tests : List String) : Piece → Prop
  | .text _ => True
  | .column inner purpose aliasName _ => tests <:+ inner ∧
      (aliasName ∈ inner ++ p.tables.map Table.aliasName ∨
        ∃ f, purpose = .operand f ∧ p.tablesOf f.model = [] ∧ aliasName = f.model.table)
  | .raw inner aliasName _ => tests <:+ inner ∧ aliasName ∈ inner ++ p.tables.map Table.aliasName

/-- The column that a predicate outside of tests compares, with the name of its table. -/
def compared? : Piece → Option (String × String)
  | .column [] .compared aliasName name => some (aliasName, name)
  | _ => none

def compared (ps : List Piece) : List (String × String) :=
  (named ps).filterMap compared?

theorem InScope.outer {p : Plan} {tests : List String} {name : String} {x : Piece}
    (h : x.InScope p (name :: tests)) : x.InScope p tests := by
  have hsuffix : tests <:+ name :: tests := List.suffix_cons name tests
  cases x with
  | text s => trivial
  | column inner purpose aliasName column => exact ⟨hsuffix.trans h.1, h.2⟩
  | raw inner aliasName sql => exact ⟨hsuffix.trans h.1, h.2⟩

theorem compared?_of_inScope {p : Plan} {tests : List String} {name : String} {x : Piece}
    (h : x.InScope p (name :: tests)) : x.compared? = none := by
  cases x with
  | column inner purpose aliasName column =>
    cases inner with
    | nil => simp [InScope] at h
    | cons test inner => rfl
  | _ => rfl

theorem compared_of_textOf {ps : List Piece} (h : textOf ps = "") : compared ps = [] := by
  have hwritten : ∀ x ∈ ps, x.written = "" := by
    intro x hx
    obtain ⟨before, after, rfl⟩ := List.append_of_mem hx
    simp only [textOf_append, textOf_cons, String.append_eq_empty_iff] at h
    exact h.2.1
  rw [compared, List.filterMap_eq_nil_iff]
  intro x hx
  have htext := hwritten x (List.mem_of_mem_filter hx)
  cases x with
  | column inner purpose aliasName column => simp [written] at htext
  | _ => rfl

end Piece

namespace Predicate

mutual

/-- The fields that a predicate compares, seen through connectives alone. -/
def compared : Predicate → List Field
  | .compare f _ _ _ => [f]
  | .compareFields f _ _ => [f]
  | .connect _ ps => allCompared ps
  | .related _ _ => []
  | .raw _ _ => []

def allCompared : List Predicate → List Field
  | [] => []
  | c :: rest => compared c ++ allCompared rest

end

end Predicate

theorem Link.planned_eq (l : Link) : l.planned = ⟨Plan.joinKind l.join, l.join.relation.target.table,
    l.table.aliasName, String.intercalate " AND "
      (l.parent.keyEquality l.join.relation :: l.table.guards (Condition.own l.join.conditions))⟩ := by
  rw [← l.on_guarded]
  rfl

namespace Plan

variable {p : Plan} {t : Table} {tests : List String} {pieces : List Piece}

/-! What the pieces name. -/

theorem inScope_operandPieces {x : Operand} (h : p.operandPieces tests x = .ok pieces) :
    ∀ y ∈ Piece.named pieces, y.InScope p tests := by
  cases x with
  | value v => simp [← Except.ok.inj h]
  | field f =>
    obtain ⟨aliasName, halias, hpieces⟩ := bind_eq_ok.1 h
    rw [named_pieces hpieces]
    refine List.forall_mem_singleton.2 ⟨List.suffix_rfl, ?_⟩
    obtain ⟨hnone, hname⟩ | ⟨t, ht, -, hname⟩ := aliasFor_eq_ok halias
    · exact .inr ⟨f, rfl, hnone, hname⟩
    · exact .inl (List.mem_append_right _ (hname ▸ List.mem_map_of_mem ht))

theorem inScope_comparisonPieces {lhs : List Piece} {o : Operator} {parts : List (List Piece)}
    {escape : Option Value} (h : p.comparisonPieces lhs o parts escape = .ok pieces)
    (hlhs : ∀ x ∈ Piece.named lhs, x.InScope p tests)
    (hparts : ∀ part ∈ parts, ∀ x ∈ Piece.named part, x.InScope p tests) :
    ∀ x ∈ Piece.named pieces, x.InScope p tests := by
  obtain ⟨operands, hpieces, hsub⟩ := named_comparisonPieces h
  rw [hpieces]
  refine List.forall_mem_append.2 ⟨hlhs, fun x hx => ?_⟩
  obtain ⟨part, hpart, hx⟩ := List.mem_flatMap.1 (hsub hx)
  exact hparts part hpart x hx

theorem inScope_column {f : Field} (ht : t.aliasName ∈ tests ++ p.tables.map Table.aliasName)
    (h : f.pieces p.dialect (.column tests .compared t.aliasName f.columnName) = .ok pieces) :
    ∀ x ∈ Piece.named pieces, x.InScope p tests := by
  rw [named_pieces h]
  exact List.forall_mem_singleton.2 ⟨List.suffix_rfl, .inl ht⟩

theorem inScope_subqueryPieces {r : Relation} {parts : List (List Piece)} {affected : String → Bool}
    (ht : t.aliasName ∈ tests ++ p.tables.map Table.aliasName)
    (hparts : ∀ part ∈ parts, ∀ x ∈ Piece.named part, x.InScope p ((t.reach r).aliasName :: tests)) :
    ∀ x ∈ Piece.named (subqueryPieces ((t.reach r).aliasName :: tests) (t.reach r) t r
      (parts ++ guardPieces ((t.reach r).aliasName :: tests) (t.reach r) affected)),
      x.InScope p ((t.reach r).aliasName :: tests) := by
  have hparent : t.aliasName ∈ (t.reach r).aliasName :: tests ++ p.tables.map Table.aliasName :=
    List.mem_cons_of_mem _ ht
  have hguard : ∀ part ∈ guardPieces ((t.reach r).aliasName :: tests) (t.reach r) affected,
      ∀ x ∈ Piece.named part, x.InScope p ((t.reach r).aliasName :: tests) := by
    intro part hpart
    obtain ⟨mark, -, rfl⟩ := List.mem_map.1 hpart
    exact List.forall_mem_singleton.2 ⟨List.suffix_rfl, .inl (by simp)⟩
  rw [named_subqueryPieces, List.flatMap_append, List.forall_mem_cons, List.forall_mem_cons,
    List.forall_mem_append, List.forall_mem_flatMap, List.forall_mem_flatMap]
  exact ⟨⟨List.suffix_rfl, .inl (by simp)⟩, ⟨List.suffix_rfl, .inl hparent⟩, hparts, hguard⟩

theorem exists_of_mem_predicatesPieces {ps : List Predicate} {parts : List (List Piece)}
    (h : p.predicatesPieces tests t ps = .ok parts) {part : List Piece} (hpart : part ∈ parts) :
    ∃ c ∈ ps, p.predicatePieces tests t c = .ok part := by
  induction ps generalizing parts with
  | nil =>
    rw [predicatesPieces] at h
    rw [← pure_eq_ok.1 h] at hpart
    cases hpart
  | cons c rest ih =>
    rw [predicatesPieces] at h
    obtain ⟨first, hfirst, h⟩ := bind_eq_ok.1 h
    obtain ⟨others, hothers, h⟩ := bind_eq_ok.1 h
    have hmem : part = first ∨ part ∈ others := by
      rw [← pure_eq_ok.1 h] at hpart
      split at hpart
      · exact .inr hpart
      · exact List.mem_cons.1 hpart
    obtain rfl | hmem := hmem
    · exact ⟨c, by simp, hfirst⟩
    · obtain ⟨c', hc', hok⟩ := ih hothers hmem
      exact ⟨c', by simp [hc'], hok⟩

/-- A predicate within tests names the tables of the plan and of the tests. -/
theorem inScope_predicatePieces (ht : t.aliasName ∈ tests ++ p.tables.map Table.aliasName)
    {c : Predicate} (h : p.predicatePieces tests t c = .ok pieces) :
    ∀ x ∈ Piece.named pieces, x.InScope p tests := by
  induction c using Predicate.induct generalizing t tests pieces with
  | compare f o values escape =>
    rw [predicatePieces] at h
    obtain ⟨lhs, hlhs, h⟩ := bind_eq_ok.1 h
    refine inScope_comparisonPieces h (inScope_column ht hlhs) ?_
    simp
  | compareFields f o operands =>
    rw [predicatePieces] at h
    obtain ⟨lhs, hlhs, h⟩ := bind_eq_ok.1 h
    obtain ⟨parts, hparts, h⟩ := bind_eq_ok.1 h
    refine inScope_comparisonPieces h (inScope_column ht hlhs) fun part hpart => ?_
    obtain ⟨x, -, hx⟩ := exists_mem_left_of_forall₂ (mapM_eq_ok.1 hparts) hpart
    exact inScope_operandPieces hx
  | connect c ps ih =>
    rw [predicatePieces] at h
    obtain ⟨token, -, h⟩ := bind_eq_ok.1 h
    obtain ⟨parts, hparts, h⟩ := bind_eq_ok.1 h
    rw [named_connectedPieces h, List.forall_mem_flatMap]
    intro part hpart
    obtain ⟨c', hc', hok⟩ := exists_of_mem_predicatesPieces hparts hpart
    exact ih c' hc' ht hok
  | related r ps ih =>
    rw [predicatePieces] at h
    obtain ⟨parts, hparts, h⟩ := bind_eq_ok.1 h
    have hinner : ∀ part ∈ parts, ∀ x ∈ Piece.named part, x.InScope p ((t.reach r).aliasName :: tests) := by
      intro part hpart
      obtain ⟨c', hc', hok⟩ := exists_of_mem_predicatesPieces hparts hpart
      exact ih c' hc' (by simp) hok
    rw [← pure_eq_ok.1 h]
    exact fun x hx => (inScope_subqueryPieces ht hinner x hx).outer
  | raw sql values =>
    rw [predicatePieces] at h
    rw [← Except.ok.inj h]
    exact List.forall_mem_singleton.2 ⟨List.suffix_rfl, ht⟩

/-! What the pieces compare. -/

theorem compared_comparisonPieces {f : Field} {lhs : List Piece} {o : Operator}
    {parts : List (List Piece)} {escape : Option Value}
    (hlhs : f.pieces p.dialect (.column [] .compared t.aliasName f.columnName) = .ok lhs)
    (h : p.comparisonPieces lhs o parts escape = .ok pieces)
    (hparts : ∀ part ∈ parts, Piece.compared part = []) :
    Piece.compared pieces = [(t.aliasName, f.columnName)] := by
  obtain ⟨operands, hpieces, hsub⟩ := named_comparisonPieces h
  have hoperands : operands.filterMap Piece.compared? = [] := by
    rw [List.filterMap_eq_nil_iff]
    intro x hx
    obtain ⟨part, hpart, hx⟩ := List.mem_flatMap.1 (hsub hx)
    exact List.filterMap_eq_nil_iff.1 (hparts part hpart) x hx
  rw [Piece.compared, hpieces, List.filterMap_append, hoperands, named_pieces hlhs]
  rfl

theorem compared_operandPieces {x : Operand} (h : p.operandPieces [] x = .ok pieces) :
    Piece.compared pieces = [] := by
  cases x with
  | value v => simp [Piece.compared, ← Except.ok.inj h]
  | field f =>
    obtain ⟨aliasName, -, hpieces⟩ := bind_eq_ok.1 h
    rw [Piece.compared, named_pieces hpieces]
    rfl

theorem compared_predicatesPieces {ps : List Predicate}
    (ih : ∀ c ∈ ps, ∀ {pieces}, p.predicatePieces [] t c = .ok pieces →
      Piece.compared pieces = c.compared.map fun f => (t.aliasName, f.columnName))
    {parts : List (List Piece)} (h : p.predicatesPieces [] t ps = .ok parts) :
    parts.flatMap Piece.compared = (Predicate.allCompared ps).map fun f => (t.aliasName, f.columnName) := by
  induction ps generalizing parts with
  | nil =>
    rw [predicatesPieces] at h
    rw [← pure_eq_ok.1 h]
    rfl
  | cons c rest ihrest =>
    rw [predicatesPieces] at h
    obtain ⟨part, hpart, h⟩ := bind_eq_ok.1 h
    obtain ⟨others, hothers, h⟩ := bind_eq_ok.1 h
    have hfirst := ih c (by simp) hpart
    have hrest := ihrest (fun c' hc' => ih c' (by simp [hc'])) hothers
    rw [← pure_eq_ok.1 h, Predicate.allCompared, List.map_append, ← hfirst, ← hrest]
    split
    · rename_i hnone
      simp [Piece.compared_of_textOf (by simpa using hnone)]
    · rw [List.flatMap_cons]

/-- A predicate compares the columns of its table. -/
theorem compared_predicatePieces (ht : t.aliasName ∈ p.tables.map Table.aliasName) {c : Predicate}
    (h : p.predicatePieces [] t c = .ok pieces) :
    Piece.compared pieces = c.compared.map fun f => (t.aliasName, f.columnName) := by
  induction c using Predicate.induct generalizing pieces with
  | compare f o values escape =>
    rw [predicatePieces] at h
    obtain ⟨lhs, hlhs, h⟩ := bind_eq_ok.1 h
    refine compared_comparisonPieces hlhs h ?_
    simp [Piece.compared]
  | compareFields f o operands =>
    rw [predicatePieces] at h
    obtain ⟨lhs, hlhs, h⟩ := bind_eq_ok.1 h
    obtain ⟨parts, hparts, h⟩ := bind_eq_ok.1 h
    refine compared_comparisonPieces hlhs h fun part hpart => ?_
    obtain ⟨x, -, hx⟩ := exists_mem_left_of_forall₂ (mapM_eq_ok.1 hparts) hpart
    exact compared_operandPieces hx
  | connect c ps ih =>
    rw [predicatePieces] at h
    obtain ⟨token, -, h⟩ := bind_eq_ok.1 h
    obtain ⟨parts, hparts, h⟩ := bind_eq_ok.1 h
    rw [Piece.compared, named_connectedPieces h, List.filterMap_flatMap]
    exact compared_predicatesPieces ih hparts
  | related r ps ih =>
    rw [predicatePieces] at h
    obtain ⟨parts, hparts, h⟩ := bind_eq_ok.1 h
    have hinner : ∀ part ∈ parts, ∀ x ∈ Piece.named part, x.InScope p [(t.reach r).aliasName] := by
      intro part hpart
      obtain ⟨c', -, hok⟩ := exists_of_mem_predicatesPieces hparts hpart
      exact inScope_predicatePieces (by simp) hok
    rw [← pure_eq_ok.1 h, Piece.compared, List.filterMap_eq_nil_iff.2]
    · rfl
    · intro x hx
      exact Piece.compared?_of_inScope (inScope_subqueryPieces ht hinner x hx)
  | raw sql values =>
    rw [predicatePieces] at h
    rw [← Except.ok.inj h]
    rfl

/-! Filters and joins of a statement. -/

theorem aliasName_table_mem {k : Nat} (h : k < p.tables.length) :
    (p.table k).aliasName ∈ p.tables.map Table.aliasName :=
  List.mem_map_of_mem (List.mem_of_getElem? (getElem?_tables h))

theorem named_filterPieces {cs : List Condition} (h : p.filterPieces cs = .ok pieces) :
    ∃ parts, List.Forall₂ (fun s part => p.predicatePieces [] (p.table s.1) s.2 = .ok part)
        (Condition.numberedFilters cs) parts ∧
      Piece.named pieces = (parts.filter fun part => !(Piece.textOf part).isEmpty).flatMap Piece.named ++
        (guardPieces [] p.root fun mark => cs.any (·.affects mark)).flatMap Piece.named := by
  simp only [filterPieces, bind_eq_ok, mapM_eq_ok, pure_eq_ok] at h
  obtain ⟨parts, hparts, rfl⟩ := h
  refine ⟨parts, hparts, ?_⟩
  rw [← List.flatMap_append]
  split
  · rename_i hnone
    rw [List.isEmpty_iff.1 hnone]
    rfl
  · simp only [List.cons_append, Piece.named_text, Piece.named_append, Piece.named_separated,
      Piece.named_nil, List.append_nil]

theorem compared_guardPieces (tests : List String) (t : Table) (affected : String → Bool) :
    (guardPieces tests t affected).flatMap Piece.compared = [] := by
  rw [List.flatMap_eq_nil_iff]
  intro part hpart
  obtain ⟨mark, -, rfl⟩ := List.mem_map.1 hpart
  simp [Piece.compared, Piece.compared?]

variable {cs : List Condition} {parts : List (List Piece)}

section Parts

variable (hparts : List.Forall₂ (fun s part => p.predicatePieces [] (p.table s.1) s.2 = .ok part)
    (Condition.numberedFilters cs) parts)
  (hscopes : ∀ s ∈ Condition.numberedFilters cs, s.1 < p.tables.length)
  (hnamed : Piece.named pieces =
    (parts.filter fun part => !(Piece.textOf part).isEmpty).flatMap Piece.named ++
      (guardPieces [] p.root fun mark => cs.any (·.affects mark)).flatMap Piece.named)

include hparts hscopes hnamed

theorem inScope_filterPieces (hroot : p.root ∈ p.tables) : ∀ x ∈ pieces, x.InScope p [] := by
  have hwritten : ∀ part ∈ parts, ∀ x ∈ Piece.named part, x.InScope p [] := by
    intro part hpart
    obtain ⟨s, hs, hok⟩ := exists_mem_left_of_forall₂ hparts hpart
    exact inScope_predicatePieces (aliasName_table_mem (hscopes s hs)) hok
  have hguard : ∀ part ∈ guardPieces [] p.root fun mark => cs.any (·.affects mark),
      ∀ x ∈ Piece.named part, x.InScope p [] := by
    intro part hpart
    obtain ⟨mark, -, rfl⟩ := List.mem_map.1 hpart
    exact List.forall_mem_singleton.2 ⟨List.suffix_rfl, .inl (List.mem_map_of_mem hroot)⟩
  have hall : ∀ x ∈ Piece.named pieces, x.InScope p [] := by
    rw [hnamed, List.forall_mem_append, List.forall_mem_flatMap, List.forall_mem_flatMap]
    exact ⟨fun part hpart => hwritten part (List.mem_of_mem_filter hpart), hguard⟩
  intro x hx
  cases x with
  | text s => trivial
  | _ => exact hall _ (List.mem_filter.2 ⟨hx, rfl⟩)

theorem compared_filterPieces : Piece.compared pieces = (Condition.numberedFilters cs).flatMap fun s =>
    s.2.compared.map fun f => ((p.table s.1).aliasName, f.columnName) := by
  have hwritten : (parts.filter fun part => !(Piece.textOf part).isEmpty).flatMap Piece.compared =
      parts.flatMap Piece.compared :=
    flatMap_filter_of_eq_nil fun part _ hnone => Piece.compared_of_textOf (by simpa using hnone)
  have hguards := compared_guardPieces [] p.root fun mark => cs.any (·.affects mark)
  have hfilters := flatMap_of_forall₂ hparts fun s hs part hok =>
    compared_predicatePieces (aliasName_table_mem (hscopes s hs)) hok
  rw [← hfilters, ← hwritten, Piece.compared, hnamed, List.filterMap_append, List.filterMap_flatMap,
    List.filterMap_flatMap]
  exact (congrArg (_ ++ ·) hguards).trans (List.append_nil _)

end Parts

variable {d : Dialect} {root : Entity}

theorem scope_lt_of_mem_numberedFilters {s : Nat × Predicate} (h : s ∈ Condition.numberedFilters cs) :
    s.1 < (ofConditions d root cs).tables.length := by
  obtain ⟨o, ho, hs⟩ := List.mem_filterMap.1 h
  obtain ⟨c, -, rfl⟩ := Option.map_eq_some_iff.1 hs
  have hscope := Condition.scope_of_mem_allNumbered cs o ho
  rw [tables_ofConditions, List.length_cons, List.length_map, Condition.length_allLinks]
  omega

/-- The tables of a plan are the root and, depth first, one table for each join; a join is written with the
name of its table, and its keys relate that to the table of the scope that it starts from, which is the root
or that of a join before it. The second pass writes every predicate with the name of the table that is
planned for its scope: the pieces that it is written in compare columns of that table, and whatever names a
table in them names one of the plan, one of a test around it, or as an operand that of a model which is not
joined. -/
theorem scopes_ofConditions (d : Dialect) (root : Entity) (cs : List Condition) :
    let p := ofConditions d root cs
    let joins := Condition.numberedJoins cs
    let filters := Condition.numberedFilters cs
    p.tables[0]? = some (.root root) ∧
    p.tables.length = joins.length + 1 ∧
    p.joins.length = joins.length ∧
    (∀ i k j, joins[i]? = some (k, j) → k ≤ i ∧ ∃ parent t,
      p.tables[k]? = some parent ∧ p.tables[i + 1]? = some t ∧ t.entity = j.relation.target ∧
      p.joins[i]? = some ⟨joinKind j, j.relation.target.table, t.aliasName, String.intercalate " AND "
        ((t.column j.relation.foreignColumn ++ " = " ++ parent.column j.relation.localColumn) ::
          t.guards (Condition.own j.conditions))⟩) ∧
    (∀ s ∈ filters, s.1 < p.tables.length) ∧
    (p.filterPieces cs).map Piece.textOf = (p.filter cs).map Sql.toText ∧
    ∀ pieces, p.filterPieces cs = .ok pieces →
      (∀ x ∈ pieces, x.InScope p []) ∧
      Piece.compared pieces = filters.flatMap fun s =>
        s.2.compared.map fun f => ((p.table s.1).aliasName, f.columnName) := by
  intro p joins filters
  have hroot : p.root ∈ p.tables := by
    rw [root_ofConditions, tables_ofConditions]
    exact List.mem_cons_self
  have hlength : p.tables.length = joins.length + 1 := length_tables_ofConditions
  have hscopes : ∀ s ∈ filters, s.1 < p.tables.length := fun s hs => scope_lt_of_mem_numberedFilters hs
  refine ⟨?_, hlength, ?_, fun i k j hj => ?_, hscopes, textOf_filterPieces, fun pieces hpieces => ?_⟩
  · rw [tables_ofConditions]
    rfl
  · rw [joins_ofConditions, List.length_map, allLinks_ofConditions (d := d), List.length_map]
  · obtain ⟨hk, hparent, ht, hjoin⟩ := join_ofConditions d root hj
    refine ⟨hk, _, _, hparent, ht, rfl, ?_⟩
    rw [hjoin, Link.planned_eq]
    rfl
  · obtain ⟨parts, hparts, hnamed⟩ := named_filterPieces hpieces
    exact ⟨inScope_filterPieces hparts hscopes hnamed hroot, compared_filterPieces hparts hscopes hnamed⟩

def heldSellers : List Condition :=
  [.join Sample.employer false
    [.join Sample.holding false [.filter (Sample.companyName.eq (.text "a"))],
      .filter (Sample.companyName.eq (.text "b"))]]

/-- The holding is joined to the company, and each name is that of its own table. -/
theorem scopes_heldSellers :
    let p := ofConditions .postgres Sample.seller heldSellers
    (p.joins.map PlannedJoin.on)[1]? = some
      ("company__holding.id = company.holding_id AND company__holding.deleted_at IS NULL") ∧
    ∃ pieces, p.filterPieces heldSellers = .ok pieces ∧
      Piece.compared pieces = [("company__holding", "name"), ("company", "name")] := by
  intro p
  obtain ⟨-, -, -, hjoins, -, -, hfilter⟩ := scopes_ofConditions .postgres Sample.seller heldSellers
  refine ⟨?_, ?_⟩
  · obtain ⟨-, parent, t, hparent, ht, -, hjoin⟩ := hjoins 1 1
      ⟨Sample.holding, false, [.filter (Sample.companyName.eq (.text "a"))]⟩ rfl
    obtain rfl := Option.some.inj hparent
    obtain rfl := Option.some.inj ht
    rw [List.getElem?_map, hjoin]
    decide +kernel
  · obtain ⟨pieces, hpieces⟩ : ∃ pieces, p.filterPieces heldSellers = .ok pieces := ⟨_, rfl⟩
    refine ⟨pieces, hpieces, ?_⟩
    rw [(hfilter pieces hpieces).2]
    decide +kernel

end Plan
end Joinery
