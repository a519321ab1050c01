import Joinery.Proofs.Fragment
import Joinery.Proofs.Positions
import Joinery.Proofs.Rows.Choice
import Joinery.Proofs.Samples
import Joinery.Proofs.Vanishing

/-! Guards against deleted rows.
Every table of a statement whose model has a deletion mark is guarded by a test that the mark is null: the
root at the end of the filter, a join in its `ON`, a test for related rows at the end of its subquery. The
guard is left out only if the scope of the table compares the mark itself. That a guard is written once is
said by comparing statements over the same tables with other marks: all else in them is the same. -/
namespace Joinery

namespace Predicate

/-- Whether a predicate compares a column of its own scope on the left, by itself or in a predicate that
connectives alone lead to. -/
inductive Compares (column : String) : Predicate → Prop where
  | values {f : Field} {o : Operator} {values : List Value} {escape : Option Value}
      (h : f.columnName = column) : Compares column (.compare f o values escape)
  | fields {f : Field} {o : Operator} {operands : List Operand} (h : f.columnName = column) :
      Compares column (.compareFields f o operands)
  | connect {c : Connective} {ps : List Predicate} {p : Predicate} (hp : p ∈ ps)
      (h : Compares column p) : Compares column (.connect c ps)

theorem affects_iff {column : String} {p : Predicate} : p.affects column = true ↔ p.Compares column := by
  induction p using Predicate.induct with
  | compare f o values escape =>
    simp only [affects, beq_iff_eq]
    exact ⟨.values, fun | .values h => h⟩
  | compareFields f o operands =>
    simp only [affects, beq_iff_eq]
    exact ⟨.fields, fun | .fields h => h⟩
  | connect c ps ih =>
    simp only [affects, anyAffects_eq_any, List.any_eq_true]
    constructor
    · rintro ⟨p, hp, h⟩
      exact .connect hp ((ih p hp).1 h)
    · rintro (_ | _ | ⟨hp, h⟩)
      exact ⟨_, hp, (ih _ hp).2 h⟩
  | related r ps ih => exact ⟨nofun, nofun⟩
  | raw sql values => exact ⟨nofun, nofun⟩

instance (column : String) : DecidablePred (Compares column) := fun _ =>
  decidable_of_iff _ affects_iff

end Predicate

namespace Condition

def filter? : Condition → Option Predicate
  | .filter p => some p
  | _ => none

/-- The predicates in the list of a scope itself. -/
def own (cs : List Condition) : List Predicate :=
  cs.filterMap filter?

theorem any_affects_iff {column : String} {cs : List Condition} :
    cs.any (·.affects column) = true ↔ ∃ p ∈ own cs, p.Compares column := by
  simp only [List.any_eq_true, own, List.mem_filterMap]
  constructor
  · rintro ⟨c, hc, h⟩
    cases c with
    | filter p => exact ⟨p, ⟨_, hc, rfl⟩, Predicate.affects_iff.1 h⟩
    | _ => cases h
  · rintro ⟨p, ⟨c, hc, hp⟩, h⟩
    cases c with
    | filter q =>
      obtain rfl := Option.some.inj hp
      exact ⟨_, hc, Predicate.affects_iff.2 h⟩
    | _ => cases hp

end Condition

/-- The guards of a table with the predicates of its scope: one, if there is a mark and no predicate
compares it. -/
def Table.guards (t : Table) (ps : List Predicate) : List String :=
  match t.entity.deletedAt with
  | none => []
  | some mark => if ∃ p ∈ ps, p.Compares mark then [] else [t.column mark ++ " IS NULL"]

theorem Table.toList_liveness? {t : Table} {affected : String → Bool} {ps : List Predicate}
    (h : ∀ mark, affected mark = true ↔ ∃ p ∈ ps, p.Compares mark) :
    (t.liveness? affected).toList = t.guards ps := by
  unfold liveness? guards
  cases t.entity.deletedAt with
  | none => rfl
  | some mark =>
    by_cases hmark : affected mark = true
    · simp only [hmark, (h mark).1 hmark, if_true, Option.toList_none]
    · have hnone : ¬ ∃ p ∈ ps, p.Compares mark := fun hp => hmark ((h mark).2 hp)
      simp only [hmark, hnone, if_false, Bool.false_eq_true, Option.toList_some]

theorem Table.toList_liveness?_own (t : Table) (cs : List Condition) :
    (t.liveness? fun mark => cs.any (·.affects mark)).toList = t.guards (Condition.own cs) :=
  toList_liveness? fun _ => Condition.any_affects_iff

theorem Table.guards_congr {t : Table} {cs cs' : List Condition}
    (h : ∀ mark, cs.any (·.affects mark) = cs'.any (·.affects mark)) :
    t.guards (Condition.own cs) = t.guards (Condition.own cs') := by
  rw [← toList_liveness?_own, ← toList_liveness?_own, funext h]

def Entity.marked (e : Entity) (mark : Option String) : Entity :=
  { e with deletedAt := mark }

def Relation.marked (r : Relation) (mark : Option String) : Relation :=
  { r with target := r.target.marked mark }

def filterText (conjuncts : List String) : String :=
  if conjuncts.isEmpty then "" else "(" ++ String.intercalate " AND " conjuncts ++ ")"

/-- A test for related rows under some conjuncts, of which the first tells that they are related. -/
def existsText (parent : Table) (r : Relation) (conjuncts : List String) : String :=
  "EXISTS (SELECT 1 FROM " ++ r.target.table ++ " " ++ (parent.reach r).aliasName ++ " WHERE "
    ++ String.intercalate " AND " (parent.keyEquality r :: conjuncts) ++ ")"

/-! The joins. -/

theorem Link.on_guarded (l : Link) : l.planned.on = String.intercalate " AND "
    (l.parent.keyEquality l.join.relation :: l.table.guards (Condition.own l.join.conditions)) := by
  rw [← Table.toList_liveness?_own]
  exact l.on_eq rfl

/-! Names do not hang on marks. -/

namespace Plan

variable {p p' : Plan}

/-- The name of a field hangs on the names of the tables of its model. -/
theorem aliasFor_congr {f : Field} (h : (p'.tablesOf f.model).map Table.aliasName =
    (p.tablesOf f.model).map Table.aliasName) : p'.aliasFor f = p.aliasFor f := by
  unfold aliasFor
  generalize p.tablesOf f.model = ts at h ⊢
  generalize p'.tablesOf f.model = ts' at h ⊢
  have hlength : ts'.length = ts.length := by simpa using congrArg List.length h
  have hget (i : Nat) : (ts'[i]?).map Table.aliasName = (ts[i]?).map Table.aliasName := by
    rw [← List.getElem?_map, h, List.getElem?_map]
  match ts, ts' with
  | [], [] => rfl
  | [t], [t'] =>
    have halias : t'.aliasName = t.aliasName := List.singleton_inj.1 h
    cases f.appearance with
    | none => simp only [halias]
    | some i => cases i <;> simp [halias]
  | t :: u :: rest, t' :: u' :: rest' =>
    cases f.appearance with
    | none => simp only [hlength]
    | some i =>
      have hi := hget i
      simp only [hlength]
      cases hts : (t :: u :: rest)[i]? with
      | none =>
        rw [hts, Option.map_none, Option.map_eq_none_iff] at hi
        rw [hi]
      | some x =>
        rw [hts, Option.map_some, Option.map_eq_some_iff] at hi
        obtain ⟨x', hx', halias⟩ := hi
        rw [hx']
        simp only [halias]

theorem named_of_twin (before after : List Table) {t t' : Table} (hdialect : p'.dialect = p.dialect)
    (h : p.tables = before ++ t :: after) (h' : p'.tables = before ++ t' :: after)
    (halias : t'.aliasName = t.aliasName) (hmodel : t'.entity.name = t.entity.name)
    (htable : t'.entity.table = t.entity.table) (fields : List Field) : p.Named p' fields := by
  refine ⟨hdialect, fun f _ => aliasFor_congr ?_⟩
  have hsame : (t'.entity.toModel == f.model) = (t.entity.toModel == f.model) := by
    simp only [BEq.beq, hmodel, htable]
  simp only [tablesOf, h, h', List.filter_append, List.filter_cons, hsame, List.map_append]
  split <;> simp [halias]

end Plan

namespace Table

theorem alike_root (e : Entity) (mark : Option String) : (root e).Alike (root (e.marked mark)) :=
  ⟨rfl, rfl⟩

theorem alike_reach (t : Table) (r : Relation) (mark : Option String) :
    (t.reach r).Alike (t.reach (r.marked mark)) :=
  ⟨rfl, rfl⟩

end Table

namespace Condition

theorem tables_alike {t t' : Table} (h : t.Alike t') (cs : List Condition) :
    (allLinks t' cs).map Link.table = (allLinks t cs).map Link.table := by
  rw [allLinks_eq_flatMap, allLinks_eq_flatMap, List.map_flatMap, List.map_flatMap]
  refine List.flatMap_congr fun c _ => ?_
  cases c with
  | join r load cs => simp only [links, List.map_cons, Link.table, h.reach]
  | _ => rfl

theorem exists_tables_fill (place : Place) (t : Table) :
    ∃ before after, ∀ cs, (allLinks t (place.fill cs)).map Link.table =
      before ++ (allLinks (place.scope t) cs).map Link.table ++ after := by
  induction place generalizing t with
  | here before after =>
    refine ⟨(allLinks t before).map Link.table, (allLinks t after).map Link.table, fun cs => ?_⟩
    simp only [Place.fill, Place.scope, allLinks_append, List.map_append]
  | joined before r load inner after ih =>
    obtain ⟨first, last, h⟩ := ih (t.reach r)
    refine ⟨(allLinks t before).map Link.table ++ t.reach r :: first,
      last ++ (allLinks t after).map Link.table, fun cs => ?_⟩
    simp only [Place.fill, Place.scope, allLinks_append, allLinks, links, List.map_append,
      List.map_cons, h]
    simp [Link.table]

end Condition

/-! The filter of a root. -/

namespace Plan

theorem toText_filter (p : Plan) (cs : List Condition) :
    (p.filter cs).map Sql.toText = (p.scopeFilters p.root cs).map fun written =>
      filterText (written.map Sql.toText ++ p.root.guards (Condition.own cs)) := by
  rw [filter]
  cases p.scopeFilters p.root cs with
  | error e => rfl
  | ok written =>
    simp only [Table.toList_liveness?_own]
    refine congrArg Except.ok ?_
    have htexts : (written ++ (p.root.guards (Condition.own cs)).map Sql.text).map Sql.toText =
        written.map Sql.toText ++ p.root.guards (Condition.own cs) := by
      simp [Function.comp_def]
    simp only [filterText, ← htexts, List.isEmpty_map]
    split
    · rfl
    · simp only [Sql.toText_append, Sql.toText_text, Sql.toText_joined]

theorem filterOf_marked (d : Dialect) (root : Entity) (cs : List Condition) (mark : Option String) :
    (Condition.filterOf d (root.marked mark) cs).map Sql.toText =
      ((ofConditions d root cs).scopeFilters (.root root) cs).map fun written =>
        filterText (written.map Sql.toText ++ (Table.root (root.marked mark)).guards (Condition.own cs)) := by
  have hnamed : (ofConditions d root cs).Named (ofConditions d (root.marked mark) cs)
      (Condition.allReferences cs) := by
    have htables : (ofConditions d (root.marked mark) cs).tables =
        .root (root.marked mark) :: (Condition.allLinks (.root root) cs).map Link.table := by
      rw [tables_ofConditions, Condition.tables_alike (Table.alike_root root mark)]
    exact named_of_twin [] _ (by rw [dialect_ofConditions, dialect_ofConditions])
      tables_ofConditions htables rfl rfl rfl _
  have hscope := hnamed.scopeFilters (Table.alike_root root mark)
  rw [Condition.filterOf, toText_filter, root_ofConditions, hscope]

/-- The mark of a joined table has no say in the filter. -/
theorem filterOf_joined (d : Dialect) (root : Entity) (place : Condition.Place) (r : Relation)
    (load : Bool) (cs : List Condition) (mark : Option String) :
    Condition.filterOf d root (place.fill [.join (r.marked mark) load cs]) =
      Condition.filterOf d root (place.fill [.join r load cs]) := by
  let t := place.scope (.root root)
  have hnamed (fields : List Field) : (ofConditions d root (place.fill [.join r load cs])).Named
      (ofConditions d root (place.fill [.join (r.marked mark) load cs])) fields := by
    obtain ⟨before, after, htables⟩ := Condition.exists_tables_fill place (.root root)
    have hjoin (r : Relation) : (ofConditions d root (place.fill [.join r load cs])).tables =
        (.root root :: before) ++ t.reach r ::
          ((Condition.allLinks (t.reach r) cs).map Link.table ++ after) := by
      rw [tables_ofConditions, htables]
      simp [Condition.allLinks, Condition.links, Link.table, t]
    have hmarked := hjoin (r.marked mark)
    rw [Condition.tables_alike (t.alike_reach r mark)] at hmarked
    exact named_of_twin _ _ (by rw [dialect_ofConditions, dialect_ofConditions]) (hjoin r) hmarked
      rfl rfl rfl _
  have hroot : (ofConditions d root (place.fill [.join (r.marked mark) load cs])).root =
      (ofConditions d root (place.fill [.join r load cs])).root := by
    rw [root_ofConditions, root_ofConditions]
  rw [Condition.filterOf, Condition.filterOf, (hnamed _).filter hroot]
  -- both joins hold the same predicates, in the scope of tables of one name
  have hbelow := (Named.refl (ofConditions d root (place.fill [.join r load cs]))
    (Condition.allReferences cs)).scopeFilters (t.alike_reach r mark)
  refine filter_place (by simp only [List.any_cons, Condition.affects, implies_true]) ?_
  rw [root_ofConditions]
  simp only [scopeFilters, conditionFilters]
  rw [hbelow]

end Plan

/-! A test for related rows in a filter. -/

/-- Whether a text stands once in the text that is made of it, between texts that do not hang on it. -/
def Frames (f : String → String) : Prop :=
  ∃ before after, ∀ s, f s = before ++ s ++ after

namespace Frames

variable {f : String → String}

theorem id : Frames fun s => s :=
  ⟨"", "", by simp⟩

theorem around (h : Frames f) (before after : String) : Frames fun s => before ++ f s ++ after := by
  obtain ⟨first, last, hf⟩ := h
  refine ⟨before ++ first, last ++ after, fun s => ?_⟩
  simp only [hf, String.append_assoc]

theorem intercalate (h : Frames f) (separator : String) (before after : List String) :
    Frames fun s => String.intercalate separator (before ++ f s :: after) := by
  induction before with
  | nil =>
    cases after with
    | nil => simpa using h
    | cons t rest =>
      have htail := h.around "" (separator ++ String.intercalate separator (t :: rest))
      simpa [String.intercalate_cons_of_ne_nil, String.append_assoc] using htail
  | cons t rest ih =>
    have hhead := ih.around (t ++ separator) ""
    simpa [String.intercalate_cons_of_ne_nil, String.append_assoc] using hhead

end Frames

namespace Plan

variable {p : Plan} {t : Table}

theorem predicates_append_eq_ok {ps qs : List Predicate} {written : List Sql} :
    p.predicates t (ps ++ qs) = .ok written ↔ ∃ first, p.predicates t ps = .ok first ∧
      ∃ others, p.predicates t qs = .ok others ∧ first ++ others = written := by
  simp only [predicates_append, bind_eq_ok, pure_eq_ok]

theorem scopeFilters_append_eq_ok {cs cs' : List Condition} {written : List Sql} :
    p.scopeFilters t (cs ++ cs') = .ok written ↔ ∃ first, p.scopeFilters t cs = .ok first ∧
      ∃ others, p.scopeFilters t cs' = .ok others ∧ first ++ others = written := by
  simp only [scopeFilters_append, bind_eq_ok, pure_eq_ok]

theorem predicates_cons_of_shown {c : Predicate} {q : Sql} (h : p.predicate t c = .ok q)
    (hq : q.isEmpty = false) {rest : List Predicate} {written : List Sql}
    (hrest : p.predicates t rest = .ok written) : p.predicates t (c :: rest) = .ok (q :: written) := by
  simp only [predicates, bind_eq_ok, pure_eq_ok]
  exact ⟨q, h, written, hrest, by rw [hq]; rfl⟩

theorem toText_connected {c : Connective} (token : String) :
    ∃ before separator after, ∀ written, written ≠ [] → ∃ q, connected c token written = .ok q ∧
      q.isEmpty = false ∧
        q.toText = before ++ String.intercalate separator (written.map Sql.toText) ++ after := by
  have hmany : ∃ before separator after : String, ∀ written, written ≠ [] →
      connected c token written =
        .ok (.text before ++ Sql.joined separator written ++ .text after) ∧ before ≠ "" := by
    cases c with
    | not =>
      refine ⟨"(" ++ token ++ " (", " " ++ Operator.and.token ++ " ", "))", fun written hwritten => ?_⟩
      simp [connected, hwritten]
    | _ =>
      refine ⟨"(", " " ++ token ++ " ", ")", fun written hwritten => ?_⟩
      simp [connected, hwritten]
  obtain ⟨before, separator, after, h⟩ := hmany
  refine ⟨before, separator, after, fun written hwritten => ?_⟩
  obtain ⟨hok, hbefore⟩ := h written hwritten
  refine ⟨_, hok, ?_, ?_⟩
  · simp [hbefore]
  · simp only [Sql.toText_append, Sql.toText_text, Sql.toText_joined]

theorem toText_subquery (parent : Table) (r : Relation) (written : List Sql) (live : Option String) :
    (subquery t parent r written live).toText =
      "EXISTS (SELECT 1 FROM " ++ r.target.table ++ " " ++ t.aliasName ++ " WHERE "
        ++ String.intercalate " AND "
          ([parent.keyEquality r] ++ written.map Sql.toText ++ live.toList) ++ ")" := by
  have hlive : (live.toList.map Sql.text).map Sql.toText = live.toList := by
    cases live <;> simp
  rw [subquery]
  simp only [Sql.toText_append, Sql.toText_text, Sql.toText_joined, List.map_append, List.map_cons,
    hlive, List.singleton_append]

theorem exists_toText_holding {node : Branch} {ps : List Predicate} {q : Sql}
    (h : p.predicate t (node.holding ps) = .ok q) :
    (∃ written, p.predicates (node.scope t) ps = .ok written) ∧
    ∃ before separator first last after, ∀ qs written,
      (∀ column, Predicate.anyAffects column qs = Predicate.anyAffects column ps) →
      p.predicates (node.scope t) qs = .ok written → written ≠ [] →
      ∃ q', p.predicate t (node.holding qs) = .ok q' ∧ q'.isEmpty = false ∧
        q'.toText = before ++
          String.intercalate separator (first ++ written.map Sql.toText ++ last) ++ after := by
  cases node with
  | connect c =>
    obtain ⟨token, htoken, written, hwritten, -⟩ := predicate_connect_eq_ok.1 h
    obtain ⟨before, separator, after, hall⟩ := toText_connected (c := c) token
    refine ⟨⟨written, hwritten⟩, before, separator, [], [], after, fun qs written' _ hok hne => ?_⟩
    obtain ⟨q', hq', hsome, htext⟩ := hall written' hne
    refine ⟨q', predicate_connect_eq_ok.2 ⟨token, htoken, written', hok, hq'⟩, hsome, ?_⟩
    rw [htext, List.nil_append, List.append_nil]
  | related r =>
    obtain ⟨written, hwritten, -⟩ := predicate_related_eq_ok.1 h
    refine ⟨⟨written, hwritten⟩,
      "EXISTS (SELECT 1 FROM " ++ r.target.table ++ " " ++ (t.reach r).aliasName ++ " WHERE ", " AND ",
      [t.keyEquality r], ((t.reach r).liveness? fun mark => ps.any (·.affects mark)).toList, ")",
      fun qs written' haffects hok _ => ?_⟩
    have hlive : ((t.reach r).liveness? fun mark => qs.any (·.affects mark)) =
        (t.reach r).liveness? fun mark => ps.any (·.affects mark) := by
      simp only [← Predicate.anyAffects_eq_any, haffects]
    have hq' := predicate_related_eq_ok.2 ⟨written', hok, rfl⟩
    rw [hlive] at hq'
    exact ⟨_, hq', subquery_isEmpty _ _ _ _, toText_subquery _ _ _ _⟩

theorem exists_frames_predicates {π : Predicate.Position} {x : Predicate} {written : List Sql}
    (h : p.predicates t (π.fill [x]) = .ok written) :
    (∃ q, p.predicate (π.scope t) x = .ok q) ∧
    ∃ before f after, Frames f ∧ ∀ y q,
      (∀ column, Predicate.anyAffects column [y] = Predicate.anyAffects column [x]) →
      p.predicate (π.scope t) y = .ok q → q.isEmpty = false →
      ∃ written', p.predicates t (π.fill [y]) = .ok written' ∧
        written'.map Sql.toText = before ++ f q.toText :: after := by
  induction π generalizing t written with
  | here before after =>
    obtain ⟨first, hfirst, last, hlast, -⟩ := predicates_append_eq_ok.1 h
    obtain ⟨first, hbefore, middle, hx, rfl⟩ := predicates_append_eq_ok.1 hfirst
    simp only [predicates, bind_eq_ok] at hx
    obtain ⟨q, hq, -⟩ := hx
    refine ⟨⟨q, hq⟩, first.map Sql.toText, _, last.map Sql.toText, .id, fun y q' _ hq' hsome => ?_⟩
    have hy : p.predicates t [y] = .ok [q'] := predicates_cons_of_shown hq' hsome rfl
    refine ⟨first ++ [q'] ++ last, ?_, by simp⟩
    exact predicates_append_eq_ok.2
      ⟨_, predicates_append_eq_ok.2 ⟨_, hbefore, _, hy, rfl⟩, _, hlast, rfl⟩
  | under before node inner after ih =>
    obtain ⟨first, hbefore, rest, hrest, -⟩ := predicates_append_eq_ok.1 h
    simp only [predicates, bind_eq_ok] at hrest
    obtain ⟨q, hq, last, hlast, -⟩ := hrest
    obtain ⟨⟨written, hwritten⟩, before, separator, head, tail, after, hnode⟩ := exists_toText_holding hq
    obtain ⟨hx, pre, f, post, hf, hinner⟩ := ih hwritten
    refine ⟨hx, first.map Sql.toText, _, last.map Sql.toText,
      (hf.intercalate separator (head ++ pre) (post ++ tail)).around before after,
      fun y q' haffects hq' hsome => ?_⟩
    obtain ⟨written', hwritten', htexts⟩ := hinner y q' haffects hq' hsome
    have hne : written' ≠ [] := by
      rintro rfl
      simp at htexts
    obtain ⟨outer, houter, hshown, htext⟩ :=
      hnode _ written' (fun column => inner.anyAffects_fill (haffects column)) hwritten' hne
    refine ⟨first ++ outer :: last, ?_, by simp [htext, htexts]⟩
    exact predicates_append_eq_ok.2
      ⟨_, hbefore, _, predicates_cons_of_shown houter hshown hlast, rfl⟩

theorem exists_scopeFilters_fill {place : Condition.Place} {cs : List Condition} {written : List Sql}
    (h : p.scopeFilters t (place.fill cs) = .ok written) :
    (∃ part, p.scopeFilters (place.scope t) cs = .ok part) ∧
    ∃ before after, ∀ cs' part, p.scopeFilters (place.scope t) cs' = .ok part →
      p.scopeFilters t (place.fill cs') = .ok (before ++ part ++ after) := by
  induction place generalizing t written with
  | here before after =>
    obtain ⟨first, hfirst, last, hlast, -⟩ := scopeFilters_append_eq_ok.1 h
    obtain ⟨first, hbefore, part, hpart, -⟩ := scopeFilters_append_eq_ok.1 hfirst
    refine ⟨⟨part, hpart⟩, first, last, fun cs' part' hpart' => ?_⟩
    exact scopeFilters_append_eq_ok.2
      ⟨_, scopeFilters_append_eq_ok.2 ⟨_, hbefore, _, hpart', rfl⟩, _, hlast, rfl⟩
  | joined before r load inner after ih =>
    obtain ⟨first, hbefore, rest, hrest, -⟩ := scopeFilters_append_eq_ok.1 h
    simp only [scopeFilters, conditionFilters, bind_eq_ok, pure_eq_ok] at hrest
    obtain ⟨written, hwritten, last, hlast, -⟩ := hrest
    obtain ⟨hpart, pre, post, hinner⟩ := ih hwritten
    refine ⟨hpart, first ++ pre, post ++ last, fun cs' part' hpart' => ?_⟩
    have hjoin : p.scopeFilters t (.join r load (inner.fill cs') :: after) =
        .ok (pre ++ part' ++ post ++ last) := by
      simp only [scopeFilters, conditionFilters, bind_eq_ok, pure_eq_ok]
      exact ⟨_, hinner cs' part' hpart', _, hlast, rfl⟩
    refine scopeFilters_append_eq_ok.2 ⟨_, hbefore, _, hjoin, ?_⟩
    simp only [List.append_assoc]

/-- What is written at a position stands in the filter, between texts that do not hang on it. -/
theorem exists_frames_filter {π : Condition.Position} {x : Predicate} {q : Sql}
    (h : p.filter (π.fill [x]) = .ok q) :
    (∃ q, p.predicate (π.scope p.root) x = .ok q) ∧
    ∃ f, Frames f ∧ ∀ y q',
      (∀ column, Predicate.anyAffects column [y] = Predicate.anyAffects column [x]) →
      p.predicate (π.scope p.root) y = .ok q' → q'.isEmpty = false →
      (p.filter (π.fill [y])).map Sql.toText = .ok (f q'.toText) := by
  simp only [filter, bind_eq_ok] at h
  obtain ⟨written, hwritten, -⟩ := h
  obtain ⟨⟨part, hpart⟩, before, after, hplace⟩ := exists_scopeFilters_fill hwritten
  rw [scopeFilters_filters] at hpart
  obtain ⟨hx, pre, f, post, hf, hinner⟩ := exists_frames_predicates hpart
  let guards := p.root.guards (Condition.own (π.fill [x]))
  refine ⟨hx, _, (hf.intercalate " AND " (before.map Sql.toText ++ pre)
    (post ++ after.map Sql.toText ++ guards)).around "(" ")", fun y q' haffects hq' hsome => ?_⟩
  obtain ⟨part', hpart', htexts⟩ := hinner y q' haffects hq' hsome
  rw [← scopeFilters_filters] at hpart'
  have hguards : p.root.guards (Condition.own (π.fill [y])) = guards := by
    refine Table.guards_congr fun mark => π.place.any_affects_fill ?_
    simpa only [Condition.any_affects_filters] using π.inner.anyAffects_fill (haffects mark)
  have hscope : p.scopeFilters p.root (π.fill [y]) = _ := hplace _ part' hpart'
  rw [toText_filter, hscope, hguards]
  simp [filterText, htexts, Except.map]

theorem filterOf_related {d : Dialect} {root : Entity} {π : Condition.Position} {r : Relation}
    {ps : List Predicate} {q : Sql} (h : Condition.filterOf d root (π.fill [.related r ps]) = .ok q) :
    ∃ written, (ofConditions d root (π.fill [.related r ps])).predicates
        ((π.scope (.root root)).reach r) ps = .ok written ∧
      ∃ before after, ∀ mark,
        (Condition.filterOf d root (π.fill [.related (r.marked mark) ps])).map Sql.toText =
          .ok (before ++ existsText (π.scope (.root root)) r (written.map Sql.toText ++
            ((π.scope (.root root)).reach (r.marked mark)).guards ps) ++ after) := by
  let p := ofConditions d root (π.fill [.related r ps])
  let t := π.scope (.root root)
  obtain ⟨⟨q, hq⟩, f, ⟨before, after, hf⟩, hframe⟩ := exists_frames_filter h
  rw [root_ofConditions] at hq hframe
  obtain ⟨written, hwritten, -⟩ := predicate_related_eq_ok.1 hq
  refine ⟨written, hwritten, before, after, fun mark => ?_⟩
  have hplan : p.Rejoined (ofConditions d root (π.fill [.related (r.marked mark) ps])) :=
    (Rejoined.refl (start d root)).fill _ _ π.place _ _
  have hbelow : p.predicates (t.reach (r.marked mark)) ps = .ok written := by
    rw [← hwritten]
    exact Named.predicates fun c _ => (Named.refl p c.references).predicate (t.alike_reach r mark)
  have hguards : ((t.reach (r.marked mark)).liveness? fun column => ps.any (·.affects column)).toList =
      (t.reach (r.marked mark)).guards ps :=
    Table.toList_liveness? fun column => by simp only [List.any_eq_true, Predicate.affects_iff]
  have hmarked := predicate_related_eq_ok.2 ⟨written, hbelow, rfl⟩
  have htext := hframe (.related (r.marked mark) ps) _ (fun _ => rfl) hmarked (subquery_isEmpty _ _ _ _)
  rw [Condition.filterOf, (hplan.named _).filter hplan.root, htext, hf, toText_subquery, hguards]
  rfl

end Plan

namespace Builder

variable {b : Builder} {d : Dialect}

/-- The tables of a compiled statement are guarded, each by the predicates of its own scope. The filter
of the root ends with the guard of the root; every join is written with its own guard after the equality of
the keys; every test for related rows ends with its own guard. Under another mark, or none, of the root, of
a joined model or of related rows, nothing else in the filter changes. -/
theorem guards_compile {s : Statement} (h : b.compile d = .ok s) :
    ∃ filter written,
      (b.plan d).filter b.conditions = .ok filter ∧
      (b.textOf d (b.choice d filter)).map Sql.toText = .ok s.sql ∧
      (b.plan d).scopeFilters (.root b.root) b.conditions = .ok written ∧
      (∀ mark, (Condition.filterOf d (b.root.marked mark) b.conditions).map Sql.toText =
        .ok (filterText (written.map Sql.toText ++
          (Table.root (b.root.marked mark)).guards (Condition.own b.conditions)))) ∧
      (∀ l ∈ b.links, l.planned.on = String.intercalate " AND "
        (l.parent.keyEquality l.join.relation :: l.table.guards (Condition.own l.join.conditions))) ∧
      (∀ place r load cs, b.conditions = Condition.Place.fill [.join r load cs] place → ∀ mark,
        Condition.filterOf d b.root (place.fill [.join (r.marked mark) load cs]) = .ok filter) ∧
      ∀ π r ps, b.conditions = Condition.Position.fill [.related r ps] π → ∃ below,
        (b.plan d).predicates ((π.scope (.root b.root)).reach r) ps = .ok below ∧
        ∃ before after, ∀ mark,
          (Condition.filterOf d b.root (π.fill [.related (r.marked mark) ps])).map Sql.toText =
            .ok (before ++ existsText (π.scope (.root b.root)) r (below.map Sql.toText ++
              ((π.scope (.root b.root)).reach (r.marked mark)).guards ps) ++ after) := by
  obtain ⟨filter, hfilter, htext⟩ := exists_choice h
  obtain ⟨written, hwritten, -⟩ := bind_eq_ok.1 hfilter
  rw [plan, Plan.root_ofConditions] at hwritten
  refine ⟨filter, written, hfilter, htext, hwritten, fun mark => ?_, fun l _ => l.on_guarded,
    fun place r load cs hplace mark => ?_, fun π r ps hπ => ?_⟩
  · rw [Plan.filterOf_marked, hwritten]
    rfl
  · rw [Plan.filterOf_joined, ← hplace]
    exact hfilter
  · rw [plan, hπ] at hfilter ⊢
    exact Plan.filterOf_related hfilter

def sellersOfDeleted : Builder :=
  .query (.ofConditions Sample.seller
    [.join Sample.employer false [.filter (.and [(Field.ofName Sample.companyModel "DeletedAt").isNotNull])],
      .filter (.related Sample.employer [Sample.companyName.eq (.text "a")])])

/-- The join speaks of the mark and has no guard; the test for related rows keeps its own. -/
theorem guards_sellersOfDeleted :
    (∀ l ∈ sellersOfDeleted.links, l.planned.on = "company.id = sellers.company_id") ∧
    ∃ s before below after, sellersOfDeleted.compile .postgres = .ok s ∧
      (Condition.filterOf .postgres Sample.seller sellersOfDeleted.conditions).map Sql.toText =
        .ok (before ++ existsText (.root Sample.seller) Sample.employer
          (below ++ ["company.deleted_at IS NULL"]) ++ after) := by
  obtain ⟨s, hs⟩ : ∃ s, sellersOfDeleted.compile .postgres = .ok s := ⟨_, rfl⟩
  obtain ⟨filter, written, -, -, -, -, hjoins, -, hrelated⟩ := guards_compile hs
  refine ⟨fun l hl => ?_, ?_⟩
  · rw [hjoins l hl, List.mem_singleton.1 hl]
    decide +kernel
  · obtain ⟨below, -, before, after, hall⟩ := hrelated
      (.direct (.here (sellersOfDeleted.conditions.take 1) [])) Sample.employer _ rfl
    refine ⟨s, before, below.map Sql.toText, after, hs, ?_⟩
    have hguards : ((Table.root Sample.seller).reach Sample.employer).guards
        [Sample.companyName.eq (.text "a")] = ["company.deleted_at IS NULL"] := by
      decide +kernel
    rw [← hguards]
    exact hall (some "deleted_at")

end Builder
end Joinery
