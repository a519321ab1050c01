import Joinery.Proofs.Spelling

/-! SQL text as nested items.
A word ends at a blank, a parenthesis or a quote, a literal is a word of its own, and parentheses make a
group. A text is written as items when a scan that enters it between two words gives these items,
whatever stands before it and around it. -/
namespace Joinery
namespace Reading

/-- A word, or the items between two parentheses. -/
inductive Item where
  | word (characters : List Char)
  | group (items : List Item)
deriving Repr

/-- A scan of SQL: its place, the open word with the last character first, the items of the innermost
open group, and those of the groups around it. -/
structure State where
  place : Scan
  word : List Char
  frame : List Item
  outer : List (List Item)
deriving Repr

def ended (word : List Char) : List Item :=
  if word.isEmpty then [] else [.word word.reverse]

@[simp] theorem ended_nil : ended [] = [] := rfl

theorem ended_of_ne_nil {word : List Char} (h : word ≠ []) : ended word = [.word word.reverse] := by
  simp [ended, h]

namespace State

def start : State :=
  ⟨.outside, [], [], []⟩

def literal (backslash : Bool) (x : State) (c : Char) : State :=
  let place := x.place.next backslash c
  if place = .outside then ⟨.outside, [], x.frame ++ ended (c :: x.word), x.outer⟩
  else ⟨place, c :: x.word, x.frame, x.outer⟩

/-- One more character; a parenthesis that closes nothing is no SQL. -/
def step (backslash : Bool) (x : State) (c : Char) : Option State :=
  if x.place ≠ .outside then some (x.literal backslash c)
  else if Scan.isQuote c then some ⟨.inside c false, [c], x.frame ++ ended x.word, x.outer⟩
  else if c = '(' then some ⟨.outside, [], [], (x.frame ++ ended x.word) :: x.outer⟩
  else if c = ')' then
    match x.outer with
    | [] => none
    | frame :: outer => some ⟨.outside, [], frame ++ [.group (x.frame ++ ended x.word)], outer⟩
  else if c.isWhitespace then some ⟨.outside, [], x.frame ++ ended x.word, x.outer⟩
  else some ⟨.outside, c :: x.word, x.frame, x.outer⟩

def run (backslash : Bool) : State → List Char → Option State
  | x, [] => some x
  | x, c :: rest => (x.step backslash c).bind fun y => run backslash y rest

theorem run_append (backslash : Bool) (x : State) (as bs : List Char) :
    run backslash x (as ++ bs) = (run backslash x as).bind fun y => run backslash y bs := by
  induction as generalizing x with
  | nil => rfl
  | cons c rest ih =>
    cases h : x.step backslash c with
    | none => simp [run, h]
    | some y => simpa [run, h] using ih y

/-- The groups around a scan, when the outermost items follow others and stand in further groups. -/
def around (before : List Item) (outer : List (List Item)) : List (List Item) → List (List Item)
  | [] => outer
  | [frame] => (before ++ frame) :: outer
  | frame :: next :: rest => frame :: around before outer (next :: rest)

def within (before : List Item) (outer : List (List Item)) (x : State) : State :=
  { x with
    frame := if x.outer.isEmpty then before ++ x.frame else x.frame
    outer := around before outer x.outer }

theorem step_within {backslash : Bool} {x y : State} {c : Char} (h : x.step backslash c = some y)
    (before : List Item) (outer : List (List Item)) :
    (x.within before outer).step backslash c = some (y.within before outer) := by
  obtain ⟨place, word, frame, groups⟩ := x
  simp only [step] at h
  simp only [step, within]
  split at h
  · rename_i hplace
    rw [if_pos hplace, ← Option.some.inj h]
    simp only [literal, Option.some.injEq]
    split <;> cases groups <;> simp [around]
  · rename_i hplace
    rw [if_neg hplace]
    split at h
    · rename_i hquote
      rw [if_pos hquote, ← Option.some.inj h]
      cases groups <;> simp [around]
    · rename_i hquote
      rw [if_neg hquote]
      split at h
      · rename_i hopen
        rw [if_pos hopen, ← Option.some.inj h]
        cases groups <;> simp [around]
      · rename_i hopen
        rw [if_neg hopen]
        split at h
        · rename_i hclose
          rw [if_pos hclose]
          cases groups with
          | nil => cases h
          | cons group groups =>
            rw [← Option.some.inj h]
            cases groups <;> simp [around]
        · rename_i hclose
          rw [if_neg hclose]
          split at h
          · rename_i hblank
            rw [if_pos hblank, ← Option.some.inj h]
            cases groups <;> simp [around]
          · rename_i hblank
            rw [if_neg hblank, ← Option.some.inj h]

theorem run_within {backslash : Bool} {x y : State} {cs : List Char}
    (h : run backslash x cs = some y) (before : List Item) (outer : List (List Item)) :
    run backslash (x.within before outer) cs = some (y.within before outer) := by
  induction cs generalizing x with
  | nil =>
    rw [← Option.some.inj h]
    rfl
  | cons c rest ih =>
    obtain ⟨z, hz, h⟩ := Option.bind_eq_some_iff.1 h
    rw [run, step_within hz]
    exact ih h

end State

/-- The items of a text, if its literals and groups are closed. -/
def items (backslash : Bool) (s : String) : Option (List Item) :=
  match State.start.run backslash s.toList with
  | some ⟨.outside, word, frame, []⟩ => some (frame ++ ended word)
  | _ => none

/-- A text takes a scan from an open word to another, adding items on its way. -/
def Adds (backslash : Bool) (word : List Char) (s : String) (added : List Item)
    (word' : List Char) : Prop :=
  ∀ frame outer, State.run backslash ⟨.outside, word, frame, outer⟩ s.toList =
    some ⟨.outside, word', frame ++ added, outer⟩

/-- A text that a scan takes for items, when it enters the text between two words. -/
def Written (backslash : Bool) (s : String) (xs : List Item) : Prop :=
  ∃ added word, Adds backslash [] s added word ∧ xs = added ++ ended word

variable {backslash : Bool}

theorem items_eq_some_iff {s : String} {xs : List Item} :
    items backslash s = some xs ↔ Written backslash s xs := by
  constructor
  · intro h
    unfold items at h
    split at h
    · rename_i word frame hrun
      refine ⟨frame, word, fun before outer => ?_, (Option.some.inj h).symm⟩
      simpa [State.within, State.start, State.around] using State.run_within hrun before outer
    · cases h
  · rintro ⟨added, word, hadds, rfl⟩
    have hrun := hadds [] []
    simp only [items, State.start, hrun, List.nil_append]

theorem Adds.append {word word' word'' : List Char} {s t : String} {xs ys : List Item}
    (hs : Adds backslash word s xs word') (ht : Adds backslash word' t ys word'') :
    Adds backslash word (s ++ t) (xs ++ ys) word'' := by
  intro frame outer
  rw [String.toList_append, State.run_append, hs, Option.bind_some, ht, List.append_assoc]

def isSolid (c : Char) : Bool :=
  !Scan.isQuote c && c != '(' && c != ')' && !c.isWhitespace

theorem adds_solid {s : String} (h : Spelled isSolid s) (word : List Char) :
    Adds backslash word s [] (s.toList.reverse ++ word) := by
  have hrun (cs : List Char) (hcs : ∀ c ∈ cs, isSolid c = true) (word : List Char)
      (frame : List Item) (outer : List (List Item)) :
      State.run backslash ⟨.outside, word, frame, outer⟩ cs =
        some ⟨.outside, cs.reverse ++ word, frame, outer⟩ := by
    induction cs generalizing word with
    | nil => rfl
    | cons c rest ih =>
      have hc := hcs c (by simp)
      simp only [isSolid, Bool.and_eq_true, Bool.not_eq_true', bne_iff_ne] at hc
      have hstep : State.step backslash ⟨.outside, word, frame, outer⟩ c =
          some ⟨.outside, c :: word, frame, outer⟩ := by
        simp [State.step, hc]
      rw [State.run, hstep, Option.bind_some, ih (fun x hx => hcs x (by simp [hx]))]
      simp
  intro frame outer
  rw [hrun s.toList h, List.append_nil]

theorem adds_blank (word : List Char) : Adds backslash word " " (ended word) [] :=
  fun _ _ => rfl

theorem Adds.group {s : String} {xs : List Item} {word' : List Char}
    (h : Adds backslash [] s xs word') (word : List Char) :
    Adds backslash word ("(" ++ s ++ ")") (ended word ++ [.group (xs ++ ended word')]) [] := by
  intro frame outer
  have hopen : State.run backslash ⟨.outside, word, frame, outer⟩ "(".toList =
      some ⟨.outside, [], [], (frame ++ ended word) :: outer⟩ := rfl
  have hclose : State.run backslash ⟨.outside, word', xs, (frame ++ ended word) :: outer⟩ ")".toList =
      some ⟨.outside, [], frame ++ ended word ++ [.group (xs ++ ended word')], outer⟩ := rfl
  rw [String.toList_append, String.toList_append, State.run_append, State.run_append, hopen,
    Option.bind_some, h, Option.bind_some, List.nil_append, hclose, List.append_assoc]

namespace Written

variable {s t : String} {xs ys : List Item}

theorem solid (h : Spelled isSolid s) : Written backslash s (ended s.toList.reverse) :=
  ⟨[], s.toList.reverse, by simpa using adds_solid h [], by simp⟩

theorem word (h : Spelled isSolid s) (hne : s ≠ "") : Written backslash s [.word s.toList] := by
  have hs : Written backslash s _ := solid h
  rwa [ended_of_ne_nil (by simpa using hne), List.reverse_reverse] at hs

theorem blank (hs : Written backslash s xs) (ht : Written backslash t ys) :
    Written backslash (s ++ " " ++ t) (xs ++ ys) := by
  obtain ⟨added, word, hadds, rfl⟩ := hs
  obtain ⟨added', word', hadds', rfl⟩ := ht
  exact ⟨added ++ ended word ++ added', word', (hadds.append (adds_blank word)).append hadds',
    by simp⟩

theorem call {name : String} (hname : Spelled isSolid name) (hs : Written backslash s xs) :
    Written backslash (name ++ "(" ++ s ++ ")") (ended name.toList.reverse ++ [.group xs]) := by
  obtain ⟨added, word, hadds, rfl⟩ := hs
  have h : Adds backslash [] (name ++ ("(" ++ s ++ ")"))
      (ended name.toList.reverse ++ [.group (added ++ ended word)]) [] := by
    simpa using (adds_solid hname []).append (hadds.group _)
  refine ⟨_, [], ?_, (List.append_nil _).symm⟩
  simpa [String.append_assoc] using h

theorem group (hs : Written backslash s xs) : Written backslash ("(" ++ s ++ ")") [.group xs] := by
  simpa using call (by decide : Spelled isSolid "") hs

theorem congr (hs : Written backslash s xs) (h : s.toList = t.toList) : Written backslash t xs :=
  String.toList_inj.1 h ▸ hs

theorem ne_empty (hs : Written backslash s xs) (hne : xs ≠ []) : s ≠ "" := by
  rintro rfl
  have h := items_eq_some_iff.2 hs
  exact hne (Option.some.inj h).symm

theorem glue (hs : Written backslash s xs) (ht : Spelled isSolid t) :
    ∃ ys, Written backslash (s ++ t) ys := by
  obtain ⟨added, word, hadds, rfl⟩ := hs
  exact ⟨_, _, _, hadds.append (adds_solid ht word), rfl⟩

end Written

/-- A text that goes on after a written text, with items of its own. -/
def Follows (backslash : Bool) (s : String) (xs : List Item) : Prop :=
  ∀ t ys, Written backslash t ys → Written backslash (t ++ s) (ys ++ xs)

namespace Follows

variable {s t : String} {xs ys : List Item}

theorem empty : Follows backslash "" [] := by
  intro t ys h
  simpa using h

theorem append (hs : Follows backslash s xs) (ht : Follows backslash t ys) :
    Follows backslash (s ++ t) (xs ++ ys) := by
  intro u zs h
  simpa [String.append_assoc] using ht _ _ (hs _ _ h)

theorem blank (hs : Written backslash s xs) : Follows backslash (" " ++ s) xs := by
  intro t ys h
  simpa [String.append_assoc] using h.blank hs

end Follows
end Reading
end Joinery
