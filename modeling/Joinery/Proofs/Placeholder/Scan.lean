import Joinery.Proofs.Fragment
import Joinery.Proofs.Spelling

/-! Scanning SQL text for placeholders, piece by piece.
A text is neutral when a scan that enters it outside of literals leaves it outside of literals and meets
no placeholder in between. Fragments whose texts are neutral are found again in their rendered text. -/
namespace Joinery

namespace Scan

def after (backslash : Bool) (place : Scan) (cs : List Char) : Scan :=
  cs.foldl (next backslash) place

@[simp] theorem after_nil (backslash : Bool) (place : Scan) : after backslash place [] = place := rfl

@[simp] theorem after_cons (backslash : Bool) (place : Scan) (c : Char) (cs : List Char) :
    after backslash place (c :: cs) = after backslash (place.next backslash c) cs := rfl

/-- Whether a scan from a place meets no placeholder and ends outside of literals. -/
def Passes (backslash : Bool) : Scan → List Char → Prop
  | place, [] => place = .outside
  | place, c :: rest => ¬(place = .outside ∧ c = '?') ∧ Passes backslash (place.next backslash c) rest

theorem Passes.append {backslash : Bool} {place : Scan} {as bs : List Char}
    (ha : Passes backslash place as) (hb : Passes backslash .outside bs) :
    Passes backslash place (as ++ bs) := by
  induction as generalizing place with
  | nil => exact (show place = .outside from ha) ▸ hb
  | cons c rest ih => exact ⟨ha.1, ih ha.2⟩

end Scan

/-- Whether a character neither opens a literal nor is a placeholder. -/
def isPlain (c : Char) : Bool :=
  !Scan.isQuote c && c != '?'

namespace Sql

/-- A text that a scan passes without meeting a placeholder. -/
def Neutral (backslash : Bool) (s : String) : Prop :=
  Scan.Passes backslash .outside s.toList

abbrev Plain (s : String) : Prop :=
  Spelled isPlain s

theorem Neutral.append {backslash : Bool} {s t : String} (hs : Neutral backslash s)
    (ht : Neutral backslash t) : Neutral backslash (s ++ t) := by
  rw [Neutral, String.toList_append]
  exact Scan.Passes.append hs ht

theorem passes_of_plain {backslash : Bool} {cs : List Char} (h : ∀ c ∈ cs, isPlain c = true) :
    Scan.Passes backslash .outside cs := by
  induction cs with
  | nil => rfl
  | cons c rest ih =>
    have hc := h c (by simp)
    simp only [isPlain, Bool.and_eq_true, Bool.not_eq_true', bne_iff_ne, ne_eq] at hc
    refine ⟨fun hq => hc.2 hq.2, ?_⟩
    rw [show Scan.outside.next backslash c = .outside by simp [Scan.next, hc.1]]
    exact ih fun d hd => h d (by simp [hd])

theorem neutral_of_plain {backslash : Bool} {s : String} (h : Plain s) : Neutral backslash s :=
  passes_of_plain h

theorem plain_toString (n : Nat) : Plain (toString n) := by
  intro c hc
  rw [Nat.toString_eq_ofList_toDigits, String.toList_ofList] at hc
  have hdigit := Nat.isDigit_of_mem_toDigits (by decide) (by decide) hc
  have hne (x : Char) (hx : x.isDigit = false) : c ≠ x := by
    rintro rfl
    rw [hdigit] at hx
    cases hx
  simp [isPlain, Scan.isQuote, hne '\'' (by decide), hne '"' (by decide), hne '\x60' (by decide),
    hne '?' (by decide)]

theorem Neutral.join {backslash : Bool} {ss : List String} (h : ∀ s ∈ ss, Neutral backslash s) :
    Neutral backslash (String.join ss) := by
  induction ss with
  | nil => rfl
  | cons s rest ih =>
    rw [String.join_cons]
    exact (h s (by simp)).append (ih fun t ht => h t (by simp [ht]))

theorem splitFrom_append {backslash : Bool} {place : Scan} {cs : List Char}
    (h : Scan.Passes backslash place cs) (read rest : List Char) :
    splitFrom backslash place read (cs ++ rest) =
      splitFrom backslash .outside (cs.reverse ++ read) rest := by
  induction cs generalizing place read with
  | nil => simp [show place = .outside from h]
  | cons c cs ih =>
    rw [List.cons_append, splitFrom, if_neg h.1, ih h.2]
    simp

/-- What a scan has read before a text only stands in front of the parts of the text. -/
theorem splitFrom_eq_appendParts (backslash : Bool) (place : Scan) (read cs : List Char) :
    splitFrom backslash place read cs = appendParts (flush read) (splitFrom backslash place [] cs) := by
  induction cs generalizing place read with
  | nil => exact (appendParts_nil _).symm
  | cons c rest ih =>
    rw [splitFrom, splitFrom]
    split
    · cases read <;> simp [flush, appendParts]
    · have hflush : flush (c :: read) = appendParts (flush read) (flush [c]) := by
        cases read <;> simp [flush, appendParts, ← String.toList_inj]
      rw [ih, hflush, appendParts_assoc, ← ih _ [c]]

/-- A text after one that ends outside of literals is cut as if it stood alone. -/
theorem splitFrom_append_of_after {backslash : Bool} {place : Scan} {cs : List Char}
    (h : Scan.after backslash place cs = .outside) (read rest : List Char) :
    splitFrom backslash place read (cs ++ rest) =
      appendParts (splitFrom backslash place read cs) (splitFrom backslash .outside [] rest) := by
  induction cs generalizing place read with
  | nil =>
    obtain rfl : place = .outside := h
    exact splitFrom_eq_appendParts _ _ _ _
  | cons c cs ih =>
    rw [List.cons_append, splitFrom, splitFrom]
    split
    · rename_i hq
      have hend : Scan.after backslash .outside cs = .outside := by
        rw [Scan.after_cons, hq.1, hq.2] at h
        exact h
      rw [ih hend]
      cases read <;> simp [flush, appendParts]
    · exact ih h _

theorem splitFrom_placeholder (backslash : Bool) (read rest : List Char) :
    splitFrom backslash .outside read ('?' :: rest) =
      flush read ++ .param :: splitFrom backslash .outside [] rest := by
  simp [splitFrom]

theorem flush_reverse_toList {s : String} (h : s ≠ "") : flush s.toList.reverse = [.raw s] := by
  simp [flush, h]

theorem splitFrom_renderFrom {backslash : Bool} {parts : List Part} (hm : Merged parts)
    (hn : ∀ s, .raw s ∈ parts → Neutral backslash s) :
    splitFrom backslash .outside [] (renderFrom (fun _ => "?") 0 parts).toList = parts := by
  induction parts with
  | nil => rfl
  | cons part rest ih =>
    cases part with
    | param =>
      have hrest := ih hm fun s hs => hn s (by simp [hs])
      rw [renderFrom, renderFrom_const "?" _ 0, String.toList_append]
      simpa [splitFrom_placeholder, flush] using hrest
    | raw s =>
      have hrest := ih hm.2.2 fun t ht => hn t (by simp [ht])
      rw [renderFrom, String.toList_append, splitFrom_append (hn s (by simp)), List.append_nil]
      cases rest with
      | nil => exact flush_reverse_toList hm.1
      | cons next rest =>
        cases next with
        | raw t => cases hm.2.1
        | param =>
          rw [renderFrom, String.toList_append] at hrest ⊢
          rw [show "?".toList = ['?'] from rfl, List.singleton_append,
            splitFrom_placeholder] at hrest ⊢
          rw [flush_reverse_toList hm.1]
          simpa [flush] using hrest

theorem merged_splitFrom (backslash : Bool) (place : Scan) (read cs : List Char) :
    Merged (splitFrom backslash place read cs) := by
  have hflush : ∀ read, Merged (flush read) := by
    intro read
    cases read <;> simp [flush, Merged, startsRaw]
  induction cs generalizing place read with
  | nil => exact hflush read
  | cons c rest ih =>
    rw [splitFrom]
    split
    · cases read with
      | nil => simpa [flush, Merged] using ih .outside []
      | cons d read => simpa [flush, Merged, startsRaw] using ih .outside []
    · exact ih _ _

theorem neutral_flush {backslash : Bool} {read : List Char}
    (h : Scan.Passes backslash .outside read.reverse) :
    ∀ s, .raw s ∈ flush read → Neutral backslash s := by
  intro s hs
  unfold flush at hs
  split at hs
  · simp at hs
  · rw [Part.raw.inj (List.mem_singleton.1 hs), Neutral, String.toList_ofList]
    exact h

theorem neutral_splitFrom {backslash : Bool} {place : Scan} {read cs : List Char}
    (hend : Scan.after backslash place cs = .outside)
    (hread : ∀ rest, Scan.Passes backslash place rest →
      Scan.Passes backslash .outside (read.reverse ++ rest)) :
    ∀ s, .raw s ∈ splitFrom backslash place read cs → Neutral backslash s := by
  induction cs generalizing place read with
  | nil => exact neutral_flush (by simpa using hread [] hend)
  | cons c rest ih =>
    intro s hs
    rw [splitFrom] at hs
    split at hs
    · rename_i hq
      rw [List.mem_append, List.mem_cons] at hs
      obtain hs | hs | hs := hs
      · exact neutral_flush (by simpa using hread [] hq.1) s hs
      · cases hs
      · have hrest : Scan.after backslash .outside rest = .outside := by
          rw [Scan.after_cons, hq.1, hq.2] at hend
          exact hend
        exact ih hrest (fun rest h => by simpa using h) s hs
    · rename_i hq
      refine ih hend (fun rest h => ?_) s hs
      simpa using hread (c :: rest) ⟨hq, h⟩

end Sql
end Joinery
