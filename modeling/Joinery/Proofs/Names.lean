import Joinery.Text.Words
import Mathlib.Data.List.Basic
import Mathlib.Data.List.Chain

/-! Characters of names in snake case.
A name in snake case holds letters, digits, underscores and characters beyond ASCII, hence none of the
characters that mean something in SQL. Its underscores stand alone, between its words. -/
namespace Joinery
namespace Text

/-- ASCII letters and digits, the underscore, and every character beyond ASCII. -/
def isNameChar (c : Char) : Bool :=
  c.toNat == 95 || (decide (48 ≤ c.toNat) && decide (c.toNat ≤ 57))
    || (decide (65 ≤ c.toNat) && decide (c.toNat ≤ 90))
    || (decide (97 ≤ c.toNat) && decide (c.toNat ≤ 122)) || decide (128 ≤ c.toNat)

theorem ne_of_isNameChar {c x : Char} (hc : isNameChar c = true) (hx : isNameChar x = false) :
    c ≠ x := by
  rintro rfl
  rw [hc] at hx
  cases hx

def isWordChar (c : Char) : Bool :=
  isNameChar c && c != '_'

theorem isNameChar_of_isWordChar {c : Char} (h : isWordChar c = true) : isNameChar c = true :=
  (Bool.and_eq_true_iff.1 h).1

theorem ne_of_isWordChar {c : Char} (h : isWordChar c = true) : c ≠ '_' := by
  simpa using (Bool.and_eq_true_iff.1 h).2

theorem isWordChar_of_le {c : Char} (h : 128 ≤ c.toNat) : isWordChar c = true := by
  have hne : c ≠ '_' := by
    rintro rfl
    revert h
    decide
  simp [isWordChar, isNameChar, h, hne]

def CaseRun.staysInNames (r : CaseRun) : Bool :=
  let first := Int.ofNat r.first + r.shift
  let last := Int.ofNat r.last + r.shift
  (decide (97 ≤ first) && decide (last ≤ 122)) || (decide (128 ≤ first) && decide (last < 0xD800))
    || (decide (0xE000 ≤ first) && decide (last < 0x110000))

theorem lowerMap_runs_stay : ∀ r ∈ lowerMap.runs.toList, r.staysInNames = true := by
  decide +kernel

theorem lowerMap_special_stays :
    ∀ p ∈ lowerMap.special.toList, ∀ n ∈ p.2, isWordChar (Char.ofNat n) = true := by
  decide +kernel

theorem toNat_ofNat_of_valid {n : Nat} (h : n.isValidChar) : (Char.ofNat n).toNat = n := by
  rw [Char.ofNat, dif_pos h]
  rfl

theorem isWordChar_shifted {r : CaseRun} (hr : r.staysInNames = true) {n : Nat}
    (hn : r.covers n = true) : isWordChar (Char.ofNat (Int.ofNat n + r.shift).toNat) = true := by
  simp only [CaseRun.covers, Bool.and_eq_true, decide_eq_true_eq] at hn
  simp only [CaseRun.staysInNames, Bool.or_eq_true, Bool.and_eq_true, decide_eq_true_eq] at hr
  have hfirst : Int.ofNat r.first ≤ Int.ofNat n := Int.ofNat_le.2 hn.1.1
  have hlast : Int.ofNat n ≤ Int.ofNat r.last := Int.ofNat_le.2 hn.1.2
  generalize hm : (Int.ofNat n + r.shift).toNat = m
  have hvalid : m.isValidChar := by
    unfold Nat.isValidChar
    omega
  have htoNat := toNat_ofNat_of_valid hvalid
  have hne : Char.ofNat m ≠ '_' := by
    intro h
    have hm95 : m = 95 := by rw [← htoNat, h]; rfl
    omega
  simp only [isWordChar, isNameChar, htoNat, Bool.or_eq_true, Bool.and_eq_true,
    decide_eq_true_eq, beq_iff_eq, bne_iff_ne]
  exact ⟨by omega, hne⟩

theorem isWordChar_lowerMap {c : Char} (hc : 128 ≤ c.toNat) :
    ∀ x ∈ lowerMap.apply c, isWordChar x = true := by
  intro x hx
  unfold CaseMap.apply at hx
  split at hx
  · rename_i p hp
    have hmem : p ∈ lowerMap.special.toList :=
      Array.mem_toList_iff.2 (Array.mem_of_find?_eq_some hp)
    obtain ⟨n, hn, rfl⟩ := List.mem_map.1 hx
    exact lowerMap_special_stays p hmem n hn
  · split at hx
    · rename_i r hr
      have hmem : r ∈ lowerMap.runs.toList :=
        Array.mem_toList_iff.2 (Array.mem_of_find?_eq_some hr)
      have hcovers := Array.find?_some hr
      rw [List.mem_singleton.1 hx]
      exact isWordChar_shifted (lowerMap_runs_stay r hmem) hcovers
    · rw [List.mem_singleton.1 hx]
      exact isWordChar_of_le hc

theorem isWordChar_toLower {c : Char} (hc : c.toNat < 128) (h : c.isAlphanum = true) :
    isWordChar c.toLower = true := by
  have all : ∀ n < 128, (Char.ofNat n).isAlphanum = true → isWordChar (Char.ofNat n).toLower = true := by
    decide
  simpa using all c.toNat hc (by simpa using h)

theorem isWordChar_lower {c : Char} (h : isAlphanumeric c = true) :
    ∀ x ∈ lower c, isWordChar x = true := by
  intro x hx
  unfold isAlphanumeric at h
  unfold lower at hx
  split at hx
  · rename_i hc
    rw [if_pos hc] at h
    rw [List.mem_singleton.1 hx]
    exact isWordChar_toLower hc h
  · exact isWordChar_lowerMap (by omega) x hx

theorem isWordChar_lowerWord {w : List Char} (h : ∀ c ∈ w, isAlphanumeric c = true) :
    ∀ x ∈ lowerWord w, isWordChar x = true := by
  induction w with
  | nil => simp [lowerWord]
  | cons c rest ih =>
    have hc := isWordChar_lower (h c (by simp))
    have hrest := ih fun d hd => h d (by simp [hd])
    intro x hx
    cases rest with
    | nil =>
      rw [lowerWord] at hx
      split at hx
      · rw [List.mem_singleton.1 hx]
        decide
      · exact hc x hx
    | cons d rest =>
      rw [lowerWord, List.mem_append] at hx
      · exact hx.elim (hc x) (hrest x)
      · simp

theorem mem_splitRun {w : WordCase} {word cs : List Char} {out : List Char}
    (h : out ∈ splitRun w word cs) : ∀ c ∈ out, c ∈ word ∨ c ∈ cs := by
  induction cs generalizing w word with
  | nil => simp [splitRun] at h
  | cons c rest ih =>
    cases rest with
    | nil =>
      rw [splitRun, List.mem_singleton] at h
      subst h
      simp
    | cons d rest =>
      rw [splitRun] at h
      split at h
      · rcases List.mem_cons.1 h with rfl | h
        · simp
          grind
        · intro x hx
          have := ih h x hx
          grind
      · split at h
        · rcases List.mem_cons.1 h with rfl | h
          · simp
            grind
          · intro x hx
            have := ih h x hx
            grind
        · intro x hx
          have := ih h x hx
          grind

theorem isAlphanumeric_runsFrom {run cs out : List Char} (hrun : ∀ c ∈ run, isAlphanumeric c = true)
    (h : out ∈ runsFrom run cs) : ∀ c ∈ out, isAlphanumeric c = true := by
  induction cs generalizing run with
  | nil =>
    rw [runsFrom, List.mem_singleton] at h
    subst h
    simpa using hrun
  | cons c rest ih =>
    rw [runsFrom] at h
    split at h
    · rename_i hc
      exact ih (by simpa [hc] using hrun) h
    · rcases List.mem_cons.1 h with rfl | h
      · simpa using hrun
      · exact ih (by simp) h

theorem isAlphanumeric_words {s : String} {w : List Char} (h : w ∈ words s) :
    ∀ c ∈ w, isAlphanumeric c = true := by
  obtain ⟨run, hrun, hw⟩ := List.mem_flatMap.1 h
  intro c hc
  have := mem_splitRun hw c hc
  exact isAlphanumeric_runsFrom (by simp) hrun c (by simpa using this)

theorem mem_intercalate {α : Type} {separator : List α} {parts : List (List α)} {x : α}
    (h : x ∈ separator.intercalate parts) : x ∈ separator ∨ ∃ l ∈ parts, x ∈ l := by
  induction parts with
  | nil => simp at h
  | cons l rest ih =>
    cases rest with
    | nil => exact .inr ⟨l, by simp, by simpa using h⟩
    | cons l' rest =>
      rw [List.intercalate_cons_cons, List.mem_append, List.mem_append] at h
      rcases h with (h | h) | h
      · exact .inr ⟨l, by simp, h⟩
      · exact .inl h
      · obtain h | ⟨k, hk, hx⟩ := ih h
        · exact .inl h
        · exact .inr ⟨k, by simp [hk], hx⟩

theorem isNameChar_snakeCase (s : String) : ∀ c ∈ (snakeCase s).toList, isNameChar c = true := by
  intro c hc
  rw [snakeCase, String.toList_intercalate, List.map_map] at hc
  obtain hc | ⟨l, hl, hc⟩ := mem_intercalate hc
  · rw [List.mem_singleton.1 (show c ∈ ['_'] from hc)]
    decide
  · obtain ⟨w, hw, rfl⟩ := List.mem_map.1 hl
    exact isNameChar_of_isWordChar
      (isWordChar_lowerWord (isAlphanumeric_words hw) c (by simpa using hc))

theorem ne_nil_of_mem_splitRun {w : WordCase} {word cs out : List Char}
    (hword : w = .upper → word ≠ []) (h : out ∈ splitRun w word cs) : out ≠ [] := by
  induction cs generalizing w word with
  | nil => simp [splitRun] at h
  | cons c rest ih =>
    cases rest with
    | nil =>
      rw [splitRun, List.mem_singleton] at h
      simp [h]
    | cons d rest =>
      rw [splitRun] at h
      split at h
      · obtain rfl | h := List.mem_cons.1 h
        · simp
        · exact ih (by simp) h
      · split at h
        · rename_i hupper
          obtain rfl | h := List.mem_cons.1 h
          · simpa using hword hupper.1
          · exact ih (by simp) h
        · exact ih (by simp) h

theorem lower_ne_nil (c : Char) : lower c ≠ [] := by
  have hspecial : ∀ p ∈ lowerMap.special.toList, p.2 ≠ [] := by decide
  unfold lower
  split
  · simp
  · unfold CaseMap.apply
    split
    · rename_i p hp
      simpa using hspecial p (Array.mem_toList_iff.2 (Array.mem_of_find?_eq_some hp))
    · split <;> simp

theorem lowerWord_ne_nil {w : List Char} (h : w ≠ []) : lowerWord w ≠ [] := by
  match w with
  | [] => exact absurd rfl h
  | [c] =>
    rw [lowerWord]
    split
    · simp
    · exact lower_ne_nil c
  | c :: d :: rest => simp [lowerWord, lower_ne_nil c]

/-- Two characters of which one is no underscore. -/
def Apart (a b : Char) : Prop :=
  a ≠ '_' ∨ b ≠ '_'

theorem isChain_apart_intercalate {ws : List (List Char)} (hne : ∀ w ∈ ws, w ≠ [])
    (hws : ∀ w ∈ ws, ∀ c ∈ w, c ≠ '_') : List.IsChain Apart ('_' :: ['_'].intercalate ws) := by
  have hword {w : List Char} (hw : w ≠ []) (hcs : ∀ c ∈ w, c ≠ '_') :
      List.IsChain Apart ('_' :: w) := by
    rw [List.isChain_cons]
    refine ⟨fun c hc => .inr (hcs c (List.mem_of_mem_head? hc)), ?_⟩
    exact List.Pairwise.isChain (List.pairwise_of_forall_mem_list fun a ha b _ => .inl (hcs a ha))
  induction ws with
  | nil => simp
  | cons w rest ih =>
    have hw := hword (hne w (by simp)) (hws w (by simp))
    cases rest with
    | nil => simpa using hw
    | cons w' rest =>
      have hrest := ih (fun v hv => hne v (by simp [hv])) (fun v hv => hws v (by simp [hv]))
      rw [List.intercalate_cons_cons, List.append_assoc, List.singleton_append, ← List.cons_append]
      refine hw.append hrest fun x hx y _ => .inl ?_
      rw [List.getLast?_cons_of_ne_nil (hne w (by simp))] at hx
      exact hws w (by simp) x (List.mem_of_getLast? hx)

/-- The underscores of a name in snake case stand alone, and none stands first. -/
theorem isChain_apart_snakeCase (s : String) :
    List.IsChain Apart ('_' :: (snakeCase s).toList) := by
  rw [snakeCase, String.toList_intercalate, List.map_map]
  refine isChain_apart_intercalate (fun w hw => ?_) (fun w hw c hc => ?_)
  · obtain ⟨word, hword, rfl⟩ := List.mem_map.1 hw
    obtain ⟨run, -, hword⟩ := List.mem_flatMap.1 hword
    simpa using lowerWord_ne_nil (ne_nil_of_mem_splitRun (by simp) hword)
  · obtain ⟨word, hword, rfl⟩ := List.mem_map.1 hw
    exact ne_of_isWordChar (isWordChar_lowerWord (isAlphanumeric_words hword) c (by simpa using hc))

end Text
end Joinery
