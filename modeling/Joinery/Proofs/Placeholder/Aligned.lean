import Joinery.Proofs.Placeholder.Scan

/-! Aligned fragments: a scan of the text finds the placeholders that the fragment was built with.
Appending keeps alignment, and each piece that the filter of a statement is written from has it. -/
namespace Joinery
namespace Sql

/-- A fragment with a value for each placeholder, whose texts hide and open nothing in a scan by the
rules of a dialect. -/
structure Aligned (d : Dialect) (q : Sql) : Prop where
  merged : Merged q.parts
  neutral : ∀ s, .raw s ∈ q.parts → Neutral d.backslashEscapes s
  count : q.placeholderCount = q.params.length

variable {d : Dialect}

/-- The parts of an aligned fragment can be read off its text. -/
theorem Aligned.split_toText {q : Sql} (h : q.Aligned d) :
    split d.backslashEscapes q.toText = q.parts :=
  splitFrom_renderFrom h.merged h.neutral

theorem Aligned.empty : Aligned d .empty :=
  ⟨trivial, fun _ h => (nomatch h), rfl⟩

theorem Aligned.bound (v : Value) : Aligned d (.bound v) :=
  ⟨trivial, by simp [Sql.bound], rfl⟩

theorem Aligned.text {s : String} (h : Neutral d.backslashEscapes s) : Aligned d (.text s) := by
  by_cases hs : s = ""
  · rw [show Sql.text s = .empty by simp [Sql.text, Sql.empty, hs]]
    exact .empty
  · have hparts : (Sql.text s).parts = [.raw s] := by simp [Sql.text, hs]
    refine ⟨?_, ?_, ?_⟩
    · rw [hparts]
      exact ⟨hs, rfl, trivial⟩
    · rw [hparts]
      intro t ht
      rw [Part.raw.inj (List.mem_singleton.1 ht)]
      exact h
    · simp [placeholderCount, hparts]

theorem Aligned.plain {s : String} (h : Plain s) : Aligned d (.text s) :=
  .text (neutral_of_plain h)

theorem Aligned.append {a b : Sql} (ha : a.Aligned d) (hb : b.Aligned d) : (a ++ b).Aligned d where
  merged := merged_appendParts ha.merged hb.merged
  neutral := raw_mem_appendParts (fun _ _ => Neutral.append) ha.neutral hb.neutral
  count := by rw [placeholderCount_append, params_append, List.length_append, ha.count, hb.count]

theorem Aligned.joined {separator : String} (hs : Plain separator) {qs : List Sql}
    (h : ∀ q ∈ qs, q.Aligned d) : (joined separator qs).Aligned d := by
  fun_induction Sql.joined separator qs with
  | case1 => exact .empty
  | case2 q => exact h q (by simp)
  | case3 q rest hne ih =>
    exact ((h q (by simp)).append (.plain hs)).append (ih fun x hx => h x (by simp [hx]))

theorem Aligned.fragmentFor {s : String} {values : List Value}
    (hend : Scan.after d.backslashEscapes .outside s.toList = .outside)
    (hcount : (split d.backslashEscapes s).count .param = values.length) :
    Aligned d (.fragmentFor d s values) where
  merged := merged_splitFrom _ _ _ _
  neutral := neutral_splitFrom hend fun _ h => h
  count := hcount

/-- A text without quotes, in which every question mark is a placeholder. -/
def Quoteless (s : String) : Prop :=
  ∀ c ∈ s.toList, Scan.isQuote c = false

instance (s : String) : Decidable (Quoteless s) :=
  decidable_of_iff (s.toList.all (!Scan.isQuote ·) = true) (by simp [Quoteless])

theorem quoteless_of_plain {s : String} (h : Plain s) : Quoteless s := by
  intro c hc
  have hplain := h c hc
  simp only [isPlain, Bool.and_eq_true, Bool.not_eq_true'] at hplain
  exact hplain.1

theorem count_mark_of_plain {s : String} (h : Plain s) : s.toList.count '?' = 0 := by
  rw [List.count_eq_zero]
  intro hc
  have := h '?' hc
  revert this
  decide

theorem Quoteless.append {s t : String} (hs : Quoteless s) (ht : Quoteless t) :
    Quoteless (s ++ t) := by
  intro c hc
  rw [String.toList_append, List.mem_append] at hc
  exact hc.elim (hs c) (ht c)

theorem plain_flush {read : List Char} (h : ∀ c ∈ read, isPlain c = true) :
    ∀ s, .raw s ∈ flush read → Plain s := by
  intro s hs c hc
  unfold flush at hs
  split at hs
  · simp at hs
  · rw [Part.raw.inj (List.mem_singleton.1 hs), String.toList_ofList] at hc
    exact h c (by simpa using hc)

theorem count_flush (read : List Char) : (flush read).count .param = 0 := by
  unfold flush
  split <;> simp

theorem splitFrom_quoteless {backslash : Bool} {read cs : List Char}
    (hread : ∀ c ∈ read, isPlain c = true) (hcs : ∀ c ∈ cs, Scan.isQuote c = false) :
    (∀ s, .raw s ∈ splitFrom backslash .outside read cs → Plain s) ∧
      (splitFrom backslash .outside read cs).count .param = cs.count '?' := by
  induction cs generalizing read with
  | nil => exact ⟨plain_flush hread, count_flush read⟩
  | cons c rest ih =>
    have hc := hcs c (by simp)
    have hrest : ∀ d ∈ rest, Scan.isQuote d = false := fun d hd => hcs d (by simp [hd])
    by_cases hmark : c = '?'
    · subst hmark
      rw [splitFrom_placeholder]
      have h := ih (by simp : ∀ d ∈ ([] : List Char), isPlain d = true) hrest
      refine ⟨fun s hs => ?_, ?_⟩
      · rw [List.mem_append, List.mem_cons] at hs
        obtain hs | hs | hs := hs
        · exact plain_flush hread s hs
        · cases hs
        · exact h.1 s hs
      · simp [count_flush, h.2]
    · have hplain : ∀ d ∈ c :: read, isPlain d = true := by
        simpa [isPlain, hc, hmark] using hread
      have h := ih hplain hrest
      rw [splitFrom, if_neg (fun hq => hmark hq.2),
        show Scan.outside.next backslash c = .outside by simp [Scan.next, hc]]
      exact ⟨h.1, by rw [h.2, List.count_cons_of_ne hmark]⟩

theorem Aligned.fragment {s : String} {values : List Value} (hs : Quoteless s)
    (hcount : s.toList.count '?' = values.length) : Aligned d (.fragment s values) where
  merged := merged_splitFrom _ _ _ _
  neutral := fun t ht => neutral_of_plain ((splitFrom_quoteless (by simp) hs).1 t ht)
  count := (splitFrom_quoteless (by simp) hs).2.trans hcount

end Sql
end Joinery
