import InterfaceCheck.Report.Source

namespace InterfaceCheck.Report

/-- A line ends between the two texts. A carriage return and a line feed behind it end one line together. -/
def EndsLine (us vs : List Char) : Prop :=
  ∃ c ∈ us.getLast?, isTerminator c = true ∧ ¬ (c = '\r' ∧ vs.head? = some '\n')

/-- No line ends inside the first text, where the second one stands behind it. -/
def Unbroken (cs after : List Char) : Prop :=
  ∀ us vs, us ≠ [] → vs ≠ [] → cs = us ++ vs → ¬ EndsLine us (vs ++ after)

/-- The line is the piece of the text that lies between the end of a line, or the start of the text, and
the next end of a line. -/
def Line.StandsIn (l : Line) (cs : List Char) : Prop :=
  ∃ before after, cs = before ++ (l.text ++ after) ∧ before.length = l.start ∧
    (before = [] ∨ EndsLine before (l.text ++ after)) ∧ (after = [] ∨ EndsLine l.text after) ∧
    Unbroken l.text after

variable {c : Char} {us vs cs after : List Char}

theorem endsLine_singleton_iff :
    EndsLine [c] vs ↔ isTerminator c = true ∧ ¬ (c = '\r' ∧ vs.head? = some '\n') := by
  simp [EndsLine]

theorem endsLine_cons_iff (h : us ≠ []) : EndsLine (c :: us) vs ↔ EndsLine us vs := by
  obtain ⟨d, us, rfl⟩ := List.exists_cons_of_ne_nil h
  rw [EndsLine, EndsLine, List.getLast?_cons_cons]

theorem EndsLine.append (h : EndsLine us vs) (before : List Char) : EndsLine (before ++ us) vs := by
  obtain ⟨c, hc, hend⟩ := h
  exact ⟨c, by rw [List.getLast?_append, Option.mem_def.1 hc]; rfl, hend⟩

theorem unbroken_singleton : Unbroken [c] after := by
  intro us vs hus hvs hsplit
  have := congrArg List.length hsplit
  have := List.length_pos_iff.2 hus
  have := List.length_pos_iff.2 hvs
  simp only [List.length_append, List.length_singleton] at *
  omega

theorem Unbroken.cons (h : Unbroken cs after) (hc : ¬ EndsLine [c] (cs ++ after)) :
    Unbroken (c :: cs) after := by
  intro us vs hus hvs hsplit
  obtain ⟨d, us, rfl⟩ := List.exists_cons_of_ne_nil hus
  obtain ⟨rfl, rfl⟩ := List.cons.inj hsplit
  cases us with
  | nil => exact hc
  | cons d us =>
      rw [endsLine_cons_iff (List.cons_ne_nil d us)]
      exact h _ vs (List.cons_ne_nil d us) hvs rfl

theorem eq_nil_of_splitLines (h : splitLines cs = []) : cs = [] := by
  rw [← flatten_splitLines cs, h, List.flatten_nil]

/-- The first line of a text ends where a line ends for the first time. -/
theorem exists_after_of_splitLines {l : List Char} {ls : List (List Char)} (h : splitLines cs = l :: ls) :
    ∃ after, cs = l ++ after ∧ splitLines after = ls ∧ l ≠ [] ∧ (after = [] ∨ EndsLine l after) ∧
      Unbroken l after := by
  fun_induction splitLines cs generalizing l ls with
  | case1 => cases h
  | case2 cs ih =>
      obtain ⟨rfl, rfl⟩ := List.cons.inj h
      have hend : EndsLine ['\r', '\n'] cs := by
        rw [endsLine_cons_iff (List.cons_ne_nil _ _), endsLine_singleton_iff]
        simp [isTerminator]
      have hpair : ¬ EndsLine ['\r'] (['\n'] ++ cs) := by simp [endsLine_singleton_iff]
      exact ⟨cs, rfl, rfl, List.cons_ne_nil _ _, .inr hend, unbroken_singleton.cons hpair⟩
  | case3 c cs hpair hend ih =>
      obtain ⟨rfl, rfl⟩ := List.cons.inj h
      refine ⟨cs, rfl, rfl, List.cons_ne_nil _ _, .inr (endsLine_singleton_iff.2 ⟨hend, ?_⟩), unbroken_singleton⟩
      rintro ⟨rfl, hhead⟩
      obtain ⟨cs, rfl⟩ := List.head?_eq_some_iff.1 hhead
      exact hpair cs rfl rfl
  | case4 c cs hpair hend hnil ih =>
      obtain ⟨rfl, rfl⟩ := List.cons.inj h
      obtain rfl := eq_nil_of_splitLines hnil
      exact ⟨[], rfl, rfl, List.cons_ne_nil _ _, .inl rfl, unbroken_singleton⟩
  | case5 c cs hpair hend first rest hrest ih =>
      obtain ⟨rfl, rfl⟩ := List.cons.inj h
      obtain ⟨after, rfl, hafter, hne, hends, hunbroken⟩ := ih hrest
      have hc : ¬ EndsLine [c] (first ++ after) := fun he => hend (endsLine_singleton_iff.1 he).1
      refine ⟨after, rfl, hafter, List.cons_ne_nil _ _, ?_, hunbroken.cons hc⟩
      exact hends.imp_right (endsLine_cons_iff hne).2

/-- The lines of what is left of a text behind the end of a line stand in the text. -/
theorem standsIn_of_mem_placeLines {before : List Char} {texts : List (List Char)}
    (hbefore : before = [] ∨ EndsLine before cs) (htexts : splitLines cs = texts) {l : Line}
    (hl : l ∈ placeLines before.length texts) : l.StandsIn (before ++ cs) := by
  induction texts generalizing before cs with
  | nil => cases hl
  | cons first rest ih =>
      obtain ⟨after, rfl, hafter, hne, hends, hunbroken⟩ := exists_after_of_splitLines htexts
      rcases List.mem_cons.1 hl with rfl | hl
      · exact ⟨before, after, rfl, rfl, hbefore, hends, hunbroken⟩
      · have hnext : before ++ first = [] ∨ EndsLine (before ++ first) after := by
          rcases hends with rfl | hends
          · rw [← hafter] at hl
            cases hl
          · exact .inr (hends.append before)
        rw [← List.length_append] at hl
        rw [← List.append_assoc]
        exact ih hnext hafter hl

theorem standsIn_of_mem_lines {text : String} {l : Line} (h : l ∈ (Source.ofString text).lines) :
    l.StandsIn text.toList := by
  by_cases hempty : text.isEmpty = true
  · obtain rfl := String.isEmpty_iff.1 hempty
    obtain rfl : l = ⟨0, []⟩ := by simpa [Source.ofString] using h
    refine ⟨[], [], rfl, rfl, .inl rfl, .inl rfl, ?_⟩
    intro us vs hus _ hsplit
    exact absurd (List.append_eq_nil_iff.1 hsplit.symm).1 hus
  · have hplaced : l ∈ placeLines 0 (splitLines text.toList) := by simpa [Source.ofString, hempty] using h
    exact @standsIn_of_mem_placeLines _ [] _ (.inl rfl) rfl l hplaced

end InterfaceCheck.Report
