import Mathlib.Data.List.Basic
import InterfaceCheck.Report.Source

namespace InterfaceCheck.Report

namespace Line

theorem holds_iff {l : Line} {offset : Nat} : l.holds offset = true ↔ l.start ≤ offset ∧ offset < l.stop := by
  rw [holds, Bool.and_eq_true, decide_eq_true_eq, decide_eq_true_eq]

theorem start_le_stop (l : Line) : l.start ≤ l.stop := Nat.le_add_right ..

end Line

theorem map_text_placeLines (start : Nat) (texts : List (List Char)) :
    (placeLines start texts).map (·.text) = texts := by
  induction texts generalizing start with
  | nil => rfl
  | cons cs rest ih => rw [placeLines, List.map_cons, ih]

theorem exists_append_of_mem_placeLines {start : Nat} {texts : List (List Char)} {l : Line}
    (h : l ∈ placeLines start texts) :
    ∃ before after, texts.flatten = before ++ (l.text ++ after) ∧ start + before.length = l.start := by
  induction texts generalizing start with
  | nil => simp [placeLines] at h
  | cons cs rest ih =>
      rcases List.mem_cons.1 h with rfl | h
      · exact ⟨[], rest.flatten, rfl, rfl⟩
      · obtain ⟨before, after, hrest, hstart⟩ := ih h
        refine ⟨cs ++ before, after, ?_, ?_⟩
        · rw [List.flatten_cons, hrest, List.append_assoc]
        · rw [List.length_append, ← Nat.add_assoc, hstart]

theorem le_start_of_mem_placeLines {start : Nat} {texts : List (List Char)} {l : Line}
    (h : l ∈ placeLines start texts) : start ≤ l.start := by
  obtain ⟨before, _, _, hstart⟩ := exists_append_of_mem_placeLines h
  exact hstart ▸ Nat.le_add_right ..

theorem pairwise_placeLines (start : Nat) (texts : List (List Char)) :
    (placeLines start texts).Pairwise fun a b => a.stop ≤ b.start := by
  induction texts generalizing start with
  | nil => exact .nil
  | cons cs rest ih => exact .cons (fun l hl => le_start_of_mem_placeLines hl) (ih _)

theorem stop_le_of_mem_placeLines {start : Nat} {texts : List (List Char)} {l : Line}
    (h : l ∈ placeLines start texts) : l.stop ≤ start + texts.flatten.length := by
  obtain ⟨before, after, hflatten, hstart⟩ := exists_append_of_mem_placeLines h
  rw [hflatten, List.length_append, List.length_append, Line.stop, Line.length]
  omega

theorem exists_holds_placeLines {start offset : Nat} {texts : List (List Char)} (hstart : start ≤ offset)
    (hstop : offset < start + texts.flatten.length) :
    ∃ l ∈ placeLines start texts, l.holds offset = true := by
  induction texts generalizing start with
  | nil =>
      simp only [List.flatten_nil, List.length_nil] at hstop
      omega
  | cons cs rest ih =>
      rw [List.flatten_cons, List.length_append] at hstop
      by_cases hoffset : offset < start + cs.length
      · exact ⟨⟨start, cs⟩, List.mem_cons_self, Line.holds_iff.2 ⟨hstart, hoffset⟩⟩
      · obtain ⟨l, hl, hholds⟩ := @ih (start + cs.length) (by omega) (by omega)
        exact ⟨l, List.mem_cons_of_mem _ hl, hholds⟩

namespace Source

/-- The lines of a source do not overlap, and together they hold all of its characters. -/
structure IsLined (s : Source) : Prop where
  disjoint : s.lines.Pairwise fun a b => a.stop ≤ b.start
  covered : ∀ offset < s.length, ∃ l ∈ s.lines, l.holds offset = true
  bounded : ∀ l ∈ s.lines, l.stop ≤ s.length
  nonempty : s.lines ≠ []

/-- The place `p` is that of the offset: its line holds the offset at this column. The end of the source
is in the last line. -/
def At (s : Source) (offset : Nat) (p : Place) : Prop :=
  ∃ l, s.lines[p.line]? = some l ∧ l.start + p.column = offset ∧
    (offset < l.stop ∨ offset = s.length ∧ p.line + 1 = s.lines.length)

variable {s : Source} {offset : Nat} {p : Place}

theorem flatten_lines (text : String) :
    ((Source.ofString text).lines.map (·.text)).flatten = text.toList := by
  unfold ofString
  by_cases h : text.isEmpty = true
  · simp [String.isEmpty_iff.1 h]
  · simp only [h, if_false, map_text_placeLines, flatten_splitLines, Bool.false_eq_true]

theorem isLined_ofString (text : String) : (Source.ofString text).IsLined := by
  by_cases h : text.isEmpty = true
  · obtain rfl := String.isEmpty_iff.1 h
    refine ⟨?_, ?_, ?_, ?_⟩ <;> simp [ofString, Line.stop, Line.length]
  · have hlength : (splitLines text.toList).flatten.length = text.length := by
      rw [flatten_splitLines, String.length_toList]
    have hlines : (Source.ofString text).lines = placeLines 0 (splitLines text.toList) := by
      simp [ofString, h]
    refine ⟨?_, ?_, ?_, ?_⟩
    · rw [hlines]
      exact pairwise_placeLines ..
    · intro offset hoffset
      rw [hlines]
      exact exists_holds_placeLines (Nat.zero_le _) (by rw [hlength, Nat.zero_add]; exact hoffset)
    · intro l hl
      rw [hlines] at hl
      have := stop_le_of_mem_placeLines hl
      rwa [hlength, Nat.zero_add] at this
    · intro hnil
      have hflat := flatten_lines text
      rw [hnil] at hflat
      exact h (String.isEmpty_iff.2 (String.toList_eq_nil_iff.1 hflat.symm))

theorem At.unique_offset {offset' : Nat} (h : s.At offset p) (h' : s.At offset' p) : offset = offset' := by
  obtain ⟨l, hl, rfl, _⟩ := h
  obtain ⟨l', hl', rfl, _⟩ := h'
  rw [Option.some.inj (hl.symm.trans hl')]

theorem At.start_le {l : Line} (hp : s.At offset p) (hl : s.lines[p.line]? = some l) : l.start ≤ offset := by
  obtain ⟨l', hl', rfl, _⟩ := hp
  obtain rfl := Option.some.inj (hl.symm.trans hl')
  exact Nat.le_add_right ..

theorem At.holds {l : Line} (hp : s.At offset p) (hl : s.lines[p.line]? = some l) (hoffset : offset < s.length) :
    l.holds offset = true := by
  have hstart := hp.start_le hl
  obtain ⟨l', hl', _, hend⟩ := hp
  obtain rfl := Option.some.inj (hl.symm.trans hl')
  exact Line.holds_iff.2 ⟨hstart, by omega⟩

theorem at_of_holds {i : Nat} {l : Line} (hl : s.lines[i]? = some l) (h : l.holds offset = true) :
    s.At offset ⟨i, offset - l.start⟩ :=
  ⟨l, hl, Nat.add_sub_of_le (Line.holds_iff.1 h).1, .inl (Line.holds_iff.1 h).2⟩

theorem place?_of_split {before after : List Line} {l : Line} (hlines : s.lines = before ++ l :: after)
    (hoffset : offset ≤ s.length) (hl : l.start ≤ offset) (hafter : ∀ m ∈ after, offset < m.start) :
    s.place? offset = some ⟨before.length, offset - l.start⟩ := by
  have hnone : (after.zipIdx (before.length + 1)).reverse.find? (fun x => x.1.start ≤ offset) = none := by
    rw [List.find?_eq_none]
    rintro ⟨m, i⟩ hm
    have := hafter m (List.fst_mem_of_mem_zipIdx (List.mem_reverse.1 hm))
    simpa using this
  have hfind : s.lines.zipIdx.reverse.find? (fun x => x.1.start ≤ offset) = some (l, before.length) := by
    rw [hlines, List.zipIdx_append, List.zipIdx_cons, List.reverse_append, List.reverse_cons,
      List.append_assoc, List.find?_append, Nat.zero_add, hnone, Option.none_or]
    simp [hl]
  rw [place?, if_neg (by omega), hfind]
  rfl

theorem IsLined.place?_of_at (h : s.IsLined) (hp : s.At offset p) : s.place? offset = some p := by
  obtain ⟨l, hl, rfl, hcol⟩ := hp
  obtain ⟨hi, rfl⟩ := List.getElem?_eq_some_iff.1 hl
  have hlines : s.lines = s.lines.take p.line ++ s.lines[p.line] :: s.lines.drop (p.line + 1) := by
    rw [List.getElem_cons_drop, List.take_append_drop]
  have hlast := h.bounded _ (List.getElem_mem hi)
  have hafter : ∀ m ∈ s.lines.drop (p.line + 1), s.lines[p.line].start + p.column < m.start := by
    intro m hm
    rcases hcol with hcol | ⟨_, hend⟩
    · have hdisjoint := h.disjoint
      rw [hlines, List.pairwise_append, List.pairwise_cons] at hdisjoint
      exact Nat.lt_of_lt_of_le hcol (hdisjoint.2.1.1 m hm)
    · simp [hend] at hm
  rw [place?_of_split hlines (by omega) (Nat.le_add_right ..) hafter, List.length_take_of_le (Nat.le_of_lt hi),
    Nat.add_sub_cancel_left]

theorem IsLined.unique_place (h : s.IsLined) {q : Place} (hp : s.At offset p) (hq : s.At offset q) : p = q :=
  Option.some.inj ((h.place?_of_at hp).symm.trans (h.place?_of_at hq))

theorem IsLined.exists_at (h : s.IsLined) (hoffset : offset ≤ s.length) : ∃ p, s.At offset p := by
  rcases Nat.lt_or_eq_of_le hoffset with hlt | rfl
  · obtain ⟨l, hl, hholds⟩ := h.covered offset hlt
    obtain ⟨i, hi⟩ := List.getElem?_of_mem hl
    exact ⟨_, at_of_holds hi hholds⟩
  · have hpos : 0 < s.lines.length := List.length_pos_of_ne_nil h.nonempty
    have hi : s.lines[s.lines.length - 1]? = some (s.lines.getLast h.nonempty) := by
      rw [← List.getLast?_eq_getElem?, List.getLast?_eq_some_getLast]
    have hstart : (s.lines.getLast h.nonempty).start ≤ s.length :=
      Nat.le_trans (Line.start_le_stop _) (h.bounded _ (List.getLast_mem _))
    exact ⟨⟨_, s.length - (s.lines.getLast h.nonempty).start⟩, _, hi, Nat.add_sub_of_le hstart,
      .inr ⟨rfl, Nat.sub_add_cancel hpos⟩⟩

theorem IsLined.stop_le_start (h : s.IsLined) {i j : Nat} {a b : Line} (ha : s.lines[i]? = some a)
    (hb : s.lines[j]? = some b) (hij : i < j) : a.stop ≤ b.start := by
  obtain ⟨_, rfl⟩ := List.getElem?_eq_some_iff.1 ha
  obtain ⟨_, rfl⟩ := List.getElem?_eq_some_iff.1 hb
  exact List.pairwise_iff_getElem.1 h.disjoint i j _ _ hij

theorem IsLined.line_le_of_at (h : s.IsLined) {offset' : Nat} {q : Place} (hp : s.At offset p)
    (hq : s.At offset' q) (hle : offset ≤ offset') : p.line ≤ q.line := by
  by_contra hlt
  obtain ⟨a, ha, rfl, _⟩ := hp
  obtain ⟨b, hb, rfl, hend⟩ := hq
  have hdisjoint := h.stop_le_start hb ha (Nat.lt_of_not_le hlt)
  obtain ⟨hp, _⟩ := List.getElem?_eq_some_iff.1 ha
  rcases hend with hend | ⟨_, hend⟩ <;> omega

theorem IsLined.le_stop_of_at (h : s.IsLined) {l : Line} (hp : s.At offset p)
    (hl : s.lines[p.line]? = some l) : offset ≤ l.stop := by
  obtain ⟨l', hl', _, hend⟩ := hp
  obtain rfl := Option.some.inj (hl.symm.trans hl')
  rcases hend with hend | ⟨rfl, hend⟩
  · exact Nat.le_of_lt hend
  · rcases Nat.eq_zero_or_pos s.length with hzero | hpos
    · omega
    · -- The last character is in a line that is not after the last one.
      obtain ⟨m, hm, hholds⟩ := h.covered (s.length - 1) (Nat.sub_lt hpos Nat.one_pos)
      obtain ⟨i, hi⟩ := List.getElem?_of_mem hm
      have hstop := (Line.holds_iff.1 hholds).2
      obtain ⟨hlt, _⟩ := List.getElem?_eq_some_iff.1 hi
      rcases Nat.lt_or_eq_of_le (Nat.le_of_lt_succ (hend ▸ hlt)) with hbefore | heq
      · have := h.stop_le_start hi hl hbefore
        have := l.start_le_stop
        omega
      · rw [heq, hl] at hi
        obtain rfl := Option.some.inj hi
        omega

theorem IsLined.place?_eq_none_iff (h : s.IsLined) : s.place? offset = none ↔ s.length < offset := by
  constructor
  · intro hnone
    by_contra hle
    obtain ⟨p, hp⟩ := h.exists_at (Nat.le_of_not_lt hle)
    rw [h.place?_of_at hp] at hnone
    cases hnone
  · intro hlt
    rw [place?, if_pos hlt]

theorem IsLined.place?_eq_some_iff (h : s.IsLined) : s.place? offset = some p ↔ s.At offset p := by
  constructor
  · intro hp
    have hle : offset ≤ s.length := by
      by_contra hlt
      rw [h.place?_eq_none_iff.2 (Nat.lt_of_not_le hlt)] at hp
      cases hp
    obtain ⟨q, hq⟩ := h.exists_at hle
    rw [h.place?_of_at hq] at hp
    cases hp
    exact hq
  · exact h.place?_of_at

end Source

end InterfaceCheck.Report
