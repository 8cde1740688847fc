import Mathlib.Data.List.SplitBy
import InterfaceCheck.Proofs.Places
import InterfaceCheck.Proofs.Rendering
import InterfaceCheck.Report.Annotation

namespace InterfaceCheck.Report

theorem Label.ofSpan?_eq_some_iff {source : Source} {index : Nat} {span : Span} {message : String}
    {l : Label} : ofSpan? source index span message = some l ↔ ∃ first last,
      source.place? span.start = some first ∧
      (if span.start = span.stop then some first else source.place? (span.stop - 1)) = some last ∧
      ⟨index, span.start, span.stop, message, last.line, first.line != last.line⟩ = l := by
  unfold ofSpan?
  cases source.place? span.start with
  | none => simp
  | some first =>
      split
      · simp
      · cases source.place? (span.stop - 1) <;> simp

/-- A span has a label if it starts in the source or at its end, and its last character is there too. -/
theorem Label.exists_ofSpan?_iff {source : Source} (h : source.IsLined) (index : Nat) (message : String)
    {span : Span} : (∃ l, ofSpan? source index span message = some l) ↔
      span.start ≤ source.length ∧ span.stop ≤ source.length + 1 := by
  have hplace (offset : Nat) : (∃ p, source.place? offset = some p) ↔ offset ≤ source.length := by
    rw [← Option.isSome_iff_exists, ← Option.ne_none_iff_isSome, Ne, h.place?_eq_none_iff, Nat.not_lt]
  simp only [ofSpan?_eq_some_iff]
  constructor
  · rintro ⟨l, first, last, hfirst, hlast, _⟩
    have hstart := (hplace _).1 ⟨first, hfirst⟩
    split at hlast
    · omega
    · have hstop := (hplace _).1 ⟨last, hlast⟩
      omega
  · rintro ⟨hstart, hstop⟩
    obtain ⟨first, hfirst⟩ := (hplace _).2 hstart
    by_cases heq : span.start = span.stop
    · exact ⟨_, first, first, hfirst, if_pos heq, rfl⟩
    · obtain ⟨last, hlast⟩ := (hplace (span.stop - 1)).2 (by omega)
      exact ⟨_, first, last, hfirst, by rw [if_neg heq, hlast], rfl⟩

def Label.place (l : Label) : Span × String := (⟨l.start, l.stop⟩, l.message)

theorem Label.of_ofSpan? {source : Source} {index : Nat} {span : Span} {message : String} {l : Label}
    (h : ofSpan? source index span message = some l) : l.index = index ∧ l.place = (span, message) := by
  obtain ⟨_, _, _, _, rfl⟩ := ofSpan?_eq_some_iff.1 h
  exact ⟨rfl, rfl⟩

theorem place_mem_of_mem_labels {source : Source} {d : Diagnostic} {l : Label} (h : l ∈ d.labels source) :
    l.place ∈ d.places := by
  obtain ⟨⟨p, i⟩, hp, hl⟩ := List.mem_filterMap.1 h
  rw [(Label.of_ofSpan? hl).2]
  exact List.fst_mem_of_mem_zipIdx hp

theorem nodup_labels (source : Source) (d : Diagnostic) : (d.labels source).Nodup := by
  have hindices : (d.places.zipIdx.map Prod.snd).Nodup := by
    rw [List.zipIdx_map_snd]
    exact List.nodup_range'
  refine List.Pairwise.filterMap _ ?_ (List.pairwise_map.1 hindices)
  rintro ⟨p, i⟩ ⟨q, j⟩ hij l hl l' hl' rfl
  exact hij ((Label.of_ofSpan? hl).1.symm.trans (Label.of_ofSpan? hl').1)

theorem map_place_labels {source : Source} (h : source.IsLined) {d : Diagnostic}
    (hd : ∀ p ∈ d.places, p.1.start ≤ source.length ∧ p.1.stop ≤ source.length + 1) :
    (d.labels source).map Label.place = d.places := by
  unfold Diagnostic.labels
  generalize d.places = ps at hd
  generalize 0 = i
  induction ps generalizing i with
  | nil => rfl
  | cons p ps ih =>
      rw [List.forall_mem_cons] at hd
      obtain ⟨l, hl⟩ := (Label.exists_ofSpan?_iff h i p.2).2 hd.1
      rw [List.zipIdx_cons, List.filterMap_cons]
      simp only [hl]
      rw [List.map_cons, ih hd.2, (Label.of_ofSpan? hl).2]

namespace Group

theorem labels_subset_of_mem_split {source : Source} {labels : List Label} {g : Group}
    (h : g ∈ split source labels) : g.labels ⊆ labels := by
  obtain ⟨ls, hls, rfl⟩ := List.mem_map.1 h
  intro l hl
  rw [← List.flatten_splitBy (fun a b => decide (a.line ≤ b.line)) labels]
  exact List.mem_flatten.2 ⟨ls, hls, hl⟩

theorem exists_mem_split {source : Source} {labels : List Label} {l : Label} (h : l ∈ labels) :
    ∃ ls, l ∈ ls ∧ ls ⊆ labels ∧ ofLabels source ls ∈ split source labels := by
  rw [← List.flatten_splitBy (fun a b => decide (a.line ≤ b.line)) labels] at h
  obtain ⟨ls, hls, hl⟩ := List.mem_flatten.1 h
  have hmem : ofLabels source ls ∈ split source labels := List.mem_map_of_mem hls
  exact ⟨ls, hl, labels_subset_of_mem_split hmem, hmem⟩

theorem split_ne_nil {source : Source} {labels : List Label} (h : labels ≠ []) :
    split source labels ≠ [] := by
  rw [split, Ne, List.map_eq_nil_iff]
  exact List.splitBy_ne_nil.2 h

theorem mem_annotated_iff {source : Source} {g : Group} {a : AnnotatedLine} : a ∈ g.annotated source ↔
    ∃ i line, source.lines[i]? = some line ∧ g.first ≤ i ∧ i < g.stop ∧ .ofLine g i line = a := by
  have hrange (line : Line) (i : Nat) : (line, i) ∈ (source.lines.zipIdx.take g.stop).drop g.first ↔
      source.lines[i]? = some line ∧ g.first ≤ i ∧ i < g.stop := by
    rw [List.mem_iff_getElem?]
    simp only [List.getElem?_drop, List.getElem?_take, List.getElem?_zipIdx, Nat.zero_add]
    constructor
    · rintro ⟨k, hk⟩
      split at hk
      · obtain ⟨_, hline, heq⟩ := Option.map_eq_some_iff.1 hk
        obtain ⟨rfl, rfl⟩ := Prod.mk.inj heq
        exact ⟨hline, by omega, by omega⟩
      · cases hk
    · rintro ⟨hline, hfirst, hstop⟩
      refine ⟨i - g.first, ?_⟩
      rw [Nat.add_sub_cancel' hfirst, if_pos hstop, hline]
      simp
  rw [annotated, List.mem_map, Prod.exists]
  constructor
  · rintro ⟨line, i, hmem, rfl⟩
    obtain ⟨hline, hfirst, hstop⟩ := (hrange line i).1 hmem
    exact ⟨i, line, hline, hfirst, hstop, rfl⟩
  · rintro ⟨i, line, hline, hfirst, hstop, rfl⟩
    exact ⟨line, i, (hrange line i).2 ⟨hline, hfirst, hstop⟩, rfl⟩

theorem mem_rails_iff {g : Group} {l : Label} : l ∈ g.rails ↔ l ∈ g.labels ∧ l.multiline = true := by
  rw [rails, List.mem_mergeSort, List.mem_filter]

theorem mem_inlineLabels_iff {g : Group} {l : Label} :
    l ∈ g.inlineLabels ↔ l ∈ g.labels ∧ l.multiline = false := by
  rw [inlineLabels, List.mem_filter, Bool.not_eq_true']

end Group

namespace Mark

theorem label_of_ofRail? {line : Line} {l : Label} {m : Mark} (h : ofRail? line l = some m) :
    m.label = l := by
  unfold ofRail? at h
  split at h
  · exact (Option.some.inj h) ▸ rfl
  · split at h
    · exact (Option.some.inj h) ▸ rfl
    · cases h

theorem label_of_ofInline? {line : Line} {l : Label} {m : Mark} (h : ofInline? line l = some m) :
    m.label = l := by
  unfold ofInline? at h
  split at h
  · exact (Option.some.inj h) ▸ rfl
  · cases h

end Mark

namespace AnnotatedLine

variable {g : Group} {index : Nat} {line : Line}

theorem mem_marks_iff {m : Mark} : m ∈ (ofLine g index line).marks ↔
    (m ∈ g.rails.filterMap (Mark.ofRail? line) ∧
      ¬ (m.anchor = .opening ∧ (ofLine g index line).isPointed m.label = true)) ∨
    m ∈ g.inlineLabels.filterMap (Mark.ofInline? line) := by
  simp only [ofLine, isPointed, List.mem_mergeSort, List.mem_append, List.mem_filter, Bool.not_eq_true',
    Bool.and_eq_false_iff, beq_eq_false_iff_ne, not_and_or, Bool.not_eq_true, ne_eq]

theorem label_mem_of_mem_marks {m : Mark} (h : m ∈ (ofLine g index line).marks) : m.label ∈ g.labels := by
  rcases mem_marks_iff.1 h with ⟨h, _⟩ | h
  · obtain ⟨l, hl, hm⟩ := List.mem_filterMap.1 h
    rw [Mark.label_of_ofRail? hm]
    exact (Group.mem_rails_iff.1 hl).1
  · obtain ⟨l, hl, hm⟩ := List.mem_filterMap.1 h
    rw [Mark.label_of_ofInline? hm]
    exact (Group.mem_inlineLabels_iff.1 hl).1

theorem exists_mark_of_inline {l : Label} (hl : l ∈ g.labels) (hinline : l.multiline = false)
    (hstart : line.start ≤ l.start) (hstop : l.stop ≤ line.stop) :
    ∃ m ∈ (ofLine g index line).marks, m.label = l ∧ m.bearsText = true := by
  have hm : Mark.ofInline? line l = some ⟨(l.start + l.stop) / 2 - line.start, .inline, l⟩ := by
    simp [Mark.ofInline?, hstart, hstop]
  have hmem := List.mem_filterMap.2 ⟨l, Group.mem_inlineLabels_iff.2 ⟨hl, hinline⟩, hm⟩
  exact ⟨_, mem_marks_iff.2 (.inr hmem), rfl, rfl⟩

theorem exists_mark_of_rail {l : Label} (hl : l ∈ g.labels) (hrail : l.multiline = true)
    (hopen : line.holds l.start = false) (hclose : line.holds l.last = true) :
    ∃ m ∈ (ofLine g index line).marks, m.label = l ∧ m.bearsText = true := by
  have hm : Mark.ofRail? line l = some ⟨l.last - line.start, .closing, l⟩ := by
    simp [Mark.ofRail?, hopen, hclose]
  have hmem := List.mem_filterMap.2 ⟨l, Group.mem_rails_iff.2 ⟨hl, hrail⟩, hm⟩
  exact ⟨_, mem_marks_iff.2 (.inl ⟨hmem, fun h => nomatch h.1⟩), rfl, rfl⟩

theorem isBusy_of_mem_marks {a : AnnotatedLine} {m : Mark} (h : m ∈ a.marks) : a.isBusy = true := by
  cases hmarks : a.marks with
  | nil => simp [hmarks] at h
  | cons => simp [isBusy, hmarks]

theorem isBusy_of_rail {l : Label} (hl : l ∈ g.labels) (hrail : l.multiline = true)
    (hends : line.holds l.start = true ∨ line.holds l.last = true) :
    (ofLine g index line).isBusy = true := by
  have hsome : (Mark.ofRail? line l).isSome = true := by
    unfold Mark.ofRail?
    split
    · rfl
    · rename_i hopen
      rw [if_pos (hends.resolve_left hopen)]
      rfl
  obtain ⟨m, hm⟩ := Option.isSome_iff_exists.1 hsome
  have hmem : m ∈ (g.rails.filterMap (Mark.ofRail? line)).mergeSort Mark.precedes :=
    List.mem_mergeSort.2 (List.mem_filterMap.2 ⟨l, Group.mem_rails_iff.2 ⟨hl, hrail⟩, hm⟩)
  have hpointer : (ofLine g index line).pointer.isSome = true :=
    List.isSome_head?.2 (List.ne_nil_of_mem hmem)
  rw [isBusy, hpointer]
  rfl

end AnnotatedLine

end InterfaceCheck.Report
