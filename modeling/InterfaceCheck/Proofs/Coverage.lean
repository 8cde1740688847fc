import InterfaceCheck.Proofs.Labels

namespace InterfaceCheck.Report

namespace Label

/-- The label is for a span inside the source, and runs over several lines if its ends are in two. -/
structure Fits (source : Source) (l : Label) : Prop where
  ordered : l.start ≤ l.stop
  bounded : l.stop ≤ source.length
  multiline_iff : ∀ first last, source.At l.start first → source.At l.last last →
    (l.multiline = true ↔ first.line ≠ last.line)

variable {source : Source} {l : Label}

theorem start_le_last (l : Label) : l.start ≤ l.last := Nat.le_max_right ..

theorem last_of_lt (h : l.start < l.stop) : l.last = l.stop - 1 := Nat.max_eq_left (Nat.le_sub_one_of_lt h)

theorem last_of_eq (h : l.start = l.stop) : l.last = l.start := Nat.max_eq_right (h ▸ Nat.sub_le ..)

theorem Fits.last_le (h : l.Fits source) : l.last ≤ source.length :=
  Nat.max_le.2 ⟨Nat.le_trans (Nat.sub_le ..) h.bounded, Nat.le_trans h.ordered h.bounded⟩

theorem fits_of_ofSpan? (hsource : source.IsLined) {index : Nat} {span : Span} {message : String}
    (hordered : span.start ≤ span.stop) (hbounded : span.stop ≤ source.length)
    (h : ofSpan? source index span message = some l) : l.Fits source := by
  obtain ⟨first, last, hfirst, hlast, rfl⟩ := ofSpan?_eq_some_iff.1 h
  rw [hsource.place?_eq_some_iff] at hfirst
  refine ⟨hordered, hbounded, ?_⟩
  intro first' last' hfirst' hlast'
  obtain rfl := hsource.unique_place hfirst hfirst'
  split at hlast
  · rename_i heq
    rw [last_of_eq heq] at hlast'
    rw [← Option.some.inj hlast, ← hsource.unique_place hfirst hlast']
    simp
  · rename_i hne
    rw [hsource.place?_eq_some_iff] at hlast
    rw [last_of_lt (Nat.lt_of_le_of_ne hordered hne)] at hlast'
    rw [← hsource.unique_place hlast hlast']
    exact bne_iff_ne

variable {g : Group} {p : Place} {line : Line}

theorem Fits.exists_mark (h : l.Fits source) (hsource : source.IsLined) (hl : l ∈ g.labels)
    (hp : source.At l.last p) (hline : source.lines[p.line]? = some line) :
    ∃ m ∈ (AnnotatedLine.ofLine g p.line line).marks, m.label = l ∧ m.bearsText = true := by
  obtain ⟨first, hfirst⟩ := hsource.exists_at (Nat.le_trans h.ordered h.bounded)
  have hlines := h.multiline_iff first p hfirst hp
  have hbounded := h.bounded
  cases hrail : l.multiline with
  | true =>
      have hlines := hlines.1 hrail
      have hopen : line.holds l.start = false := by
        rw [← Bool.not_eq_true]
        intro hholds
        have hplace := Source.at_of_holds hline hholds
        rw [hsource.unique_place hfirst hplace] at hlines
        exact hlines rfl
      have hne : l.start < l.stop := by
        refine Nat.lt_of_le_of_ne h.ordered fun heq => ?_
        rw [last_of_eq heq] at hp
        rw [hsource.unique_place hfirst hp] at hlines
        exact hlines rfl
      have hclose : line.holds l.last = true := by
        refine hp.holds hline ?_
        rw [last_of_lt hne]
        omega
      exact AnnotatedLine.exists_mark_of_rail hl hrail hopen hclose
  | false =>
      rw [hrail, Bool.false_eq_true, false_iff, not_not] at hlines
      rw [← hlines] at hline
      refine AnnotatedLine.exists_mark_of_inline hl hrail (hfirst.start_le hline) ?_
      rcases Nat.lt_or_eq_of_le h.ordered with hne | heq
      · rw [hlines] at hline
        have hlast := last_of_lt hne
        have := (Line.holds_iff.1 (hp.holds hline (by omega))).2
        omega
      · exact heq ▸ hsource.le_stop_of_at hfirst hline

theorem Fits.isBusy (h : l.Fits source) (hsource : source.IsLined) (hl : l ∈ g.labels) {offset : Nat}
    (hne : l.start < l.stop) (hoffset : offset = l.start ∨ offset = l.last) (hp : source.At offset p)
    (hline : source.lines[p.line]? = some line) : (AnnotatedLine.ofLine g p.line line).isBusy = true := by
  have hholds : line.holds offset = true := by
    have := h.bounded
    have := last_of_lt hne
    exact hp.holds hline (by omega)
  cases hrail : l.multiline with
  | true =>
      refine AnnotatedLine.isBusy_of_rail hl hrail ?_
      rcases hoffset with rfl | rfl
      · exact .inl hholds
      · exact .inr hholds
  | false =>
      obtain ⟨last, hlast⟩ := hsource.exists_at h.last_le
      have hlines : p.line = last.line := by
        rcases hoffset with rfl | rfl
        · simpa [hrail] using h.multiline_iff p last hp hlast
        · rw [hsource.unique_place hp hlast]
      rw [hlines] at hline ⊢
      obtain ⟨m, hm, _⟩ := h.exists_mark hsource hl hlast hline
      exact AnnotatedLine.isBusy_of_mem_marks hm

end Label

theorem fits_of_mem_labels {source : Source} (hsource : source.IsLined) {d : Diagnostic}
    (hd : ∀ p ∈ d.places, p.1.start ≤ p.1.stop ∧ p.1.stop ≤ source.length) {l : Label}
    (hl : l ∈ d.labels source) : l.Fits source := by
  obtain ⟨⟨p, i⟩, hp, hl⟩ := List.mem_filterMap.1 hl
  obtain ⟨hordered, hbounded⟩ := hd p (List.fst_mem_of_mem_zipIdx hp)
  exact Label.fits_of_ofSpan? hsource hordered hbounded hl

namespace Group

variable {source : Source}

/-- The lines of a group reach from one offset to another. No label starts before the first, and none ends
behind the character at the second. -/
theorem exists_range (hsource : source.IsLined) {ls : List Label} (hls : ∀ l ∈ ls, l.Fits source)
    (hne : ls ≠ []) : ∃ start last, start ≤ last ∧ last ≤ source.length ∧
      (∀ l ∈ ls, start ≤ l.start ∧ l.stop ≤ last + 1) ∧
      ∀ offset p line, start ≤ offset → offset ≤ last → source.At offset p →
        source.lines[p.line]? = some line →
          .ofLine (ofLabels source ls) p.line line ∈ (ofLabels source ls).annotated source := by
  let start := (ls.map (·.start)).min?.getD 0
  let stop := (ls.map (·.stop)).max?.getD 0
  have hstart : ∀ l ∈ ls, start ≤ l.start := fun l hl => List.min?_getD_le_of_mem (List.mem_map_of_mem hl)
  have hstop : ∀ l ∈ ls, l.stop ≤ stop := fun l hl => List.le_max?_getD_of_mem (List.mem_map_of_mem hl)
  have hstartlength : start ≤ source.length := by
    obtain ⟨l, hl⟩ := List.exists_mem_of_ne_nil _ hne
    exact Nat.le_trans (hstart l hl) (Nat.le_trans (hls l hl).ordered (hls l hl).bounded)
  have hstoplength : stop ≤ source.length := by
    cases hmax : (ls.map (·.stop)).max? with
    | none => simp [stop, hmax]
    | some m =>
        obtain ⟨l, hl, rfl⟩ := List.mem_map.1 (List.max?_mem hmax)
        simpa [stop, hmax] using (hls l hl).bounded
  have hlastlength : max (stop - 1) start ≤ source.length := by omega
  obtain ⟨first, hfirst⟩ := hsource.exists_at hstartlength
  obtain ⟨last, hlast⟩ := hsource.exists_at hlastlength
  have hfirstline : (ofLabels source ls).first = first.line := by
    simp only [ofLabels, start] at hfirst ⊢
    rw [hsource.place?_eq_some_iff.2 hfirst]
    rfl
  have hstopline : (ofLabels source ls).stop = last.line + 1 := by
    simp only [ofLabels, start, stop] at hlast ⊢
    rw [hsource.place?_eq_some_iff.2 hlast]
    rfl
  refine ⟨start, max (stop - 1) start, Nat.le_max_right .., hlastlength, ?_, ?_⟩
  · intro l hl
    have := hstart l hl
    have := hstop l hl
    omega
  · intro offset p line hge hle hp hline
    have hfirstle := hsource.line_le_of_at hfirst hp hge
    have hlastle := hsource.line_le_of_at hp hlast hle
    exact mem_annotated_iff.2 ⟨_, _, hline, by omega, by omega, rfl⟩

/-- A label has its text below a line of its group. This is the last line of the label, unless the label is
empty and starts where the lines of the group end: then it is put at the end of the last of them. -/
theorem exists_mark_of_mem_labels (hsource : source.IsLined) {ls : List Label}
    (hls : ∀ l ∈ ls, l.Fits source) {l : Label} (hl : l ∈ ls) :
    ∃ a ∈ (ofLabels source ls).annotated source, ∃ m ∈ a.marks, m.label = l ∧ m.bearsText = true := by
  obtain ⟨start, last, hle, hlength, hrange, hdrawn⟩ := exists_range hsource hls (List.ne_nil_of_mem hl)
  obtain ⟨hstart, hend⟩ := hrange l hl
  have hfits := hls l hl
  by_cases hlast : l.last ≤ last
  · obtain ⟨p, hp⟩ := hsource.exists_at hfits.last_le
    have ⟨line, hline, _⟩ := hp
    have hmem := hdrawn _ p line (Nat.le_trans hstart l.start_le_last) hlast hp hline
    exact ⟨_, hmem, hfits.exists_mark hsource hl hp hline⟩
  · have hempty : l.start = l.stop := by
      refine hfits.ordered.eq_or_lt.resolve_right fun hne => ?_
      have := Label.last_of_lt hne
      omega
    have hlast' := Label.last_of_eq hempty
    have hinline : l.multiline = false := by
      obtain ⟨p, hp⟩ := hsource.exists_at hfits.last_le
      simpa using hfits.multiline_iff p p (hlast' ▸ hp) hp
    obtain ⟨p, hp⟩ := hsource.exists_at hlength
    have ⟨line, hline, _⟩ := hp
    have hmem := hdrawn _ p line hle (Nat.le_refl _) hp hline
    have hbounded := hfits.bounded
    obtain ⟨hlinestart, hlinestop⟩ := Line.holds_iff.1 (hp.holds hline (by omega))
    exact ⟨_, hmem, AnnotatedLine.exists_mark_of_inline hl hinline (by omega) (by omega)⟩

theorem exists_busy_of_mem_labels (hsource : source.IsLined) {ls : List Label}
    (hls : ∀ l ∈ ls, l.Fits source) {l : Label} (hl : l ∈ ls) (hne : l.start < l.stop) {offset : Nat}
    (hoffset : offset = l.start ∨ offset = l.last) :
    ∃ i line, source.lines[i]? = some line ∧ line.holds offset = true ∧
      ∃ a ∈ (ofLabels source ls).annotated source, a.index = i ∧ a.line = line ∧ a.isBusy = true := by
  obtain ⟨start, last, _, _, hrange, hdrawn⟩ := exists_range hsource hls (List.ne_nil_of_mem hl)
  obtain ⟨hstart, hend⟩ := hrange l hl
  have hfits := hls l hl
  have hlast := Label.last_of_lt hne
  have hlt : offset < source.length := by
    have := hfits.bounded
    omega
  obtain ⟨p, hp⟩ := hsource.exists_at (Nat.le_of_lt hlt)
  have ⟨line, hline, _⟩ := hp
  have hmem := hdrawn offset p line (by omega) (by omega) hp hline
  exact ⟨p.line, line, hline, hp.holds hline hlt, _, hmem, rfl, rfl,
    hfits.isBusy hsource hl hne hoffset hp hline⟩

end Group

end InterfaceCheck.Report
