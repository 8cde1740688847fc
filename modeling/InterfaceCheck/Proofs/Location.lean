import InterfaceCheck.Proofs.Cut
import InterfaceCheck.Proofs.Drawing
import InterfaceCheck.Proofs.Labels
import InterfaceCheck.Proofs.Slices

namespace InterfaceCheck.Report

def Place.text (p : Place) : String := (p.line + 1).repr ++ ":" ++ (p.column + 1).repr

/-- What is read in a report up to the place in its first location: the heading, and then the indented
corner of a rule. -/
def upToPlace (d : Diagnostic) (indent : Nat) : List Char :=
  (heading d).chars ++ (List.replicate indent ' ' ++ "╭─[ <unknown>:".toList)

def Names (d : Diagnostic) (report : List Char) (p : Place) : Prop :=
  ∃ indent rest, report = upToPlace d indent ++ (p.text.toList ++ (" ]\n".toList ++ rest))

theorem upToPlace_cut {d : Diagnostic} {m n : Nat} {us vs : List Char}
    (h : upToPlace d m ++ us = upToPlace d n ++ vs) : us = vs := by
  unfold upToPlace at h
  simp only [List.append_assoc, List.append_cancel_left_eq] at h
  have hspaces (k : Nat) : ∀ c ∈ List.replicate k ' ', (c == ' ') = true := by
    intro c hc
    rw [List.eq_of_mem_replicate hc]
    rfl
  obtain ⟨_, hrest⟩ := cut_unique h (hspaces m) (hspaces n) (by simp) (by simp)
  simpa using hrest

theorem Place.text_cut {p q : Place} {us vs : List Char} (h : p.text.toList ++ us = q.text.toList ++ vs)
    (hus : ∀ c ∈ us.head?, c.isDigit = false) (hvs : ∀ c ∈ vs.head?, c.isDigit = false) : p = q := by
  simp only [Place.text, String.toList_append, List.append_assoc] at h
  obtain ⟨hline, h⟩ := repr_cut h (by simp) (by simp)
  obtain ⟨hcolumn, _⟩ := repr_cut (List.append_cancel_left h) hus hvs
  rcases p with ⟨line, column⟩
  rcases q with ⟨line', column'⟩
  simp only [Nat.add_right_cancel_iff] at hline hcolumn
  rw [hline, hcolumn]

theorem Place.text_append_ne (p : Place) (us vs : List Char) : p.text.toList ++ us ≠ '?' :: vs := by
  intro h
  simp only [Place.text, String.toList_append, List.append_assoc] at h
  obtain ⟨_, hrest⟩ := @cut_unique Char.isDigit _ [] _ _ h (fun _ => isDigit_of_mem_repr) (by simp) (by simp)
    (by simp)
  simp at hrest

theorem Names.unique {d : Diagnostic} {report : List Char} {p q : Place} (hp : Names d report p)
    (hq : Names d report q) : p = q := by
  obtain ⟨m, us, rfl⟩ := hp
  obtain ⟨n, vs, h⟩ := hq
  exact Place.text_cut (upToPlace_cut h) (by simp) (by simp)

theorem location_of_at {source : Source} (hsource : source.IsLined) {offset : Nat} {p : Place}
    (h : source.At offset p) : location source offset = p.text := by
  rw [location, hsource.place?_eq_some_iff.2 h]
  rfl

theorem location_of_lt {source : Source} {offset : Nat} (h : source.length < offset) :
    location source offset = "?:?" := by
  rw [location, Source.place?, if_pos h]

theorem chars_drawTop (digits : Nat) (place : String) : (Group.drawTop digits "╭" place).chars =
    List.replicate (digits + 2) ' ' ++ "╭─[ <unknown>:".toList ++ place.toList ++ " ]\n".toList ++
      List.replicate (digits + 2) ' ' ++ "│\n".toList := by
  simp [Group.drawTop, blanks, toList_repeated, ruleColour, endRow]

theorem exists_chars_painting {source : Source} {d : Diagnostic} (h : d.labels source ≠ []) :
    ∃ indent rest, (painting source d).chars =
      upToPlace d indent ++ ((location source d.span.start).toList ++ (" ]\n".toList ++ rest)) := by
  obtain ⟨g, groups, hgroups⟩ := List.exists_cons_of_ne_nil (Group.split_ne_nil h)
  rw [painting, layout, hgroups]
  unfold drawGroups
  simp only [Painting.chars_append, chars_drawTop, upToPlace, List.append_assoc]
  exact ⟨_, _, rfl⟩

theorem chars_painting_of_labels_eq_nil {source : Source} {d : Diagnostic} (h : d.labels source = []) :
    (painting source d).chars = (heading d).chars := by
  simp [painting, layout, h, Group.split, drawGroups]

theorem names_iff {source : Source} (hsource : source.IsLined) {d : Diagnostic} {p : Place} :
    Names d (painting source d).chars p ↔ d.labels source ≠ [] ∧ source.At d.span.start p := by
  constructor
  · rintro ⟨m, us, hp⟩
    have hlabels : d.labels source ≠ [] := by
      intro hnil
      rw [chars_painting_of_labels_eq_nil hnil] at hp
      have := congrArg List.length hp
      simp [upToPlace] at this
    refine ⟨hlabels, ?_⟩
    obtain ⟨n, vs, h⟩ := exists_chars_painting hlabels
    have hcut := upToPlace_cut (hp.symm.trans h)
    by_cases hlt : source.length < d.span.start
    · rw [location_of_lt hlt] at hcut
      have hquestion : "?:?".toList = ['?', ':', '?'] := by decide
      rw [hquestion] at hcut
      exact absurd hcut (p.text_append_ne _ _)
    · obtain ⟨q, hq⟩ := hsource.exists_at (Nat.le_of_not_lt hlt)
      rw [location_of_at hsource hq] at hcut
      rw [Place.text_cut hcut (by simp) (by simp)]
      exact hq
  · rintro ⟨hlabels, hp⟩
    obtain ⟨n, vs, h⟩ := exists_chars_painting hlabels
    rw [location_of_at hsource hp] at h
    exact ⟨n, vs, h⟩

theorem labels_ne_nil_iff {source : Source} (hsource : source.IsLined) {d : Diagnostic} :
    d.labels source ≠ [] ↔ ∃ s ∈ d.span :: d.related.map (·.span),
      s.start ≤ source.length ∧ s.stop ≤ source.length + 1 := by
  rw [← d.map_fst_places]
  constructor
  · intro h
    obtain ⟨l, hl⟩ := List.exists_mem_of_ne_nil _ h
    obtain ⟨⟨p, i⟩, hp, hl⟩ := List.mem_filterMap.1 hl
    exact ⟨p.1, List.mem_map_of_mem (List.fst_mem_of_mem_zipIdx hp),
      (Label.exists_ofSpan?_iff hsource i p.2).1 ⟨l, hl⟩⟩
  · rintro ⟨s, hs, hin⟩
    obtain ⟨p, hp, rfl⟩ := List.mem_map.1 hs
    obtain ⟨i, hi⟩ := List.getElem?_of_mem hp
    obtain ⟨l, hl⟩ := (Label.exists_ofSpan?_iff hsource i p.2).2 hin
    exact List.ne_nil_of_mem (List.mem_filterMap.2 ⟨(p, i), List.mem_zipIdx_iff_getElem?.2 hi, hl⟩)

theorem length_le_utf8Length (cs : List Char) : cs.length ≤ Span.utf8Length cs := by
  induction cs with
  | nil => exact Nat.le_refl _
  | cons c cs ih =>
      have := c.utf8Size_pos
      rw [Span.utf8Length, List.length_cons]
      omega

theorem utf8Length_eq_length_iff {cs : List Char} :
    Span.utf8Length cs = cs.length ↔ ∀ c ∈ cs, c.utf8Size = 1 := by
  induction cs with
  | nil => simp [Span.utf8Length]
  | cons c cs ih =>
      have hpos := c.utf8Size_pos
      have hle := length_le_utf8Length cs
      rw [Span.utf8Length, List.length_cons, List.forall_mem_cons, ← ih]
      omega

theorem exists_before_of_textIn? {s : Span} {source text : String} (h : s.textIn? source = some text) :
    ∃ before after, source.toList = before ++ after ∧ Span.utf8Length before = s.start := by
  obtain ⟨before, after, hsource, hstart, _⟩ := Span.textIn?_eq_some_iff.1 h
  refine ⟨before.toList, (text ++ after).toList, ?_, ?_⟩
  · rw [hsource, String.append_assoc, String.toList_append]
  · rw [Span.utf8Length_toList, hstart]

/-- A report with a location names the place that lies as many characters from the start of the source
as the span starts bytes from it. This is the place of the character at which the span starts exactly if
the characters before it take one byte each. -/
theorem report_names_span_iff {source text report : String} {d : Diagnostic}
    (hspan : d.span.textIn? source = some text) (hreport : render .plain source [d] = .ok report) :
    (∀ p, Names d report.toList p ↔
      (∃ s ∈ d.span :: d.related.map (·.span), s.start ≤ source.length ∧ s.stop ≤ source.length + 1) ∧
        (Source.ofString source).At d.span.start p) ∧
    ∃ before after p, source.toList = before ++ after ∧ Span.utf8Length before = d.span.start ∧
      (Source.ofString source).At before.length p ∧
      (Names d report.toList p ↔
        (∃ s ∈ d.span :: d.related.map (·.span), s.start ≤ source.length ∧ s.stop ≤ source.length + 1) ∧
          ∀ c ∈ before, c.utf8Size = 1) := by
  have hlined := Source.isLined_ofString source
  have hnot : ¬ d.IsReversed := by
    intro hrev
    have hfails : ∃ e ∈ [d], e.IsReversed := ⟨d, List.mem_singleton_self d, hrev⟩
    obtain ⟨r, hr⟩ := (render_eq_error_iff .plain source).2 hfails
    rw [hr] at hreport
    cases hreport
  have hnames : ∀ p, Names d report.toList p ↔
      (∃ s ∈ d.span :: d.related.map (·.span), s.start ≤ source.length ∧ s.stop ≤ source.length + 1) ∧
        (Source.ofString source).At d.span.start p := by
    intro p
    rw [render_singleton .plain source hnot] at hreport
    rw [← Except.ok.inj hreport, Painting.toList_write_plain, names_iff hlined, labels_ne_nil_iff hlined]
    rfl
  obtain ⟨before, after, hbefore, hlength⟩ := exists_before_of_textIn? hspan
  have hle : before.length ≤ source.length := by
    rw [← String.length_toList, hbefore, List.length_append]
    exact Nat.le_add_right ..
  obtain ⟨p, hp⟩ := hlined.exists_at hle
  refine ⟨hnames, before, after, p, hbefore, hlength, hp, ?_⟩
  rw [hnames p, ← utf8Length_eq_length_iff, hlength]
  apply and_congr_right
  intro _
  constructor
  · exact fun h => h.unique_offset hp
  · exact fun h => h ▸ hp

def secondLine : Diagnostic where
  message := "Duplicate"
  span := ⟨3, 4⟩
  related := [⟨⟨0, 1⟩, "first"⟩]
  help := none
  code := none

theorem report_names_secondLine :
    Span.textIn? ⟨3, 4⟩ "a\n a" = some "a" ∧
    ∃ report, render .plain "a\n a" [secondLine] = .ok report ∧ Names secondLine report.toList ⟨1, 1⟩ := by
  have hspan : Span.textIn? ⟨3, 4⟩ "a\n a" = some "a" := by decide
  have hreport := render_singleton .plain "a\n a" (d := secondLine) (by decide)
  refine ⟨hspan, _, hreport, ?_⟩
  have hnames := (report_names_span_iff hspan hreport).1 ⟨1, 1⟩
  exact hnames.2 ⟨⟨_, List.mem_cons_self, by decide, by decide⟩, ⟨2, " a".toList⟩, rfl, rfl, .inl (by decide)⟩

def accented : Diagnostic where
  message := "m"
  span := ⟨3, 4⟩
  related := []
  help := none
  code := none

/-- The `a` is the third character of its line, and the report names the fourth. -/
theorem report_misplaces_accented :
    accented.span.textIn? "é ab" = some "a" ∧ "é ab".toList = "é ".toList ++ "ab".toList ∧
    Span.utf8Length "é ".toList = accented.span.start ∧
    (Source.ofString "é ab").At "é ".length ⟨0, 2⟩ ∧
    ∃ report, render .plain "é ab" [accented] = .ok report ∧
      Names accented report.toList ⟨0, 3⟩ ∧ ¬ Names accented report.toList ⟨0, 2⟩ := by
  have hplace : (Source.ofString "é ab").At "é ".length ⟨0, 2⟩ :=
    ⟨⟨0, "é ab".toList⟩, rfl, rfl, .inl (by decide)⟩
  have hreport := render_singleton .plain "é ab" (d := accented) (by decide)
  have hnamed : Names accented (painting (.ofString "é ab") accented).chars ⟨0, 3⟩ :=
    (names_iff (Source.isLined_ofString _)).2 ⟨by decide, ⟨0, "é ab".toList⟩, rfl, rfl, .inl (by decide)⟩
  rw [← Painting.toList_write_plain] at hnamed
  refine ⟨by decide, by decide, by decide, hplace, _, hreport, hnamed, ?_⟩
  intro h
  have := h.unique hnamed
  simp at this

end InterfaceCheck.Report
