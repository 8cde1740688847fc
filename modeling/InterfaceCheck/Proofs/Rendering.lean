import Mathlib.Data.List.Forall2
import InterfaceCheck.Proofs.Check
import InterfaceCheck.Report.Layout

namespace InterfaceCheck

def Span.IsReversed (s : Span) : Prop := s.stop < s.start

instance (s : Span) : Decidable s.IsReversed := inferInstanceAs (Decidable (s.stop < s.start))

namespace Diagnostic

def IsReversed (d : Diagnostic) : Prop := d.span.IsReversed ∨ ∃ r ∈ d.related, r.span.IsReversed

instance (d : Diagnostic) : Decidable d.IsReversed :=
  inferInstanceAs (Decidable (d.span.IsReversed ∨ ∃ r ∈ d.related, r.span.IsReversed))

theorem map_fst_places (d : Diagnostic) : d.places.map (·.1) = d.span :: d.related.map (·.span) := by
  simp [places]

theorem map_snd_places (d : Diagnostic) : d.places.map (·.2) = d.message :: d.related.map (·.message) := by
  simp [places]

theorem isReversed_iff_places {d : Diagnostic} : d.IsReversed ↔ ∃ p ∈ d.places, p.1.IsReversed := by
  simp [IsReversed, places]

def labels (source : Report.Source) (d : Diagnostic) : List Report.Label :=
  d.places.zipIdx.filterMap fun (p, i) => Report.Label.ofSpan? source i p.1 p.2

end Diagnostic

namespace Report

theorem Label.ofDiagnostic_of_isReversed (source : Source) {d : Diagnostic} (h : d.IsReversed) :
    ∃ r, Label.ofDiagnostic source d = .error r := by
  obtain ⟨p, hp, hrev⟩ := Diagnostic.isReversed_iff_places.1 h
  unfold Label.ofDiagnostic
  split
  · exact ⟨_, rfl⟩
  · rename_i hnone
    have := List.find?_eq_none.1 hnone p hp
    exact absurd hrev (by simpa [Span.IsReversed] using this)

theorem Label.ofDiagnostic_of_not_isReversed (source : Source) {d : Diagnostic} (h : ¬ d.IsReversed) :
    Label.ofDiagnostic source d = .ok (d.labels source) := by
  unfold Label.ofDiagnostic
  split
  · rename_i span message hsome
    have hlt : span.stop < span.start := by simpa using List.find?_some hsome
    exact absurd (Diagnostic.isReversed_iff_places.2 ⟨_, List.mem_of_find?_eq_some hsome, hlt⟩) h
  · rfl

def painting (source : Source) (d : Diagnostic) : Painting := layout source d (d.labels source)

theorem ofDiagnostic_of_not_isReversed (source : Source) {d : Diagnostic} (h : ¬ d.IsReversed) :
    ofDiagnostic source d = .ok (painting source d) := by
  rw [ofDiagnostic, Label.ofDiagnostic_of_not_isReversed source h]
  rfl

theorem ofDiagnostic_of_isReversed (source : Source) {d : Diagnostic} (h : d.IsReversed) :
    ∃ r, ofDiagnostic source d = .error r := by
  obtain ⟨r, hr⟩ := Label.ofDiagnostic_of_isReversed source h
  exact ⟨r, by rw [ofDiagnostic, hr]; rfl⟩

theorem mapM_ofDiagnostic (source : Source) {ds : List Diagnostic} (h : ∀ d ∈ ds, ¬ d.IsReversed) :
    ds.mapM (ofDiagnostic source) = .ok (ds.map (painting source)) := by
  induction ds with
  | nil => rfl
  | cons d ds ih =>
      rw [List.forall_mem_cons] at h
      rw [List.mapM_cons, ofDiagnostic_of_not_isReversed source h.1, ih h.2]
      rfl

theorem mapM_ofDiagnostic_of_isReversed (source : Source) {ds : List Diagnostic}
    (h : ∃ d ∈ ds, d.IsReversed) : ∃ r, ds.mapM (ofDiagnostic source) = .error r := by
  induction ds with
  | nil => simp at h
  | cons d ds ih =>
      rw [List.mapM_cons]
      by_cases hd : d.IsReversed
      · obtain ⟨r, hr⟩ := ofDiagnostic_of_isReversed source hd
        exact ⟨r, by rw [hr]; rfl⟩
      · obtain ⟨r, hr⟩ := ih (by simpa [hd] using h)
        exact ⟨r, by rw [ofDiagnostic_of_not_isReversed source hd, hr]; rfl⟩

variable (style : Style) (source : String)

theorem render_of_forall_not_isReversed {ds : List Diagnostic} (h : ∀ d ∈ ds, ¬ d.IsReversed) :
    render style source ds =
      .ok (String.join (ds.map fun d => (painting (.ofString source) d).write style)) := by
  rw [render, mapM_ofDiagnostic _ h]
  exact congrArg (fun texts => Except.ok (String.join texts)) (List.map_map ..)

theorem render_singleton {d : Diagnostic} (h : ¬ d.IsReversed) :
    render style source [d] = .ok ((painting (.ofString source) d).write style) := by
  rw [render_of_forall_not_isReversed style source (by simpa using h)]
  simp

theorem render_eq_error_iff {ds : List Diagnostic} :
    (∃ r, render style source ds = .error r) ↔ ∃ d ∈ ds, d.IsReversed := by
  constructor
  · rintro ⟨r, hr⟩
    by_contra h
    push Not at h
    rw [render_of_forall_not_isReversed style source h] at hr
    cases hr
  · intro h
    obtain ⟨r, hr⟩ := mapM_ofDiagnostic_of_isReversed (.ofString source) h
    exact ⟨r, by rw [render, hr]; rfl⟩

end Report

def Problem.spans : Problem → List Span
  | invalidBase _ _ _ _ span => [span]
  | duplicateMember _ span first => [span, first]

theorem CheckError.isReversed_toDiagnostic {e : CheckError} :
    e.toDiagnostic.IsReversed ↔ ∃ s ∈ e.problem.spans, s.IsReversed := by
  rcases e with ⟨interface, p⟩
  cases p <;> simp [toDiagnostic, Diagnostic.IsReversed, Problem.spans]

theorem Clause.exists_reversed_iff {c : Clause} :
    (∃ p, c.problem? = some p ∧ ∃ s ∈ p.spans, s.IsReversed) ↔
      c.type.verdict ≠ .accepted ∧ c.span.IsReversed := by
  unfold problem?
  cases c.type.verdict <;> simp [Verdict.rejection?, Problem.spans]

theorem Field.exists_reversed_iff {earlier : List Field} {f : Field} :
    (∃ p, f.repeat? earlier = some p ∧ ∃ s ∈ p.spans, s.IsReversed) ↔
      ∃ first, earlier.find? (·.name == f.name) = some first ∧
        (f.span.IsReversed ∨ first.span.IsReversed) := by
  unfold repeat?
  cases earlier.find? (·.name == f.name) <;> simp [Problem.spans]

theorem Field.exists_mem_repeats_iff {fs : List Field} {P : Problem → Prop} :
    (∃ p ∈ repeats fs, P p) ↔
      ∃ j, ∃ f : Field, fs[j]? = some f ∧ ∃ p, f.repeat? (fs.take j) = some p ∧ P p := by
  simp only [repeats, List.mem_filterMap, List.mem_zipIdx_iff_getElem?, Prod.exists]
  constructor
  · rintro ⟨p, ⟨f, j, hf, hp⟩, h⟩
    exact ⟨j, f, hf, p, hp, h⟩
  · rintro ⟨j, f, hf, p, hp, h⟩
    exact ⟨p, ⟨f, j, hf, hp⟩, h⟩

theorem Declaration.exists_reversed_iff {d : Declaration} :
    (∃ p ∈ d.problems, ∃ s ∈ p.spans, s.IsReversed) ↔
      (∃ c ∈ d.bases, c.type.verdict ≠ .accepted ∧ c.span.IsReversed) ∨
      ∃ j f first, d.fields[j]? = some f ∧ (d.fields.take j).find? (·.name == f.name) = some first ∧
        (f.span.IsReversed ∨ first.span.IsReversed) := by
  have hbases : (∃ p ∈ d.bases.filterMap Clause.problem?, ∃ s ∈ p.spans, s.IsReversed) ↔
      ∃ c ∈ d.bases, c.type.verdict ≠ .accepted ∧ c.span.IsReversed := by
    simp only [List.mem_filterMap, ← Clause.exists_reversed_iff]
    constructor
    · rintro ⟨p, ⟨c, hc, hp⟩, h⟩
      exact ⟨c, hc, p, hp, h⟩
    · rintro ⟨c, hc, p, hp, h⟩
      exact ⟨p, ⟨c, hc, hp⟩, h⟩
  simp only [problems, List.mem_append, or_and_right, exists_or, hbases, Field.exists_mem_repeats_iff,
    Field.exists_reversed_iff, exists_and_left]

namespace Report

/-- A rendering fails for a reversed span that it would have to draw and for nothing else, and reports
of several diagnostics are drawn each as if it were alone. The errors of a declaration point at clauses
that are rejected, at repeated fields and at the first fields of their names, and so nothing else in a
declaration matters. -/
theorem render_fails_iff_reversed (style : Style) (source : String) :
    (∀ ds, (∃ r, render style source ds = .error r) ↔ ∃ d ∈ ds, d.IsReversed) ∧
    (∀ ds, (¬ ∃ d ∈ ds, d.IsReversed) →
      ∃ texts, List.Forall₂ (fun d text => render style source [d] = .ok text) ds texts ∧
        render style source ds = .ok (String.join texts)) ∧
    (∀ (d : Declaration) es, d.check = .error es → ((∃ r, renderErrors style source es = .error r) ↔
      (∃ c ∈ d.bases, c.type.verdict ≠ .accepted ∧ c.span.IsReversed) ∨
      ∃ j f first, d.fields[j]? = some f ∧ (d.fields.take j).find? (·.name == f.name) = some first ∧
        (f.span.IsReversed ∨ first.span.IsReversed))) := by
  refine ⟨fun ds => render_eq_error_iff style source, ?_, ?_⟩
  · intro ds h
    have hds : ∀ d ∈ ds, ¬ d.IsReversed := fun d hd hrev => h ⟨d, hd, hrev⟩
    refine ⟨_, ?_, render_of_forall_not_isReversed style source hds⟩
    rw [List.forall₂_map_right_iff, List.forall₂_same]
    intro d hd
    exact render_singleton style source (hds d hd)
  · intro d es hes
    obtain ⟨_, rfl⟩ := Declaration.check_eq_error_iff.1 hes
    have hproblems := Declaration.exists_reversed_iff (d := d)
    rw [renderErrors, render_eq_error_iff]
    simpa [CheckError.isReversed_toDiagnostic] using hproblems

end Report

end InterfaceCheck
