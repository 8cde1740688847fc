import InterfaceCheck.Proofs.Excerpts

namespace InterfaceCheck

/-- A text that ends where an apostrophe stands behind it. -/
def Quotable (s : String) : Prop := '\x27' ∉ s.toList

instance : DecidablePred Quotable := fun s => inferInstanceAs (Decidable ('\x27' ∉ s.toList))

def Shape.names {α : Type} : Shape α → List String
  | object ms => ms.map (·.name)
  | param _ | primitive _ | array _ | function _ _ | union _ | intersection _ => []

def Ty.HasQuotableNames (t : Ty) : Prop := ∀ u ∈ t.nodes, ∀ n ∈ u.shape.names, Quotable n

instance (t : Ty) : Decidable t.HasQuotableNames :=
  inferInstanceAs (Decidable (∀ u ∈ t.nodes, ∀ n ∈ u.shape.names, Quotable n))

theorem Ty.hasQuotableNames_iff {t : Ty} :
    t.HasQuotableNames ↔ (∀ n ∈ t.shape.names, Quotable n) ∧ ∀ c ∈ t.children, c.HasQuotableNames :=
  forall_mem_nodes

@[simp] theorem Shape.names_map {α β : Type} (f : α → β) (s : Shape α) : (s.map f).names = s.names := by
  cases s with
  | object ms => exact List.map_map
  | param | primitive | array | function | union | intersection => rfl

@[simp] theorem quotable_append {s t : String} : Quotable (s ++ t) ↔ Quotable s ∧ Quotable t := by
  rw [Quotable, String.toList_append, List.mem_append, not_or, Quotable, Quotable]

theorem quotable_repr (n : Nat) : Quotable n.repr :=
  fun h => absurd (isDigit_of_mem_repr h) (by decide)

theorem Quotable.of_infix {s t : String} (h : Quotable t) (hst : s.toList <:+: t.toList) : Quotable s :=
  fun hs => h (hst.subset hs)

theorem Primitive.quotable_keyword (p : Primitive) : Quotable p.keyword := by
  cases p <;> decide

namespace Phrase

theorem quotable_inPlace {p : Phrase} (h : Quotable p.text) (place : Binding) : Quotable (p.inPlace place) := by
  unfold inPlace
  split
  · exact quotable_append.2 ⟨quotable_append.2 ⟨by decide, h⟩, by decide⟩
  · exact h

theorem quotable_operands {ps : List Phrase} (h : ∀ p ∈ ps, Quotable p.text) {sep : String}
    (hsep : Quotable sep) (place : Binding) : Quotable (sep.intercalate (ps.map (inPlace place))) :=
  notMem_intercalate hsep (List.forall_mem_map.2 fun p hp => quotable_inPlace (h p hp) place)

theorem quotable_parameter {p : Phrase} (h : Quotable p.text) (i : Nat) : Quotable (parameter i p) := by
  simp only [parameter, quotable_append]
  exact ⟨⟨⟨by decide, quotable_repr i⟩, by decide⟩, quotable_inPlace h .arrow⟩

theorem quotable_member {m : Member Phrase} (hname : Quotable m.name) (h : Quotable m.type.text) :
    Quotable (member m) := by
  simp only [member, quotable_append]
  exact ⟨⟨hname, by decide⟩, quotable_inPlace h .arrow⟩

theorem quotable_ofShape {s : Shape Phrase} (hnames : ∀ n ∈ s.names, Quotable n)
    (h : ∀ p ∈ s.children, Quotable p.text) : Quotable (ofShape s).text := by
  cases s with
  | param n => exact quotable_append.2 ⟨by decide, quotable_repr _⟩
  | primitive p => exact p.quotable_keyword
  | array e => exact quotable_append.2 ⟨quotable_inPlace (h e List.mem_cons_self) .atom, by decide⟩
  | function ps r =>
      have hparams : ∀ s ∈ ps.mapIdx parameter, Quotable s := by
        intro s hs
        obtain ⟨i, hi, rfl⟩ := List.mem_mapIdx.1 hs
        exact quotable_parameter (h _ (List.mem_append_left _ (List.getElem_mem hi))) i
      have hresult := h r (List.mem_append_right _ (List.mem_singleton_self r))
      simp only [ofShape, quotable_append]
      exact ⟨⟨⟨by decide, notMem_intercalate (by decide) hparams⟩, by decide⟩, quotable_inPlace hresult .arrow⟩
  | object ms =>
      cases ms with
      | nil => decide
      | cons m ms =>
          have hmembers : ∀ s ∈ (m :: ms).map member, Quotable s :=
            List.forall_mem_map.2 fun x hx =>
              quotable_member (hnames _ (List.mem_map_of_mem hx)) (h _ (List.mem_map_of_mem hx))
          simp only [ofShape, quotable_append]
          exact ⟨⟨by decide, notMem_intercalate (by decide) hmembers⟩, by decide⟩
  | union ts => exact quotable_operands h (by decide) .intersection
  | intersection ts =>
      cases ts with
      | nil => decide
      | cons t ts => exact quotable_operands h (by decide) .atom

end Phrase

theorem Ty.quotable_display {t : Ty} (h : t.HasQuotableNames) : Quotable t.display := by
  induction t using ind with
  | step t ih =>
      obtain ⟨hnames, hchildren⟩ := hasQuotableNames_iff.1 h
      rw [display, phrase_eq]
      apply Phrase.quotable_ofShape
      · rwa [Shape.names_map]
      · rw [Shape.children_map]
        exact List.forall_mem_map.2 fun c hc => ih c hc (hchildren c hc)

theorem Quotable.cut {s t : String} {us vs : List Char} (hs : Quotable s) (ht : Quotable t)
    (h : s.toList ++ '\x27' :: us = t.toList ++ '\x27' :: vs) : s = t ∧ us = vs := by
  have hfree {s : String} (hs : Quotable s) : ∀ c ∈ s.toList, (c != '\x27') = true :=
    fun c hc => bne_iff_ne.2 (ne_of_mem_of_not_mem hc hs)
  obtain ⟨hst, hrest⟩ := cut_unique h (hfree hs) (hfree ht) (by simp) (by simp)
  exact ⟨String.toList_inj.1 hst, (List.cons.inj hrest).2⟩

theorem path_cut {p q : List Nat} {us vs : List Char} (hp : p ≠ []) (hq : q ≠ [])
    (h : (".".intercalate (p.map Nat.repr)).toList ++ ' ' :: us =
      (".".intercalate (q.map Nat.repr)).toList ++ ' ' :: vs) : p = q ∧ us = vs := by
  have hcut : ∀ m ∈ p, ∀ n ∈ q, ∀ us vs : List Char, (∀ c ∈ us.head?, c.isDigit = false) →
      (∀ c ∈ vs.head?, c.isDigit = false) → m.repr.toList ++ us = n.repr.toList ++ vs → m = n :=
    fun m _ n _ us vs hus hvs he => (repr_cut he hus hvs).1
  rw [String.toList_intercalate, String.toList_intercalate, List.map_map, List.map_map] at h
  obtain ⟨hpq, hrest⟩ := intercalate_cut hp hq hcut (by simp) (by simp) (by simp) (by simp) (by simp) h
  exact ⟨hpq, (List.cons.inj hrest).2⟩

theorem Offence.explanation_injective {o o' : Offence} (h : o.explanation = o'.explanation) : o = o' := by
  cases o <;> cases o' <;> first | rfl | exact absurd h (by decide)

namespace Problem

/-- What the words for a part say behind its text. -/
def whereabouts (base : String) (path : List Nat) : String :=
  if path.isEmpty then ""
  else " (part " ++ ".".intercalate (path.map Nat.repr) ++ " of '" ++ base ++ "')"

theorem toList_subject (base offending : String) (path : List Nat) :
    (subject base offending path).toList =
      '\x27' :: (offending.toList ++ '\x27' :: (whereabouts base path).toList) := by
  simp [subject, whereabouts]

theorem toList_whereabouts_cons (base : String) (i : Nat) (p : List Nat) :
    (whereabouts base (i :: p)).toList = " (part ".toList ++ ((".".intercalate ((i :: p).map Nat.repr)).toList ++
      ' ' :: ("of '".toList ++ (base.toList ++ '\x27' :: ")".toList))) := by
  simp [whereabouts]

theorem whereabouts_cut {base base' : String} {path path' : List Nat} {us vs : List Char}
    (hbase : Quotable base) (hbase' : Quotable base')
    (h : (whereabouts base path).toList ++ (" is ".toList ++ us) =
      (whereabouts base' path').toList ++ (" is ".toList ++ vs)) :
    path = path' ∧ (path ≠ [] → base = base') ∧ us = vs := by
  cases path with
  | nil =>
      cases path' with
      | nil => exact ⟨rfl, absurd rfl, List.append_cancel_left h⟩
      | cons j q => simp [whereabouts] at h
  | cons i p =>
      cases path' with
      | nil => simp [whereabouts] at h
      | cons j q =>
          simp only [toList_whereabouts_cons, List.append_assoc, List.cons_append] at h
          obtain ⟨hpath, hrest⟩ := path_cut (List.cons_ne_nil i p) (List.cons_ne_nil j q)
            (List.append_cancel_left h)
          obtain ⟨hbases, hrest⟩ := hbase.cut hbase' (List.append_cancel_left hrest)
          exact ⟨hpath, fun _ => hbases, List.append_cancel_left (List.append_cancel_left hrest)⟩

/-- The message about a problem can be read: the types can be quoted, and where the base is not quoted it
is the type that is at fault. -/
def IsLegible : Problem → Prop
  | invalidBase base offending _ path _ => Quotable base ∧ Quotable offending ∧ (path = [] → offending = base)
  | duplicateMember _ _ _ => True

theorem help_cut {base base' offending offending' : String} {o o' : Offence} {path path' : List Nat}
    {span span' : Span} (hp : (invalidBase base offending o path span).IsLegible)
    (hp' : (invalidBase base' offending' o' path' span').IsLegible)
    (h : subject base offending path ++ " is " ++ o.explanation =
      subject base' offending' path' ++ " is " ++ o'.explanation) :
    base = base' ∧ offending = offending' ∧ o = o' ∧ path = path' := by
  obtain ⟨hbase, hoffending, hwhole⟩ := hp
  obtain ⟨hbase', hoffending', hwhole'⟩ := hp'
  have h := congrArg String.toList h
  simp only [String.toList_append, toList_subject, List.append_assoc, List.cons_append] at h
  obtain ⟨rfl, hrest⟩ := hoffending.cut hoffending' (List.cons.inj h).2
  obtain ⟨rfl, hbases, hexplanation⟩ := whereabouts_cut hbase hbase' hrest
  have hsame : base = base' := by
    -- Without a path the base is not in the text.
    by_cases hpath : path = []
    · rw [← hwhole hpath, hwhole' hpath]
    · exact hbases hpath
  exact ⟨hsame, rfl, Offence.explanation_injective (String.toList_inj.1 hexplanation), rfl⟩

end Problem

namespace CheckError

theorem code_toDiagnostic (e : CheckError) : e.toDiagnostic.code = some e.problem.code := by
  rcases e with ⟨i, p⟩
  cases p <;> rfl

theorem span_toDiagnostic (e : CheckError) : e.toDiagnostic.span = e.problem.span := by
  rcases e with ⟨i, p⟩
  cases p <;> rfl

theorem eq_of_toDiagnostic {e e' : CheckError} (hi : e.interface = e'.interface)
    (he : e.problem.IsLegible) (he' : e'.problem.IsLegible) (h : e.toDiagnostic = e'.toDiagnostic) : e = e' := by
  have hcode := congrArg Diagnostic.code h
  have hspan := congrArg Diagnostic.span h
  rw [code_toDiagnostic, code_toDiagnostic] at hcode
  rw [span_toDiagnostic, span_toDiagnostic] at hspan
  rcases e with ⟨i, p⟩
  rcases e' with ⟨i', p'⟩
  obtain rfl : i = i' := hi
  cases p with
  | invalidBase base offending o path span =>
      cases p' with
      | duplicateMember => exact absurd hcode (by simp [Problem.code])
      | invalidBase base' offending' o' path' span' =>
          obtain rfl : span = span' := hspan
          obtain ⟨rfl, rfl, rfl, rfl⟩ :=
            Problem.help_cut he he' (Option.some.inj (congrArg Diagnostic.help h))
          rfl
  | duplicateMember name span first =>
      cases p' with
      | invalidBase => exact absurd hcode (by simp [Problem.code])
      | duplicateMember name' span' first' =>
          obtain rfl : span = span' := hspan
          have hrelated : [Related.mk first ("'" ++ name ++ "' first declared here")] =
              [Related.mk first' ("'" ++ name' ++ "' first declared here")] :=
            congrArg Diagnostic.related h
          obtain ⟨rfl, hname⟩ := Related.mk.inj (List.cons.inj hrelated).1
          obtain rfl := (String.append_right_inj _).1 ((String.append_left_inj _).1 hname)
          rfl

end CheckError

namespace Declaration

theorem isLegible_of_mem_errors {d : Declaration} {es : List CheckError} {e : CheckError}
    (hd : ∀ c ∈ d.bases, c.type.HasQuotableNames) (hes : d.check = .error es) (he : e ∈ es) :
    e.problem.IsLegible := by
  cases hp : e.problem with
  | duplicateMember => trivial
  | invalidBase base offending o path span =>
      obtain ⟨c, hc, hproblem⟩ := exists_clause_of_mem_errors hes he (by rw [hp]; rfl)
      rw [hp] at hproblem
      obtain ⟨rfl, hquoted, hwhole⟩ := Clause.quotes_of_problem? hproblem
      have hbase := Ty.quotable_display (hd c hc)
      exact ⟨hbase, hbase.of_infix hquoted, hwhole⟩

/-- Errors that are found in an interface, be it in one declaration or in two, have different diagnostics
if they differ in anything at all, unless a name in an extended type has an apostrophe. -/
theorem toDiagnostic_tells_errors {d d' : Declaration} {es es' : List CheckError} (hname : d.name = d'.name)
    (hd : ∀ c ∈ d.bases, c.type.HasQuotableNames) (hd' : ∀ c ∈ d'.bases, c.type.HasQuotableNames)
    (hes : d.check = .error es) (hes' : d'.check = .error es') :
    ∀ e ∈ es, ∀ e' ∈ es', e.toDiagnostic = e'.toDiagnostic ↔ e = e' := by
  intro e he e' he'
  constructor
  · intro h
    have hinterface : e.interface = e'.interface := by
      rw [((mem_errors_iff hes).1 he).1, ((mem_errors_iff hes').1 he').1, hname]
    exact CheckError.eq_of_toDiagnostic hinterface (isLegible_of_mem_errors hd hes he)
      (isLegible_of_mem_errors hd' hes' he') h
  · rintro rfl
    rfl

def wide : Ty := .intersection (List.replicate 11 .emptyObject ++ [.param 1])

def deep : Ty := .intersection [.emptyObject, .intersection [.emptyObject, .param 1]]

def extending (t : Ty) : Declaration := ⟨"D", ⟨0, 1⟩, [⟨t, ⟨2, 3⟩⟩], []⟩

def faultOf (t : Ty) (path : List Nat) : CheckError := ⟨"D", .invalidBase t.display "T1" .typeParam path ⟨2, 3⟩⟩

theorem toDiagnostic_tells_paths :
    (extending wide).name = (extending deep).name ∧
    (∀ c ∈ (extending wide).bases, c.type.HasQuotableNames) ∧
    (∀ c ∈ (extending deep).bases, c.type.HasQuotableNames) ∧
    (extending wide).check = .error [faultOf wide [11]] ∧
    (extending deep).check = .error [faultOf deep [1, 1]] ∧
    (faultOf wide [11]).toDiagnostic ≠ (faultOf deep [1, 1]).toDiagnostic := by
  have hname : (extending wide).name = (extending deep).name := rfl
  have hwide : ∀ c ∈ (extending wide).bases, c.type.HasQuotableNames := by decide
  have hdeep : ∀ c ∈ (extending deep).bases, c.type.HasQuotableNames := by decide
  have hcheck : (extending wide).check = .error [faultOf wide [11]] :=
    check_eq_error_iff.2 ⟨by decide, by decide⟩
  have hcheck' : (extending deep).check = .error [faultOf deep [1, 1]] :=
    check_eq_error_iff.2 ⟨by decide, by decide⟩
  refine ⟨hname, hwide, hdeep, hcheck, hcheck', ?_⟩
  rw [Ne, toDiagnostic_tells_errors hname hwide hdeep hcheck hcheck' _ List.mem_cons_self _ List.mem_cons_self]
  decide

end Declaration

end InterfaceCheck
