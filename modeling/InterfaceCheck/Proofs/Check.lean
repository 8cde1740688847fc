import Mathlib.Data.List.Basic
import Mathlib.Data.List.Induction
import InterfaceCheck.Interface.Check
import InterfaceCheck.Proofs.Extendable

namespace InterfaceCheck

theorem filterMap_zipIdx_concat {α β : Type} (f : List α → α → Option β) (xs : List α) (x : α) :
    ((xs ++ [x]).zipIdx.filterMap fun (y, i) => f ((xs ++ [x]).take i) y) =
      (xs.zipIdx.filterMap fun (y, i) => f (xs.take i) y) ++ (f xs x).toList := by
  have hprefix : (xs.zipIdx.filterMap fun (y, i) => f ((xs ++ [x]).take i) y) =
      xs.zipIdx.filterMap fun (y, i) => f (xs.take i) y := by
    apply List.filterMap_congr
    rintro ⟨y, i⟩ hy
    have hlt := (List.mem_zipIdx' hy).1
    simp only [List.take_append_of_le_length (Nat.le_of_lt hlt)]
  rw [List.zipIdx_append, List.filterMap_append, hprefix]
  cases h : f xs x <;> simp [h]

def Clause.problem? (c : Clause) : Option Problem :=
  c.type.verdict.rejection?.map fun r =>
    .invalidBase c.type.display r.offending.display r.offence r.path c.span

/-- The members that a clause contributes, none if its type cannot be extended. -/
def Clause.members (c : Clause) : List (Member Ty) :=
  match c.type.baseMembers with
  | .ok ms => ms
  | .error _ => []

namespace Field

def member (f : Field) : Member Ty := ⟨f.name, f.type⟩

/-- The problem of a field whose name is taken by an earlier one: it refers to the first of these. -/
def repeat? (earlier : List Field) (f : Field) : Option Problem :=
  (earlier.find? (·.name == f.name)).map fun first => .duplicateMember f.name f.span first.span

def repeats (fs : List Field) : List Problem :=
  fs.zipIdx.filterMap fun (f, j) => f.repeat? (fs.take j)

theorem repeats_concat (fs : List Field) (f : Field) :
    repeats (fs ++ [f]) = repeats fs ++ (f.repeat? fs).toList :=
  filterMap_zipIdx_concat repeat? fs f

theorem repeat?_eq_none_iff {earlier : List Field} {f : Field} :
    f.repeat? earlier = none ↔ f.name ∉ earlier.map (·.name) := by
  rw [repeat?, Option.map_eq_none_iff, List.find?_eq_none]
  simp

theorem repeats_eq_nil_iff {fs : List Field} : repeats fs = [] ↔ (fs.map (·.name)).Nodup := by
  induction fs using List.reverseRecOn with
  | nil => simp [repeats]
  | append_singleton fs f ih =>
      rw [repeats_concat, List.append_eq_nil_iff, ih, List.map_append, List.map_singleton,
        List.nodup_append, Option.toList_eq_nil_iff, repeat?_eq_none_iff]
      simp

end Field

def Problem.isInvalidBase : Problem → Bool
  | invalidBase .. => true
  | duplicateMember .. => false

theorem Field.isInvalidBase_of_mem_repeats {fs : List Field} {p : Problem} (h : p ∈ repeats fs) :
    p.isInvalidBase = false := by
  obtain ⟨⟨f, j⟩, _, hp⟩ := List.mem_filterMap.1 h
  obtain ⟨first, _, rfl⟩ := Option.map_eq_some_iff.1 hp
  rfl

theorem Clause.isInvalidBase_of_problem? {c : Clause} {p : Problem} (h : c.problem? = some p) :
    p.isInvalidBase = true := by
  obtain ⟨r, _, rfl⟩ := Option.map_eq_some_iff.1 h
  rfl

theorem Clause.problem?_eq_none_iff {c : Clause} : c.problem? = none ↔ c.type.verdict = .accepted := by
  unfold problem?
  cases c.type.verdict <;> simp [Verdict.rejection?]

namespace Draft

theorem addBase_members (d : Draft) (c : Clause) :
    (d.addBase c).members = d.members.insertAll c.members := by
  unfold addBase Clause.members
  cases c.type.baseMembers <;> rfl

theorem addBase_declared (d : Draft) (c : Clause) : (d.addBase c).declared = d.declared := by
  unfold addBase
  cases c.type.baseMembers <;> rfl

theorem addBase_problems (d : Draft) (c : Clause) :
    (d.addBase c).problems = d.problems ++ c.problem?.toList := by
  unfold addBase Clause.problem? Ty.baseMembers
  cases c.type.verdict with
  | accepted => simp [Verdict.toExcept, Verdict.rejection?, Except.map]
  | rejected r => rfl

theorem foldl_addBase_members (d : Draft) (cs : List Clause) :
    (cs.foldl addBase d).members = d.members.insertAll (cs.flatMap Clause.members) := by
  induction cs generalizing d with
  | nil => rfl
  | cons c cs ih =>
      rw [List.foldl_cons, ih, addBase_members, List.flatMap_cons, MemberTable.insertAll_append]

theorem foldl_addBase_declared (d : Draft) (cs : List Clause) :
    (cs.foldl addBase d).declared = d.declared := by
  induction cs generalizing d with
  | nil => rfl
  | cons c cs ih => rw [List.foldl_cons, ih, addBase_declared]

theorem foldl_addBase_problems (d : Draft) (cs : List Clause) :
    (cs.foldl addBase d).problems = d.problems ++ cs.filterMap Clause.problem? := by
  induction cs generalizing d with
  | nil => simp
  | cons c cs ih =>
      rw [List.foldl_cons, ih, addBase_problems, List.append_assoc, List.filterMap_cons]
      cases c.problem? <;> rfl

/-- What a draft holds once the fields `done` are read into the draft `start`. -/
structure HasRead (start : Draft) (done : List Field) (d : Draft) : Prop where
  declared : ∀ n, d.declared[n]? = (done.find? (·.name == n)).map (·.span)
  problems : d.problems = start.problems ++ Field.repeats done
  members : Field.repeats done = [] → d.members = start.members.insertAll (done.map Field.member)

theorem HasRead.addField {start d : Draft} {done : List Field} (h : HasRead start done d) (f : Field) :
    HasRead start (done ++ [f]) (d.addField f) := by
  have hf : d.declared[f.name]? = (done.find? (·.name == f.name)).map (·.span) := h.declared f.name
  cases hfirst : done.find? (·.name == f.name) with
  | some first =>
      have hadd : d.addField f =
          { d with problems := d.problems ++ [.duplicateMember f.name f.span first.span] } := by
        rw [Draft.addField, hf, hfirst]
        rfl
      have hrepeat : f.repeat? done = some (.duplicateMember f.name f.span first.span) := by
        rw [Field.repeat?, hfirst]
        rfl
      rw [hadd]
      refine ⟨?_, ?_, ?_⟩
      · intro n
        rw [h.declared, List.find?_append]
        by_cases hn : f.name = n
        · subst hn
          rw [hfirst]
          rfl
        · simp [hn]
      · simp [h.problems, Field.repeats_concat, hrepeat]
      · intro hnone
        simp [Field.repeats_concat, hrepeat] at hnone
  | none =>
      have hadd : d.addField f =
          { d with
            members := d.members.insert f.member
            declared := d.declared.insert f.name f.span } := by
        rw [Draft.addField, hf, hfirst]
        rfl
      have hrepeat : f.repeat? done = none := by
        rw [Field.repeat?, hfirst]
        rfl
      rw [hadd]
      refine ⟨?_, ?_, ?_⟩
      · intro n
        rw [Std.HashMap.getElem?_insert, List.find?_append]
        by_cases hn : f.name = n
        · subst hn
          simp [hfirst]
        · simp [hn, h.declared]
      · simp [h.problems, Field.repeats_concat, hrepeat]
      · intro hnone
        rw [Field.repeats_concat, List.append_eq_nil_iff] at hnone
        rw [List.map_append, MemberTable.insertAll_append, ← h.members hnone.1]
        rfl

theorem HasRead.foldl_addField {start d : Draft} {done : List Field} (h : HasRead start done d)
    (fs : List Field) : HasRead start (done ++ fs) (fs.foldl Draft.addField d) := by
  induction fs generalizing done d with
  | nil => simpa using h
  | cons f fs ih => simpa using ih (h.addField f)

end Draft

namespace Declaration

def problems (d : Declaration) : List Problem :=
  d.bases.filterMap Clause.problem? ++ Field.repeats d.fields

/-- All members that a declaration names, inherited ones first, a repeated name every time. -/
def sequence (d : Declaration) : List (Member Ty) :=
  d.bases.flatMap Clause.members ++ d.fields.map Field.member

theorem hasRead_draft (d : Declaration) :
    Draft.HasRead (d.bases.foldl Draft.addBase .empty) d.fields d.draft := by
  have h : Draft.HasRead (d.bases.foldl Draft.addBase .empty) [] (d.bases.foldl Draft.addBase .empty) := by
    refine ⟨?_, ?_, fun _ => rfl⟩
    · intro n
      rw [Draft.foldl_addBase_declared]
      simp [Draft.empty]
    · simp [Field.repeats]
  exact h.foldl_addField d.fields

theorem draft_problems (d : Declaration) : d.draft.problems = d.problems := by
  rw [d.hasRead_draft.problems, Draft.foldl_addBase_problems, problems]
  rfl

theorem draft_members (d : Declaration) (h : d.problems = []) :
    d.draft.members.toList = Member.merge d.sequence := by
  have hrepeats : Field.repeats d.fields = [] := (List.append_eq_nil_iff.1 h).2
  rw [d.hasRead_draft.members hrepeats, Draft.foldl_addBase_members, ← MemberTable.insertAll_append,
    MemberTable.toList_insertAll]
  rfl

theorem check_eq (d : Declaration) :
    d.check = if d.problems = [] then .ok ⟨d.name, Member.merge d.sequence⟩
      else .error (d.problems.map (CheckError.mk d.name)) := by
  rw [check, draft_problems]
  by_cases h : d.problems = []
  · simp [h, d.draft_members h]
  · simp [h]

theorem check_eq_error_iff {d : Declaration} {es : List CheckError} :
    d.check = .error es ↔ d.problems ≠ [] ∧ es = d.problems.map (CheckError.mk d.name) := by
  rw [check_eq]
  by_cases h : d.problems = []
  · simp [h]
  · simp [h, eq_comm]

theorem mem_errors_iff {d : Declaration} {es : List CheckError} {e : CheckError} (h : d.check = .error es) :
    e ∈ es ↔ e.interface = d.name ∧ e.problem ∈ d.problems := by
  obtain ⟨_, rfl⟩ := check_eq_error_iff.1 h
  rcases e with ⟨i, p⟩
  simp [and_comm, eq_comm]

theorem check_eq_ok_iff {d : Declaration} {i : Interface} :
    d.check = .ok i ↔ d.problems = [] ∧ i = ⟨d.name, Member.merge d.sequence⟩ := by
  rw [check_eq]
  by_cases h : d.problems = []
  · simp [h, eq_comm]
  · simp [h]

theorem problems_eq_nil_iff {d : Declaration} :
    d.problems = [] ↔ (∀ c ∈ d.bases, c.type.verdict = .accepted) ∧ (d.fields.map (·.name)).Nodup := by
  simp only [problems, List.append_eq_nil_iff, List.filterMap_eq_nil_iff, Clause.problem?_eq_none_iff,
    Field.repeats_eq_nil_iff]

theorem hasValidBases_iff {d : Declaration} :
    d.hasValidBases = true ↔ ∀ c ∈ d.bases, c.type.verdict = .accepted := by
  simp only [hasValidBases, List.all_eq_true]
  apply forall₂_congr
  intro c _
  cases c.type.verdict <;> simp [Verdict.isAccepted]

theorem isInvalidBase_of_mem_filterMap {cs : List Clause} {p : Problem}
    (h : p ∈ cs.filterMap Clause.problem?) : p.isInvalidBase = true := by
  obtain ⟨c, _, hp⟩ := List.mem_filterMap.1 h
  exact Clause.isInvalidBase_of_problem? hp

theorem filter_isInvalidBase_problems (d : Declaration) :
    d.problems.filter (·.isInvalidBase) = d.bases.filterMap Clause.problem? := by
  have hrepeats : (Field.repeats d.fields).filter (·.isInvalidBase) = [] := by
    apply List.filter_eq_nil_iff.2
    intro p hp
    simp [Field.isInvalidBase_of_mem_repeats hp]
  rw [problems, List.filter_append, hrepeats, List.append_nil, List.filter_eq_self]
  exact fun p => isInvalidBase_of_mem_filterMap

theorem exists_clause_of_mem_errors {d : Declaration} {es : List CheckError} {e : CheckError}
    (hes : d.check = .error es) (he : e ∈ es) (hbase : e.problem.isInvalidBase = true) :
    ∃ c ∈ d.bases, c.problem? = some e.problem := by
  have hmem : e.problem ∈ d.problems.filter (·.isInvalidBase) :=
    List.mem_filter.2 ⟨((mem_errors_iff hes).1 he).2, hbase⟩
  rw [filter_isInvalidBase_problems] at hmem
  exact List.mem_filterMap.1 hmem

theorem filter_not_isInvalidBase_problems (d : Declaration) :
    d.problems.filter (!·.isInvalidBase) = Field.repeats d.fields := by
  have hbases : (d.bases.filterMap Clause.problem?).filter (!·.isInvalidBase) = [] := by
    apply List.filter_eq_nil_iff.2
    intro p hp
    simp [isInvalidBase_of_mem_filterMap hp]
  rw [problems, List.filter_append, hbases, List.nil_append, List.filter_eq_self]
  intro p hp
  simp [Field.isInvalidBase_of_mem_repeats hp]

theorem hasValidBases_iff_problems {d : Declaration} :
    d.hasValidBases = true ↔ ∀ p ∈ d.problems, p.isInvalidBase = false := by
  have hnone : (∀ p ∈ d.problems, p.isInvalidBase = false) ↔ d.problems.filter (·.isInvalidBase) = [] := by
    simp only [List.filter_eq_nil_iff, Bool.not_eq_true]
  rw [hasValidBases_iff, hnone, filter_isInvalidBase_problems, List.filterMap_eq_nil_iff]
  simp only [Clause.problem?_eq_none_iff]

/-- The check fails for a rejected clause or a repeated name and for nothing else, and it then reports
each of them once. -/
theorem check_reports_exactly (d : Declaration) :
    ((∃ es, d.check = .error es) ↔
      (∃ c ∈ d.bases, c.type.verdict ≠ .accepted) ∨ ¬ (d.fields.map (·.name)).Nodup) ∧
    (∀ es, d.check = .error es ↔ es ≠ [] ∧
      es = (d.bases.filterMap Clause.problem? ++ Field.repeats d.fields).map (CheckError.mk d.name)) ∧
    (d.hasValidBases = true ↔
      ∀ es, d.check = .error es → ∀ e ∈ es, e.problem.isInvalidBase = false) := by
  refine ⟨?_, ?_, ?_⟩
  · simp only [check_eq_error_iff, exists_and_left, exists_eq, and_true, ne_eq, problems_eq_nil_iff,
      not_and_or, not_forall, exists_prop]
  · intro es
    rw [check_eq_error_iff, problems]
    constructor
    · rintro ⟨hne, rfl⟩
      exact ⟨by simpa using hne, rfl⟩
    · rintro ⟨hne, rfl⟩
      exact ⟨by simpa using hne, rfl⟩
  · rw [hasValidBases_iff_problems]
    constructor
    · intro h es hes e he
      obtain ⟨_, rfl⟩ := check_eq_error_iff.1 hes
      obtain ⟨p, hp, rfl⟩ := List.mem_map.1 he
      exact h p hp
    · intro h p hp
      have hes : d.check = .error (d.problems.map (CheckError.mk d.name)) :=
        check_eq_error_iff.2 ⟨List.ne_nil_of_mem hp, rfl⟩
      exact h _ hes _ (List.mem_map_of_mem hp)

end Declaration

end InterfaceCheck
