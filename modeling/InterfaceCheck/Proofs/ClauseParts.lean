import InterfaceCheck.Proofs.Gather
import InterfaceCheck.Proofs.Inheritance

namespace InterfaceCheck

namespace Clause

variable {c : Clause} {ts : List Ty}

def split (c : Clause) (ts : List Ty) : List Clause := ts.map fun t => { c with type := t }

theorem problem?_eq_some_iff {p : Problem} : c.problem? = some p ↔ ∃ r, c.type.verdict = .rejected r ∧
    .invalidBase c.type.display r.offending.display r.offence r.path c.span = p := by
  rw [problem?, Option.map_eq_some_iff]
  cases c.type.verdict <;> simp [Verdict.rejection?]

theorem members_eq_gather (h : c.type.verdict = .accepted) : c.members = c.type.gather :=
  (Ty.baseMembers_eq_ok_iff.1 (baseMembers_eq h)).2

theorem problems_split (h : ∀ t ∈ ts, t.verdict = .accepted) : (c.split ts).filterMap problem? = [] := by
  rw [split, List.filterMap_map, List.filterMap_eq_nil_iff]
  exact fun t ht => problem?_eq_none_iff.2 (h t ht)

theorem members_split (h : ∀ t ∈ ts, t.verdict = .accepted) :
    (c.split ts).flatMap members = ts.flatMap Ty.gather := by
  rw [split, List.flatMap_map]
  exact List.flatMap_congr fun t ht => members_eq_gather (h t ht)

theorem problems_split_of_getElem? {k : Nat} {t : Ty} {r : Rejection} (hk : ts[k]? = some t)
    (hleft : ∀ u ∈ ts.take k, u.verdict = .accepted) (ht : t.verdict = .rejected r) :
    (c.split ts).filterMap problem? =
      .invalidBase t.display r.offending.display r.offence r.path c.span ::
        (c.split (ts.drop (k + 1))).filterMap problem? := by
  have hts : ts = ts.take k ++ t :: ts.drop (k + 1) := by
    obtain ⟨hlt, rfl⟩ := List.getElem?_eq_some_iff.1 hk
    rw [← List.drop_eq_getElem_cons hlt, List.take_append_drop]
  have hproblem : problem? { c with type := t } =
      some (.invalidBase t.display r.offending.display r.offence r.path c.span) :=
    problem?_eq_some_iff.2 ⟨r, ht, rfl⟩
  calc (c.split ts).filterMap problem?
      = (c.split (ts.take k ++ t :: ts.drop (k + 1))).filterMap problem? := by rw [← hts]
    _ = (c.split (ts.take k)).filterMap problem? ++ (c.split (t :: ts.drop (k + 1))).filterMap problem? := by
        rw [split, List.map_append, List.filterMap_append]
        rfl
    _ = (c.split (t :: ts.drop (k + 1))).filterMap problem? := by
        rw [problems_split hleft, List.nil_append]
    _ = _ := List.filterMap_cons_some hproblem

theorem exists_problems_split {f : Flags} {base offending : String} {offence : Offence} {path : List Nat}
    {span : Span} (hc : c.type = ⟨.intersection ts, f⟩) (hne : ts ≠ [])
    (h : c.problem? = some (.invalidBase base offending offence path span)) :
    ∃ k rest t later, path = k :: rest ∧ ts[k]? = some t ∧
      (c.split ts).filterMap problem? = .invalidBase t.display offending offence rest span :: later := by
  obtain ⟨r, hr, heq⟩ := problem?_eq_some_iff.1 h
  cases heq
  rw [hc, Ty.verdict_intersection hne] at hr
  obtain ⟨k, t, r, hk, hleft, ht, rfl⟩ := Ty.exists_of_partsVerdict_eq_rejected hr
  exact ⟨0 + k, r.path, t, _, rfl, by rwa [Nat.zero_add], problems_split_of_getElem? hk hleft ht⟩

end Clause

namespace Declaration

/-- The errors of a declaration, if `found` is what is wrong with the clauses between `pre` and `post`. -/
def errorsAround (d : Declaration) (pre post : List Clause) (found : List Problem) : List CheckError :=
  (pre.filterMap Clause.problem? ++ found ++ post.filterMap Clause.problem? ++ Field.repeats d.fields).map
    (CheckError.mk d.name)

theorem check_eq_error_of_problems {d : Declaration} {pre cs post : List Clause} {found : List Problem}
    (hd : d.bases = pre ++ cs ++ post) (hcs : cs.filterMap Clause.problem? = found) (hne : found ≠ []) :
    d.check = .error (d.errorsAround pre post found) := by
  have hproblems : d.problems = pre.filterMap Clause.problem? ++ found ++
      post.filterMap Clause.problem? ++ Field.repeats d.fields := by
    rw [problems, hd, List.filterMap_append, List.filterMap_append, hcs]
  rw [check_eq_error_iff, hproblems]
  exact ⟨by simp [hne], rfl⟩

theorem check_split_of_accepted {d : Declaration} {c : Clause} {pre post : List Clause} {ts : List Ty}
    {f : Flags} (hd : d.bases = pre ++ c :: post) (hc : c.type = ⟨.intersection ts, f⟩)
    (h : ∀ t ∈ ts, t.verdict = .accepted) (hne : ts ≠ []) :
    { d with bases := pre ++ c.split ts ++ post }.check = d.check := by
  have hverdict : c.type.verdict = .accepted := by
    rw [hc]
    exact (Ty.verdict_intersection_eq_accepted_iff hne).2 h
  have hmembers : (c.split ts).flatMap Clause.members = c.members := by
    rw [Clause.members_split h, Clause.members_eq_gather hverdict, hc]
    exact (Ty.gatherAll_eq_flatMap ts).symm
  apply check_exchange hd
  · rw [Clause.problems_split h, Clause.problem?_eq_none_iff.2 hverdict, Option.toList_none]
  · rw [hmembers]

/-- To extend an intersection is to extend its parts, each by a clause of its own. If the intersection is
rejected, then the first problem with the clauses of its parts is the problem that it has itself, seen
from the part. -/
theorem check_splits_intersection {d : Declaration} {c : Clause} {pre post : List Clause} {ts : List Ty}
    {f : Flags} (hd : d.bases = pre ++ c :: post) (hc : c.type = ⟨.intersection ts, f⟩) (hne : ts ≠ []) :
    (∀ i, d.check = .ok i ↔ { d with bases := pre ++ c.split ts ++ post }.check = .ok i) ∧
    ∀ base offending offence path span, c.problem? = some (.invalidBase base offending offence path span) →
      ∃ k rest t later, path = k :: rest ∧ ts[k]? = some t ∧
        (c.split ts).filterMap Clause.problem? = .invalidBase t.display offending offence rest span :: later ∧
        d.check = .error (d.errorsAround pre post [.invalidBase base offending offence path span]) ∧
        { d with bases := pre ++ c.split ts ++ post }.check = .error (d.errorsAround pre post
          (.invalidBase t.display offending offence rest span :: later)) := by
  have hbases : d.bases = pre ++ [c] ++ post := by rw [hd, List.append_assoc, List.singleton_append]
  constructor
  · intro i
    cases hp : c.problem? with
    | none =>
        have hv := Clause.problem?_eq_none_iff.1 hp
        rw [hc, Ty.verdict_intersection_eq_accepted_iff hne] at hv
        rw [check_split_of_accepted hd hc hv hne]
    | some p =>
        obtain ⟨r, _, rfl⟩ := Clause.problem?_eq_some_iff.1 hp
        obtain ⟨_, _, _, _, _, _, hsplit⟩ := Clause.exists_problems_split hc hne hp
        rw [check_eq_error_of_problems hbases (List.filterMap_cons_some hp) (List.cons_ne_nil _ _),
          check_eq_error_of_problems rfl hsplit (List.cons_ne_nil _ _)]
        simp
  · intro base offending offence path span hp
    obtain ⟨k, rest, t, later, hpath, ht, hsplit⟩ := Clause.exists_problems_split hc hne hp
    exact ⟨k, rest, t, later, hpath, ht, hsplit,
      check_eq_error_of_problems hbases (List.filterMap_cons_some hp) (List.cons_ne_nil _ _),
      check_eq_error_of_problems rfl hsplit (List.cons_ne_nil _ _)⟩

def strands : List Ty := [.emptyObject, .intersection [.emptyObject, .intersection []], .param 0]

def bundle : Clause := ⟨.intersection strands, ⟨4, 5⟩⟩

def braid : Declaration where
  name := "D"
  span := ⟨0, 1⟩
  bases := [⟨.primitive .any, ⟨2, 3⟩⟩, bundle, ⟨.emptyObject, ⟨6, 7⟩⟩]
  fields := []

def unbraided : Declaration :=
  { braid with bases := braid.bases.take 1 ++ bundle.split strands ++ braid.bases.drop 2 }

theorem check_splits_braid :
    braid.bases = braid.bases.take 1 ++ bundle :: braid.bases.drop 2 ∧ strands ≠ [] ∧
    bundle.problem? = some (.invalidBase "\x7b\x7d & (\x7b\x7d & (empty intersection)) & T0"
      "(empty intersection)" .emptyIntersection [1, 1] ⟨4, 5⟩) ∧
    ∃ t later, strands[1]? = some t ∧
      unbraided.check = .error (braid.errorsAround (braid.bases.take 1) (braid.bases.drop 2)
        (.invalidBase t.display "(empty intersection)" .emptyIntersection [1] ⟨4, 5⟩ :: later)) := by
  have hbases : braid.bases = braid.bases.take 1 ++ bundle :: braid.bases.drop 2 := rfl
  have hne : strands ≠ [] := List.cons_ne_nil _ _
  have hproblem : bundle.problem? = some (.invalidBase "\x7b\x7d & (\x7b\x7d & (empty intersection)) & T0"
      "(empty intersection)" .emptyIntersection [1, 1] ⟨4, 5⟩) := by decide
  obtain ⟨_, hrejected⟩ := check_splits_intersection hbases rfl hne
  obtain ⟨k, rest, t, later, hpath, ht, _, _, hcheck⟩ := hrejected _ _ _ _ _ hproblem
  cases hpath
  exact ⟨hbases, hne, hproblem, t, later, ht, hcheck⟩

end Declaration

end InterfaceCheck
