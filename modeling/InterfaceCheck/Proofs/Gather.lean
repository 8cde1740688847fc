import InterfaceCheck.Base.Members
import InterfaceCheck.Proofs.Extendable
import InterfaceCheck.Proofs.Positions
import InterfaceCheck.Ty.Build

namespace InterfaceCheck.Ty

def ownMembers : Ty → List (Member Ty)
  | ⟨.object ms, _⟩ => ms
  | _ => []

/-- The objects that are reached through intersections, from left to right. -/
def objects (t : Ty) : List Ty := (t.walk (· != .intersection)).filter (·.kind == .object)

/-- Gathers members as `gather` does, but from a node that is neither an object nor an intersection it
takes what `other` says. -/
def gatherOr (other : Ty → List (Member Ty)) : Ty → List (Member Ty) := fold fun t below =>
  match below with
  | .object _ => t.ownMembers
  | .intersection found => found.flatten
  | _ => other t

theorem objects_of_object (ms : List (Member Ty)) (f : Flags) :
    objects ⟨.object ms, f⟩ = [⟨.object ms, f⟩] := by
  rw [objects, walk_eq]
  rfl

theorem objects_intersection (ts : List Ty) (f : Flags) :
    objects ⟨.intersection ts, f⟩ = ts.flatMap objects := by
  rw [objects, walk_eq, List.filter_cons_of_neg Bool.false_ne_true]
  exact List.filter_flatMap

theorem objects_of_ne {t : Ty} (ho : t.kind ≠ .object) (hi : t.kind ≠ .intersection) : t.objects = [] := by
  rw [objects, walk_eq, List.filter_cons_of_neg (by simpa using ho), if_pos (by simpa using hi)]
  rfl

theorem gatherOr_intersection (other : Ty → List (Member Ty)) (ts : List Ty) (f : Flags) :
    gatherOr other ⟨.intersection ts, f⟩ = ts.flatMap (gatherOr other) := by
  rw [gatherOr, fold_eq, List.flatMap_def]
  rfl

theorem gather_eq_flatMap_objects (t : Ty) : t.gather = t.objects.flatMap ownMembers := by
  induction t using ind with
  | step t ih =>
      rcases t with ⟨s, f⟩
      cases s with
      | object ms =>
          rw [objects_of_object, List.flatMap_singleton]
          rfl
      | intersection ts =>
          rw [objects_intersection, List.flatMap_assoc, gather, gatherAll_eq_flatMap]
          exact List.flatMap_congr ih
      | param | primitive | array | function | union =>
          rw [objects_of_ne (by rintro ⟨⟩) (by rintro ⟨⟩)]
          rfl

theorem gather_eq_gatherOr (t : Ty) : t.gather = t.gatherOr fun _ => [] := by
  induction t using ind with
  | step t ih =>
      rcases t with ⟨s, f⟩
      cases s with
      | intersection ts =>
          rw [gatherOr_intersection, gather, gatherAll_eq_flatMap]
          exact List.flatMap_congr ih
      | param | primitive | array | function | object | union => rfl

theorem gatherOr_eq_gather {t : Ty} (h : Extendable t) (other : Ty → List (Member Ty)) :
    t.gatherOr other = t.gather := by
  induction h with
  | object ms f => rfl
  | intersection ts f _ _ ih =>
      rw [gatherOr_intersection, gather, gatherAll_eq_flatMap]
      exact List.flatMap_congr ih

theorem partAt?_eq_walkAt? (t : Ty) (p : List Nat) : t.partAt? p = t.walkAt? (· != .intersection) p := by
  induction p generalizing t with
  | nil => rw [partAt?_nil, walkAt?]
  | cons i p ih =>
      rcases t with ⟨s, f⟩
      cases s with
      | intersection ts =>
          rw [partAt?_intersection]
          exact Option.bind_congr fun c _ => ih c
      | param | primitive | array | function | object | union => rfl

theorem exists_places_objects (t : Ty) :
    ∃ ps : List (List Nat × Ty), ps.Pairwise (fun x y => List.Lex (· < ·) x.1 y.1) ∧
      (∀ p u, (p, u) ∈ ps ↔ t.partAt? p = some u ∧ u.kind = .object) ∧ ps.map (·.2) = t.objects := by
  refine ⟨(t.places (· != .intersection)).filter (·.2.kind == .object), ?_, ?_, ?_⟩
  · exact (pairwise_places t).filter _
  · intro p u
    rw [List.mem_filter, mem_places_iff, partAt?_eq_walkAt?, beq_iff_eq]
  · rw [objects, ← map_snd_places, List.filter_map]
    rfl

theorem baseMembers_eq_ok_iff {t : Ty} {ms : List (Member Ty)} :
    t.baseMembers = .ok ms ↔ t.verdict = .accepted ∧ ms = t.gather := by
  rw [baseMembers]
  cases t.verdict <;> simp [Verdict.toExcept, Except.map, eq_comm]

theorem baseMembers_eq_error_iff {t : Ty} {r : Rejection} :
    t.baseMembers = .error r ↔ t.verdict = .rejected r := by
  rw [baseMembers]
  cases t.verdict <;> simp [Verdict.toExcept, Except.map]

theorem kind_of_partAt? {t u : Ty} {p : List Nat} (h : t.verdict = .accepted) (hp : t.partAt? p = some u) :
    u.kind = .object ∨ u.kind = .intersection := by
  cases verdict_eq_accepted_iff.1 (verdict_partAt? h hp) with
  | object => exact .inl rfl
  | intersection => exact .inr rfl

/-- A type gives its members exactly if it can be extended, and else the reason why it cannot. The
members are those of the objects in it from left to right, however the intersections around them are
nested, and no other node is met on the way to them. -/
theorem baseMembers_are_those_of_objects (t u : Ty) (ts : List Ty) :
    (∀ r, t.baseMembers = .error r ↔ t.verdict = .rejected r) ∧
    (∀ ms, t.baseMembers = .ok ms ↔ t.verdict = .accepted ∧ ms = t.objects.flatMap ownMembers) ∧
    (∃ ps : List (List Nat × Ty), ps.Pairwise (fun x y => List.Lex (· < ·) x.1 y.1) ∧
      (∀ p v, (p, v) ∈ ps ↔ t.partAt? p = some v ∧ v.kind = .object) ∧ ps.map (·.2) = t.objects) ∧
    (ts ≠ [] → (∀ c ∈ ts, c.verdict = .accepted) → ∃ mss : List (List (Member Ty)),
      ts.map baseMembers = mss.map .ok ∧ (intersection ts).baseMembers = .ok mss.flatten) ∧
    (t.verdict = .accepted → u.verdict = .accepted → t.objects = u.objects →
      t.baseMembers = u.baseMembers) ∧
    (t.gather = t.gatherOr fun _ => []) ∧
    (t.verdict = .accepted →
      (∀ p v, t.partAt? p = some v → v.kind = .object ∨ v.kind = .intersection) ∧
      ∀ other, t.gatherOr other = t.gather) := by
  refine ⟨fun r => baseMembers_eq_error_iff, ?_, exists_places_objects t, ?_, ?_, gather_eq_gatherOr t, ?_⟩
  · intro ms
    rw [baseMembers_eq_ok_iff, gather_eq_flatMap_objects]
  · intro hne hts
    refine ⟨ts.map gather, ?_, ?_⟩
    · rw [List.map_map]
      exact List.map_congr_left fun c hc => baseMembers_eq_ok_iff.2 ⟨hts c hc, rfl⟩
    · have hverdict : (intersection ts).verdict = .accepted :=
        (verdict_intersection hne).trans (partsVerdict_eq_accepted_iff.2 hts)
      have hgather : (intersection ts).gather = ts.flatMap gather := gatherAll_eq_flatMap ts
      rw [baseMembers_eq_ok_iff.2 ⟨hverdict, rfl⟩, hgather, List.flatMap_def]
  · intro ht hu hobjects
    rw [baseMembers_eq_ok_iff.2 ⟨ht, rfl⟩, baseMembers_eq_ok_iff.2 ⟨hu, rfl⟩, gather_eq_flatMap_objects,
      gather_eq_flatMap_objects, hobjects]
  · intro ht
    exact ⟨fun p v => kind_of_partAt? ht, gatherOr_eq_gather (verdict_eq_accepted_iff.1 ht)⟩

def stacked : Ty :=
  intersection [intersection [object [⟨"a", param 0⟩], object []], object [⟨"a", emptyObject⟩, ⟨"b", param 1⟩]]

def restacked : Ty :=
  intersection [object [⟨"a", param 0⟩], intersection [object [], object [⟨"a", emptyObject⟩, ⟨"b", param 1⟩]]]

theorem baseMembers_of_stacked :
    stacked.verdict = .accepted ∧ restacked.verdict = .accepted ∧ stacked ≠ restacked ∧
    stacked.baseMembers = restacked.baseMembers ∧
    stacked.baseMembers = .ok [⟨"a", param 0⟩, ⟨"a", emptyObject⟩, ⟨"b", param 1⟩] := by
  have hstacked : stacked.verdict = .accepted := by decide
  have hrestacked : restacked.verdict = .accepted := by decide
  obtain ⟨_, hmembers, _, _, hnesting, _, _⟩ := baseMembers_are_those_of_objects stacked restacked []
  refine ⟨hstacked, hrestacked, by decide, hnesting hstacked hrestacked (by decide), ?_⟩
  rw [hmembers]
  exact ⟨hstacked, by decide⟩

end InterfaceCheck.Ty
