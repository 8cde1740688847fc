import Mathlib.Data.List.Nodup
import InterfaceCheck.Ty.Build

namespace InterfaceCheck.Ty

/-- The alternatives of a type, those of nested unions in their places. A type that is no union is its
own only alternative. -/
def alternatives : Ty → List Ty := fold fun t below =>
  match below with
  | .union found => found.flatten
  | _ => [t]

theorem alternatives_union (ts : List Ty) (f : Flags) :
    alternatives ⟨.union ts, f⟩ = ts.flatMap alternatives := by
  rw [alternatives, fold_eq, List.flatMap_def]
  rfl

theorem alternatives_of_ne {t : Ty} (h : t.kind ≠ .union) : t.alternatives = [t] := by
  rw [alternatives, fold_eq]
  rcases t with ⟨s, f⟩
  cases s with
  | union ts => exact absurd rfl h
  | param | primitive | array | function | object | intersection => rfl

theorem union_ind {P : Ty → Prop} (other : ∀ t : Ty, t.kind ≠ .union → P t)
    (union : ∀ ts f, (∀ t ∈ ts, P t) → P ⟨.union ts, f⟩) (t : Ty) : P t := by
  induction t using ind with
  | step t ih =>
      rcases t with ⟨s, f⟩
      cases s with
      | union ts => exact union ts f ih
      | param | primitive | array | function | object | intersection => exact other _ (by rintro ⟨⟩)

theorem flatMap_alternatives {ts : List Ty} (h : ∀ t ∈ ts, t.kind ≠ .union) :
    ts.flatMap alternatives = ts := by
  induction ts with
  | nil => rfl
  | cons t ts ih =>
      rw [List.forall_mem_cons] at h
      rw [List.flatMap_cons, alternatives_of_ne h.1, ih h.2, List.singleton_append]

theorem forall_mem_alternatives {P : Ty → Prop} (hP : ∀ ts f, P ⟨.union ts, f⟩ → ∀ t ∈ ts, P t) {t : Ty}
    (h : P t) : ∀ u ∈ t.alternatives, u.kind ≠ .union ∧ P u := by
  induction t using union_ind with
  | other t hk =>
      rw [alternatives_of_ne hk, List.forall_mem_singleton]
      exact ⟨hk, h⟩
  | union ts f ih =>
      rw [alternatives_union, List.forall_mem_flatMap]
      intro t ht
      exact ih t ht (hP ts f h t ht)

def addDistinct (found : List Ty) (t : Ty) : List Ty := if found.any (same · t) then found else found ++ [t]

theorem any_same_iff {found : List Ty} {t : Ty} : found.any (same · t) = true ↔ t ∈ found := by
  simp [List.any_eq_true, same_iff]

theorem addDistinct_of_mem {found : List Ty} {t : Ty} (h : t ∈ found) : addDistinct found t = found :=
  if_pos (any_same_iff.2 h)

theorem addDistinct_of_notMem {found : List Ty} {t : Ty} (h : t ∉ found) : addDistinct found t = found ++ [t] :=
  if_neg (mt any_same_iff.1 h)

theorem mem_addDistinct {found : List Ty} {t u : Ty} : u ∈ addDistinct found t ↔ u ∈ found ∨ u = t := by
  by_cases h : t ∈ found
  · rw [addDistinct_of_mem h]
    constructor
    · exact .inl
    · rintro (hu | rfl)
      · exact hu
      · exact h
  · rw [addDistinct_of_notMem h, List.mem_append, List.mem_singleton]

theorem nodup_addDistinct {found : List Ty} (h : found.Nodup) (t : Ty) :
    (addDistinct found t).Nodup := by
  by_cases ht : t ∈ found
  · rwa [addDistinct_of_mem ht]
  · rw [addDistinct_of_notMem ht, ← List.concat_eq_append]
    exact h.concat ht

theorem mem_foldl_addDistinct {found ts : List Ty} {u : Ty} :
    u ∈ ts.foldl addDistinct found ↔ u ∈ found ∨ u ∈ ts := by
  induction ts generalizing found with
  | nil => simp
  | cons t ts ih => rw [List.foldl_cons, ih, mem_addDistinct, List.mem_cons, or_assoc]

theorem nodup_foldl_addDistinct {found : List Ty} (h : found.Nodup) (ts : List Ty) :
    (ts.foldl addDistinct found).Nodup := by
  induction ts generalizing found with
  | nil => exact h
  | cons t ts ih => exact ih (nodup_addDistinct h t)

theorem foldl_addDistinct_of_nodup {found ts : List Ty} (h : (found ++ ts).Nodup) :
    ts.foldl addDistinct found = found ++ ts := by
  induction ts generalizing found with
  | nil => rw [List.foldl_nil, List.append_nil]
  | cons t ts ih =>
      have ht : t ∉ found := by
        intro ht
        exact (List.nodup_append.1 h).2.2 t ht t List.mem_cons_self rfl
      rw [List.append_cons] at h
      rw [List.foldl_cons, addDistinct_of_notMem ht, ih h, ← List.append_cons]

-- The list is treated first, given its items, because a union among the items has such a list itself.
theorem addAlternatives_eq_of_forall {ts : List Ty}
    (h : ∀ t ∈ ts, ∀ found, addAlternative found t = t.alternatives.foldl addDistinct found)
    (found : List Ty) : addAlternatives found ts = (ts.flatMap alternatives).foldl addDistinct found := by
  induction ts generalizing found with
  | nil => rfl
  | cons t ts ih =>
      rw [List.forall_mem_cons] at h
      rw [addAlternatives, h.1, ih h.2, List.flatMap_cons, List.foldl_append]

theorem addAlternative_eq (found : List Ty) (t : Ty) :
    addAlternative found t = t.alternatives.foldl addDistinct found := by
  induction t using union_ind generalizing found with
  | other t hk =>
      rw [alternatives_of_ne hk, addAlternative_of_ne hk]
      rfl
  | union ts f ih =>
      rw [alternatives_union]
      exact addAlternatives_eq_of_forall ih found

theorem addAlternatives_eq (found ts : List Ty) :
    addAlternatives found ts = (ts.flatMap alternatives).foldl addDistinct found :=
  addAlternatives_eq_of_forall (fun t _ found => addAlternative_eq found t) found

theorem forall_mem_addAlternatives {P : Ty → Prop} (hP : ∀ ts f, P ⟨.union ts, f⟩ → ∀ t ∈ ts, P t)
    {ts : List Ty} (h : ∀ t ∈ ts, P t) : ∀ u ∈ addAlternatives [] ts, u.kind ≠ .union ∧ P u := by
  intro u hu
  rw [addAlternatives_eq, mem_foldl_addDistinct, List.mem_flatMap] at hu
  obtain ⟨t, ht, hu⟩ := hu.resolve_left List.not_mem_nil
  exact forall_mem_alternatives hP (h t ht) u hu

theorem nodup_addAlternatives (ts : List Ty) : (addAlternatives [] ts).Nodup := by
  rw [addAlternatives_eq]
  exact nodup_foldl_addDistinct List.nodup_nil _

theorem addAlternatives_of_nodup {ts : List Ty} (hk : ∀ t ∈ ts, t.kind ≠ .union) (h : ts.Nodup) :
    addAlternatives [] ts = ts := by
  rw [addAlternatives_eq, flatMap_alternatives hk]
  exact foldl_addDistinct_of_nodup h

theorem union_cases {P : Ty → Prop} {ts : List Ty} (none : P (primitive .never))
    (one : ∀ t, addAlternatives [] ts = [t] → P t)
    (more : 2 ≤ (addAlternatives [] ts).length → P (intern (.union (addAlternatives [] ts)))) :
    P (union ts) := by
  unfold union
  generalize addAlternatives [] ts = found at one more ⊢
  match found with
  | [] => exact none
  | [t] => exact one t rfl
  | _ :: _ :: _ => exact more (by simp)

theorem union_of_two_le {ts : List Ty} (h : 2 ≤ (addAlternatives [] ts).length) :
    union ts = intern (.union (addAlternatives [] ts)) := by
  unfold union
  generalize addAlternatives [] ts = found at h ⊢
  match found with
  | [] | [_] => simp at h
  | _ :: _ :: _ => rfl

end InterfaceCheck.Ty
