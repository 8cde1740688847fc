import Mathlib.Data.List.Basic
import InterfaceCheck.Ty.Traversal

namespace InterfaceCheck.Ty

/-- The node at a position, unless a node above it is a stop. -/
def walkAt? (stop : Kind → Bool) : Ty → List Nat → Option Ty
  | t, [] => some t
  | t, i :: p => if stop t.kind then none else t.children[i]?.bind fun c => c.walkAt? stop p

def places (stop : Kind → Bool) : Ty → List (List Nat × Ty) := fold fun t below =>
  ([], t) :: if stop t.kind then [] else
    below.children.zipIdx.flatMap fun (found, i) => found.map fun (p, u) => (i :: p, u)

variable {stop : Kind → Bool}

theorem places_of_stop {t : Ty} (h : stop t.kind = true) : t.places stop = [([], t)] := by
  rw [places, fold_eq, if_pos h]

theorem places_of_not_stop {t : Ty} (h : ¬ stop t.kind = true) : t.places stop =
    ([], t) :: t.children.zipIdx.flatMap fun (c, i) => (c.places stop).map fun (p, u) => (i :: p, u) := by
  rw [places, fold_eq, if_neg h, Shape.children_map, List.zipIdx_map, List.flatMap_map]
  rfl

theorem map_snd_places (t : Ty) : (t.places stop).map (·.2) = t.walk stop := by
  induction t using ind with
  | step t ih =>
      rw [walk_eq]
      by_cases hs : stop t.kind = true
      · rw [places_of_stop hs, if_pos hs]
        rfl
      · have hchild : ∀ x ∈ t.children.zipIdx,
            (((x.1.places stop).map fun (p, u) => (x.2 :: p, u)).map (·.2)) = x.1.walk stop := by
          intro x hx
          rw [List.map_map, ← ih x.1 (List.fst_mem_of_mem_zipIdx hx)]
          rfl
        have hchildren : t.children.zipIdx.flatMap (fun x => x.1.walk stop) = t.children.flatMap (walk stop) := by
          rw [← List.flatMap_map Prod.fst (walk stop), List.zipIdx_map_fst]
        rw [places_of_not_stop hs, if_neg hs, List.map_cons, List.map_flatMap, List.flatMap_congr hchild,
          hchildren]

theorem mem_places_iff {t u : Ty} {p : List Nat} : (p, u) ∈ t.places stop ↔ t.walkAt? stop p = some u := by
  induction p generalizing t with
  | nil =>
      rw [walkAt?, Option.some.injEq, eq_comm]
      by_cases hs : stop t.kind = true
      · simp [places_of_stop hs]
      · simp [places_of_not_stop hs]
  | cons i p ih =>
      rw [walkAt?]
      by_cases hs : stop t.kind = true
      · simp [places_of_stop hs, hs]
      · simp [places_of_not_stop hs, hs, ih, List.mem_zipIdx_iff_getElem?, Option.bind_eq_some_iff]

theorem pairwise_snd_zipIdx {α : Type} (xs : List α) : xs.zipIdx.Pairwise fun x y => x.2 < y.2 := by
  have h : (xs.zipIdx.map Prod.snd).Pairwise (· < ·) := by
    rw [List.zipIdx_map_snd]
    exact List.pairwise_lt_range'
  exact List.pairwise_map.1 h

theorem pairwise_places (t : Ty) : (t.places stop).Pairwise fun x y => List.Lex (· < ·) x.1 y.1 := by
  induction t using ind with
  | step t ih =>
      by_cases hs : stop t.kind = true
      · rw [places_of_stop hs]
        exact List.pairwise_singleton ..
      · rw [places_of_not_stop hs, List.pairwise_cons, List.pairwise_flatMap]
        refine ⟨?_, ?_, ?_⟩
        · intro x hx
          obtain ⟨⟨c, i⟩, _, hx⟩ := List.mem_flatMap.1 hx
          obtain ⟨y, _, rfl⟩ := List.mem_map.1 hx
          exact .nil
        · rintro ⟨c, i⟩ hc
          rw [List.pairwise_map]
          exact (ih c (List.fst_mem_of_mem_zipIdx hc)).imp fun h => .cons h
        · apply (pairwise_snd_zipIdx t.children).imp
          intro x y hxy a ha b hb
          obtain ⟨a, _, rfl⟩ := List.mem_map.1 ha
          obtain ⟨b, _, rfl⟩ := List.mem_map.1 hb
          exact .rel hxy

end InterfaceCheck.Ty
