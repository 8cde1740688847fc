import Mathlib.Data.List.Sort
import InterfaceCheck.Proofs.Occurrence
import InterfaceCheck.Proofs.Positions
import InterfaceCheck.Ty.Build

namespace InterfaceCheck.Ty

/-- A position below a node whose kind is a `stop`. The node itself is not below it. -/
def Below (stop : Kind → Bool) (t : Ty) (p : List Nat) : Prop :=
  ∃ q v, q <+: p ∧ q ≠ p ∧ t.HasAt q v ∧ stop v.kind = true

/-- A walk that takes its list along: it adds each node on arrival, and hands the list on from component
to component unless the node is a `stop`. -/
def record (stop : Kind → Bool) : Ty → List Ty → List Ty := fold fun t below seen =>
  if stop t.kind then seen ++ [t] else below.children.foldl (fun seen visit => visit seen) (seen ++ [t])

variable {stop : Kind → Bool}

theorem not_below_nil (t : Ty) : ¬ t.Below stop [] := by
  rintro ⟨q, v, hq, hne, _⟩
  exact hne (List.prefix_nil.1 hq)

theorem below_cons {t : Ty} {i : Nat} {p : List Nat} : t.Below stop (i :: p) ↔
    stop t.kind = true ∨ ∃ c, t.children[i]? = some c ∧ c.Below stop p := by
  constructor
  · rintro ⟨q, v, hq, hne, hv, hs⟩
    cases q with
    | nil =>
        exact .inl (hasAt_nil_iff.1 hv ▸ hs)
    | cons j q =>
        obtain ⟨rfl, hqp⟩ := List.cons_prefix_cons.1 hq
        obtain ⟨c, hc, hv⟩ := hasAt_cons_iff.1 hv
        exact .inr ⟨c, hc, q, v, hqp, fun h => hne (congrArg (j :: ·) h), hv, hs⟩
  · rintro (hs | ⟨c, hc, q, v, hq, hne, hv, hs⟩)
    · exact ⟨[], t, List.nil_prefix, (List.cons_ne_nil i p).symm, .root t, hs⟩
    · have hv' : t.HasAt (i :: q) v := hasAt_cons_iff.2 ⟨c, hc, hv⟩
      exact ⟨i :: q, v, List.cons_prefix_cons.2 ⟨rfl, hq⟩, fun h => hne (List.cons.inj h).2, hv', hs⟩

instance decidableBelow (stop : Kind → Bool) : ∀ (t : Ty) (p : List Nat), Decidable (t.Below stop p)
  | t, [] => .isFalse t.not_below_nil
  | t, i :: p =>
    have := fun c => decidableBelow stop c p
    decidable_of_iff (stop t.kind = true ∨ ∃ c ∈ t.children[i]?, c.Below stop p) below_cons.symm

theorem walkAt?_eq_some_iff {t u : Ty} {p : List Nat} :
    t.walkAt? stop p = some u ↔ t.HasAt p u ∧ ¬ t.Below stop p := by
  induction p generalizing t with
  | nil => simp [walkAt?, hasAt_nil_iff, not_below_nil]
  | cons i p ih =>
      rw [walkAt?, hasAt_cons_iff, below_cons]
      by_cases hs : stop t.kind = true
      · simp [hs]
      · cases hc : t.children[i]? with
        | none => simp [hs]
        | some c => simp [hs, ih]

theorem record_eq (t : Ty) (seen : List Ty) : t.record stop seen =
    if stop t.kind then seen ++ [t] else t.children.foldl (fun seen c => c.record stop seen) (seen ++ [t]) := by
  rw [record, fold_eq, Shape.children_map, List.foldl_map]
  rfl

theorem record_eq_append_walk (t : Ty) (seen : List Ty) : t.record stop seen = seen ++ t.walk stop := by
  induction t using ind generalizing seen with
  | step t ih =>
      rw [record_eq, walk_eq]
      by_cases hs : stop t.kind = true
      · rw [if_pos hs, if_pos hs]
      · have hchildren : t.children.foldl (fun seen c => c.record stop seen) (seen ++ [t]) =
            t.children.foldl (fun seen c => seen ++ c.walk stop) (seen ++ [t]) :=
          List.foldl_ext _ _ _ fun seen c hc => ih c hc seen
        rw [if_neg hs, if_neg hs, hchildren, List.foldl_append_eq_append, List.append_assoc,
          List.singleton_append, List.flatMap_def]

theorem mem_places_iff_hasAt {t u : Ty} {p : List Nat} :
    (p, u) ∈ t.places stop ↔ t.HasAt p u ∧ ¬ t.Below stop p := by
  rw [mem_places_iff, walkAt?_eq_some_iff]

theorem not_below_of_no_stop (t : Ty) (p : List Nat) : ¬ t.Below (fun _ => false) p := by
  rintro ⟨_, _, _, _, _, hs⟩
  exact Bool.false_ne_true hs

theorem places_eq_filter (t : Ty) :
    t.places stop = (t.places fun _ => false).filter fun x => ¬ t.Below stop x.1 := by
  have hirrefl : Std.Irrefl fun x y : List Nat × Ty => List.Lex (· < ·) x.1 y.1 :=
    ⟨fun x => List.lex_irrefl Nat.lt_irrefl x.1⟩
  have hantisymm : Std.Antisymm fun x y : List Nat × Ty => List.Lex (· < ·) x.1 y.1 :=
    ⟨fun x y hxy hyx => absurd hyx (List.lex_asymm Nat.lt_asymm hxy)⟩
  -- Both lists are in the strict order of the positions, so that it is enough to compare their items.
  apply (pairwise_places t).eq_of_mem_iff ((pairwise_places t).filter _)
  rintro ⟨p, u⟩
  rw [List.mem_filter, mem_places_iff_hasAt, mem_places_iff_hasAt, decide_eq_true_iff]
  exact and_congr_left fun _ => (and_iff_left (not_below_of_no_stop t p)).symm

/-- A walk lists the nodes at all positions that are not below a stop, each position once and in the order
of the positions: what is left of a walk through all of the type when the nodes below stops are taken
out of it. -/
theorem walk_leaves_out_below (stop : Kind → Bool) (t : Ty) :
    (∀ seen, t.record stop seen = seen ++ t.walk stop) ∧
    ∃ all : List (List Nat × Ty),
      all.Pairwise (fun x y => List.Lex (· < ·) x.1 y.1) ∧
      (∀ p u, (p, u) ∈ all ↔ t.HasAt p u) ∧
      all.map (·.2) = t.nodes ∧
      (all.filter fun x => ¬ t.Below stop x.1).map (·.2) = t.walk stop := by
  refine ⟨record_eq_append_walk t, t.places fun _ => false, pairwise_places t, ?_, map_snd_places t, ?_⟩
  · intro p u
    rw [mem_places_iff_hasAt, and_iff_left (not_below_of_no_stop t p)]
  · rw [← places_eq_filter, map_snd_places]

example : (function [array (param 0), param 1] (array (param 2))).walk (· == .array) =
    [function [array (param 0), param 1] (array (param 2)), array (param 0), param 1, array (param 2)] := by
  decide

end InterfaceCheck.Ty
