import InterfaceCheck.Ty.Traversal

namespace InterfaceCheck.Ty

/-- Every node carries the flags that belong to its shape. -/
def Interned (t : Ty) : Prop := ∀ u ∈ t.nodes, u.flags = u.shape.flags

instance (t : Ty) : Decidable t.Interned :=
  inferInstanceAs (Decidable (∀ u ∈ t.nodes, u.flags = u.shape.flags))

theorem interned_iff {t : Ty} :
    t.Interned ↔ t.flags = t.shape.flags ∧ ∀ c ∈ t.children, c.Interned :=
  forall_mem_nodes

theorem Interned.children {t c : Ty} (h : t.Interned) (hc : c ∈ t.children) : c.Interned :=
  (interned_iff.1 h).2 c hc

theorem Interned.of_mem_nodes {t u : Ty} (h : t.Interned) (hu : u ∈ t.nodes) : u.Interned := by
  induction t using ind with
  | step t ih =>
      rw [nodes_eq, List.mem_cons, List.mem_flatMap] at hu
      rcases hu with rfl | ⟨c, hc, hu⟩
      · exact h
      · exact ih c hc (h.children hc) hu

theorem Interned.eq_intern {t : Ty} (h : t.Interned) : t = intern t.shape := by
  rw [intern, ← (interned_iff.1 h).1, mk_shape_flags]

theorem interned_intern_iff {s : Shape Ty} : (intern s).Interned ↔ ∀ c ∈ s.children, c.Interned := by
  rw [interned_iff, flags_intern, shape_intern]
  exact and_iff_right rfl

end InterfaceCheck.Ty
