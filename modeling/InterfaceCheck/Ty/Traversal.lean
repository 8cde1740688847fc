import InterfaceCheck.Ty.Basic

namespace InterfaceCheck.Ty

/-- Lists the type and what is below it. Nothing below a node is listed whose kind is a `stop`. -/
def walk (stop : Kind → Bool) : Ty → List Ty :=
  fold fun t below => t :: if stop t.kind then [] else below.children.flatten

def nodes : Ty → List Ty := walk fun _ => false

theorem walk_eq (stop : Kind → Bool) (t : Ty) :
    t.walk stop = t :: if stop t.kind then [] else t.children.flatMap (walk stop) := by
  rw [walk, fold_eq, Shape.children_map, List.flatMap_def]
  rfl

theorem nodes_eq (t : Ty) : t.nodes = t :: t.children.flatMap nodes := walk_eq _ t

theorem forall_mem_nodes {P : Ty → Prop} {t : Ty} :
    (∀ u ∈ t.nodes, P u) ↔ P t ∧ ∀ c ∈ t.children, ∀ u ∈ c.nodes, P u := by
  rw [nodes_eq, List.forall_mem_cons, List.forall_mem_flatMap]

theorem exists_mem_nodes {P : Ty → Prop} {t : Ty} :
    (∃ u ∈ t.nodes, P u) ↔ P t ∨ ∃ c ∈ t.children, ∃ u ∈ c.nodes, P u := by
  simp only [nodes_eq t, List.mem_cons, List.mem_flatMap, or_and_right, exists_or, exists_eq_left]
  apply or_congr Iff.rfl
  constructor
  · rintro ⟨u, ⟨c, hc, hu⟩, h⟩
    exact ⟨c, hc, u, hu, h⟩
  · rintro ⟨c, hc, u, hu, h⟩
    exact ⟨u, ⟨c, hc, hu⟩, h⟩

end InterfaceCheck.Ty
