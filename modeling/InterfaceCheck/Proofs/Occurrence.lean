import InterfaceCheck.Ty.Traversal

namespace InterfaceCheck

/-- The component of a node at an index. The result of a function comes after all its parameters. -/
inductive Shape.Component {α : Type} : Shape α → Nat → α → Prop
  | elem (e : α) : Component (.array e) 0 e
  | parameter {ps : List α} {i : Nat} {p : α} (h : ps[i]? = some p) (r : α) : Component (.function ps r) i p
  | result (ps : List α) (r : α) : Component (.function ps r) ps.length r
  | member {ms : List (Member α)} {i : Nat} {m : Member α} (h : ms[i]? = some m) :
      Component (.object ms) i m.type
  | alternative {ts : List α} {i : Nat} {t : α} (h : ts[i]? = some t) : Component (.union ts) i t
  | part {ts : List α} {i : Nat} {t : α} (h : ts[i]? = some t) : Component (.intersection ts) i t

theorem Shape.component_iff {α : Type} {s : Shape α} {i : Nat} {c : α} :
    s.Component i c ↔ s.children[i]? = some c := by
  constructor
  · intro h
    cases h with
    | elem => rfl
    | parameter h r => exact (List.getElem?_append_left (List.getElem?_eq_some_iff.1 h).1).trans h
    | result ps r => exact List.getElem?_concat_length
    | member h => rw [children, List.getElem?_map, h, Option.map_some]
    | alternative h | part h => exact h
  · intro h
    cases s with
    | param | primitive => cases h
    | array e =>
        obtain ⟨rfl, rfl⟩ : i = 0 ∧ e = c := by simpa [children, List.getElem?_singleton] using h
        exact .elem e
    | function ps r =>
        rw [children] at h
        rcases Nat.lt_trichotomy i ps.length with hi | rfl | hi
        · rw [List.getElem?_append_left hi] at h
          exact .parameter h r
        · rw [List.getElem?_concat_length] at h
          exact Option.some.inj h ▸ .result ps r
        · rw [List.getElem?_eq_none (by rw [List.length_append]; exact hi)] at h
          cases h
    | object ms =>
        rw [children, List.getElem?_map] at h
        obtain ⟨m, hm, rfl⟩ := Option.map_eq_some_iff.1 h
        exact .member hm
    | union ts => exact .alternative h
    | intersection ts => exact .part h

namespace Ty

/-- The type has a node at a position, which says at every node on the way which component comes next. -/
inductive HasAt : Ty → List Nat → Ty → Prop
  | root (t : Ty) : HasAt t [] t
  | inside {t c u : Ty} {i : Nat} {p : List Nat} (component : t.shape.Component i c) (rest : HasAt c p u) :
      HasAt t (i :: p) u

theorem hasAt_nil_iff {t u : Ty} : t.HasAt [] u ↔ t = u := by
  constructor
  · rintro ⟨⟩
    rfl
  · rintro rfl
    exact .root t

theorem hasAt_cons_iff {t u : Ty} {i : Nat} {p : List Nat} :
    t.HasAt (i :: p) u ↔ ∃ c, t.children[i]? = some c ∧ c.HasAt p u := by
  constructor
  · rintro (_ | ⟨component, rest⟩)
    exact ⟨_, Shape.component_iff.1 component, rest⟩
  · rintro ⟨c, hc, rest⟩
    exact .inside (Shape.component_iff.2 hc) rest

theorem mem_nodes_iff {t u : Ty} : u ∈ t.nodes ↔ ∃ p, t.HasAt p u := by
  induction t using ind with
  | step t ih =>
      rw [nodes_eq, List.mem_cons, List.mem_flatMap]
      constructor
      · rintro (rfl | ⟨c, hc, hu⟩)
        · exact ⟨[], .root u⟩
        · obtain ⟨i, hi⟩ := List.getElem?_of_mem hc
          obtain ⟨p, hp⟩ := (ih c hc).1 hu
          exact ⟨i :: p, hasAt_cons_iff.2 ⟨c, hi, hp⟩⟩
      · rintro ⟨p, hp⟩
        cases p with
        | nil => exact .inl (hasAt_nil_iff.1 hp).symm
        | cons i p =>
            obtain ⟨c, hc, hu⟩ := hasAt_cons_iff.1 hp
            have hc := List.mem_of_getElem? hc
            exact .inr ⟨c, hc, (ih c hc).2 ⟨p, hu⟩⟩

theorem exists_hasAt_iff {P : Ty → Prop} {t : Ty} :
    (∃ p u, t.HasAt p u ∧ P u) ↔ ∃ u ∈ t.nodes, P u := by
  constructor
  · rintro ⟨p, u, hp, hu⟩
    exact ⟨u, mem_nodes_iff.2 ⟨p, hp⟩, hu⟩
  · rintro ⟨u, hu, h⟩
    obtain ⟨p, hp⟩ := mem_nodes_iff.1 hu
    exact ⟨p, u, hp, h⟩

end Ty

end InterfaceCheck
