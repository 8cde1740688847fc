import InterfaceCheck.Proofs.Alternatives
import InterfaceCheck.Proofs.Merge
import InterfaceCheck.Ty.Traversal

namespace InterfaceCheck

namespace Shape

def build : Shape Ty → Ty
  | param n => Ty.param n
  | primitive p => Ty.primitive p
  | array e => Ty.array e
  | function ps r => Ty.function ps r
  | object ms => Ty.object ms
  | union ts => Ty.union ts
  | intersection ts => Ty.intersection ts

/-- A union has two alternatives or more, no union among them and no two of them equal, and an object
has no two members of one name. -/
def Normal : Shape Ty → Prop
  | union ts => 2 ≤ ts.length ∧ (∀ t ∈ ts, t.kind ≠ .union) ∧ ts.Pairwise fun t u => Ty.same t u = false
  | object ms => (ms.map (·.name)).Nodup
  | param _ | primitive _ | array _ | function _ _ | intersection _ => True

instance (s : Shape Ty) : Decidable s.Normal :=
  match s with
  | union ts => inferInstanceAs (Decidable
      (2 ≤ ts.length ∧ (∀ t ∈ ts, t.kind ≠ .union) ∧ ts.Pairwise fun t u => Ty.same t u = false))
  | object ms => inferInstanceAs (Decidable (ms.map (·.name)).Nodup)
  | param _ | primitive _ | array _ | function _ _ | intersection _ => .isTrue trivial

end Shape

namespace Ty

theorem pairwise_same_iff {ts : List Ty} : (ts.Pairwise fun t u => same t u = false) ↔ ts.Nodup := by
  have h (t u : Ty) : same t u = false ↔ t ≠ u := by
    rw [← Bool.not_eq_true, same_iff]
  simp only [h]
  rfl

theorem union_of_normal {ts : List Ty} (h : (Shape.union ts).Normal) :
    union ts = intern (.union ts) := by
  obtain ⟨htwo, hkind, hdistinct⟩ := h
  have hts : addAlternatives [] ts = ts := addAlternatives_of_nodup hkind (pairwise_same_iff.1 hdistinct)
  rw [union_of_two_le (by rwa [hts]), hts]

theorem build_of_normal {s : Shape Ty} (h : s.Normal) : s.build = intern s := by
  cases s with
  | object ms => rw [Shape.build, object, Member.merge_of_nodup h]
  | union ts => exact union_of_normal h
  | param | primitive | array | function | intersection => rfl

section Hereditary

variable {P : Ty → Prop} (hchildren : ∀ t, P t → ∀ c ∈ t.children, P c)
  (hintern : ∀ s : Shape Ty, s.Normal → (∀ c ∈ s.children, P c) → P (intern s))

include hchildren hintern

theorem union_forall {ts : List Ty} (h : ∀ t ∈ ts, P t) : P (union ts) := by
  have hall : ∀ t ∈ addAlternatives [] ts, t.kind ≠ .union ∧ P t :=
    forall_mem_addAlternatives (fun us f hu t ht => hchildren _ hu t ht) h
  apply union_cases
  · exact hintern (.primitive .never) trivial (by simp [Shape.children])
  · intro t ht
    exact (hall t (by simp [ht])).2
  · intro htwo
    apply hintern
    · exact ⟨htwo, fun t ht => (hall t ht).1, pairwise_same_iff.2 (nodup_addAlternatives ts)⟩
    · exact fun t ht => (hall t ht).2

/-- What passes from components to the nodes in normal form that have them, and back, passes from the
arguments of every constructor to its result. -/
theorem build_forall {s : Shape Ty} (h : ∀ c ∈ s.children, P c) : P s.build := by
  cases s with
  | object ms =>
      have hmerge : ∀ m ∈ Member.merge ms, P m.type := fun m hm =>
        List.forall_mem_map.1 h m (Member.mem_of_mem_merge hm)
      exact hintern (.object (Member.merge ms)) (Member.nodup_names_merge ms) (List.forall_mem_map.2 hmerge)
  | union ts => exact union_forall hchildren hintern h
  | param | primitive | array | function | intersection => exact hintern _ trivial h

end Hereditary

def Normal (t : Ty) : Prop := ∀ u ∈ t.nodes, u.shape.Normal

instance (t : Ty) : Decidable t.Normal := inferInstanceAs (Decidable (∀ u ∈ t.nodes, u.shape.Normal))

theorem normal_iff {t : Ty} : t.Normal ↔ t.shape.Normal ∧ ∀ c ∈ t.children, c.Normal :=
  forall_mem_nodes

theorem Normal.children {t c : Ty} (h : t.Normal) (hc : c ∈ t.children) : c.Normal :=
  (normal_iff.1 h).2 c hc

theorem normal_intern_iff {s : Shape Ty} :
    (intern s).Normal ↔ s.Normal ∧ ∀ c ∈ s.children, c.Normal :=
  normal_iff

end Ty

end InterfaceCheck
