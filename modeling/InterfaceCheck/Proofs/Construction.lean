import InterfaceCheck.Proofs.Interned
import InterfaceCheck.Proofs.NormalForm

namespace InterfaceCheck

/-- The types that a finite series of calls can make. Nodes are interned as they are only if `raw`. -/
inductive Made (raw : Bool) : Ty → Prop
  | build (s : Shape Ty) (components : ∀ c ∈ s.children, Made raw c) : Made raw s.build
  | emptyObject : Made raw Ty.emptyObject
  | asObject (d : Declaration) (i : Interface) (checked : d.check = .ok i)
      (bases : ∀ c ∈ d.bases, Made raw c.type) (fields : ∀ f ∈ d.fields, Made raw f.type) :
      Made raw i.asObject
  | intern (s : Shape Ty) (allowed : raw = true) (components : ∀ c ∈ s.children, Made raw c) :
      Made raw (Ty.intern s)

section Hereditary

variable {P : Ty → Prop} (hchildren : ∀ t, P t → ∀ c ∈ t.children, P c)

include hchildren

theorem Ty.forall_mem_gather {t : Ty} (h : P t) : ∀ m ∈ t.gather, P m.type := by
  induction t using Ty.ind with
  | step t ih =>
      have hc := hchildren t h
      rcases t with ⟨s, f⟩
      cases s with
      | object ms => exact List.forall_mem_map.1 hc
      | intersection ts =>
          rw [gather, gatherAll_eq_flatMap, List.forall_mem_flatMap]
          intro t ht
          exact ih t ht (hc t ht)
      | param | primitive | array | function | union => simp [gather]

theorem Clause.forall_mem_members {c : Clause} (h : P c.type) : ∀ m ∈ c.members, P m.type := by
  unfold Clause.members Ty.baseMembers
  cases c.type.verdict with
  | accepted => exact Ty.forall_mem_gather hchildren h
  | rejected r => simp [Verdict.toExcept, Except.map]

theorem Declaration.forall_mem_sequence {d : Declaration} (hbases : ∀ c ∈ d.bases, P c.type)
    (hfields : ∀ f ∈ d.fields, P f.type) : ∀ m ∈ d.sequence, P m.type := by
  rw [sequence, List.forall_mem_append, List.forall_mem_flatMap, List.forall_mem_map]
  constructor
  · intro c hc
    exact Clause.forall_mem_members hchildren (hbases c hc)
  · exact hfields

theorem Made.forall {raw : Bool}
    (hintern : ∀ s : Shape Ty, raw = true ∨ s.Normal → (∀ c ∈ s.children, P c) → P (Ty.intern s)) {t : Ty}
    (h : Made raw t) : P t := by
  have hbuild (s : Shape Ty) (hs : ∀ c ∈ s.children, P c) : P s.build :=
    Ty.build_forall hchildren (fun s hn => hintern s (.inr hn)) hs
  induction h with
  | build s _ ih => exact hbuild s ih
  | emptyObject => exact hbuild (.object []) (by simp [Shape.children])
  | asObject d i checked _ _ hbases hfields =>
      -- The object of a checked interface is what the constructor makes of all members in sequence.
      obtain ⟨_, rfl⟩ := Declaration.check_eq_ok_iff.1 checked
      have hsequence := Declaration.forall_mem_sequence hchildren hbases hfields
      rw [Interface.asObject_merge]
      exact hbuild (.object d.sequence) (List.forall_mem_map.2 hsequence)
  | intern s allowed _ ih => exact hintern s (.inl allowed) ih

end Hereditary

theorem Made.iff {raw : Bool} {t : Ty} : Made raw t ↔ t.Interned ∧ (raw = true ∨ t.Normal) := by
  constructor
  · apply Made.forall
    · rintro t ⟨hi, hn⟩ c hc
      exact ⟨hi.children hc, hn.imp_right fun hn => hn.children hc⟩
    · intro s hs h
      refine ⟨Ty.interned_intern_iff.2 fun c hc => (h c hc).1, ?_⟩
      by_cases hraw : raw = true
      · exact .inl hraw
      · apply Or.inr
        apply Ty.normal_intern_iff.2
        exact ⟨hs.resolve_left hraw, fun c hc => (h c hc).2.resolve_left hraw⟩
  · rintro ⟨hi, hn⟩
    induction t using Ty.ind with
    | step t ih =>
        have hc : ∀ c ∈ t.shape.children, Made raw c := by
          intro c hc
          exact ih c hc (hi.children hc) (hn.imp_right fun hn => hn.children hc)
        rw [hi.eq_intern]
        rcases hn with hraw | hn
        · exact .intern _ hraw hc
        · rw [← Ty.build_of_normal (Ty.normal_iff.1 hn).1]
          exact .build _ hc

theorem Made.true_iff {t : Ty} : Made true t ↔ t.Interned := by
  simp [Made.iff]

theorem Made.false_iff {t : Ty} : Made false t ↔ t.Interned ∧ t.Normal := by
  simp [Made.iff]

namespace Ty

def rebuild : Ty → Ty := fold fun _ rebuilt => rebuilt.build

theorem rebuild_eq (t : Ty) : t.rebuild = (t.shape.map rebuild).build := fold_eq _ t

theorem made_rebuild (t : Ty) : Made false t.rebuild := by
  induction t using ind with
  | step t ih =>
      rw [rebuild_eq]
      apply Made.build
      rw [Shape.children_map]
      exact List.forall_mem_map.2 ih

theorem rebuild_of_normal {t : Ty} (hi : t.Interned) (hn : t.Normal) : t.rebuild = t := by
  induction t using ind with
  | step t ih =>
      have hc : t.shape.map rebuild = t.shape.map id :=
        Shape.map_congr fun c hc => ih c hc (hi.children hc) (hn.children hc)
      calc t.rebuild
        _ = (t.shape.map rebuild).build := rebuild_eq t
        _ = t.shape.build := by rw [hc, Shape.map_id]
        _ = intern t.shape := build_of_normal (normal_iff.1 hn).1
        _ = t := hi.eq_intern.symm

theorem rebuild_eq_self_iff {t : Ty} : t.rebuild = t ↔ t.Interned ∧ t.Normal := by
  constructor
  · intro h
    exact Made.false_iff.1 (h ▸ t.made_rebuild)
  · rintro ⟨hi, hn⟩
    exact rebuild_of_normal hi hn

example :
    let t := intern (.union [intern (.union [primitive .null, param 0]), primitive .null,
      intern (.object [⟨"a", primitive .void⟩, ⟨"a", intern (.union [])⟩])])
    ¬ t.Normal ∧
    t.rebuild = intern (.union [primitive .null, param 0, object [⟨"a", primitive .never⟩]]) := by
  decide

/-- The constructors make the types in normal form and no others. They bring every type into normal
form, and leave a type as it is if it is in normal form already. -/
theorem constructors_make_normal_forms (t : Ty) :
    (Made false t ↔ Made true t ∧ t.Normal) ∧
    Made false t.rebuild ∧ t.rebuild.Normal ∧
    (t.rebuild = t ↔ Made true t ∧ t.Normal) := by
  rw [Made.true_iff]
  exact ⟨Made.false_iff, t.made_rebuild, (Made.false_iff.1 t.made_rebuild).2, rebuild_eq_self_iff⟩

end Ty

end InterfaceCheck
