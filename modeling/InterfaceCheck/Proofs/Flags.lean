import InterfaceCheck.Proofs.Construction
import InterfaceCheck.Proofs.Occurrence

namespace InterfaceCheck.Ty

theorem flag_iff {flag : Flags → Bool} {k : Kind}
    (hflag : ∀ s : Shape Ty, flag s.flags = (s.kind == k || s.children.any fun c => flag c.flags)) {t : Ty}
    (h : t.Interned) : flag t.flags = true ↔ ∃ u ∈ t.nodes, u.kind = k := by
  induction t using ind with
  | step t ih =>
      rw [(interned_iff.1 h).1, hflag, Bool.or_eq_true, beq_iff_eq, List.any_eq_true, exists_mem_nodes]
      apply or_congr Iff.rfl
      apply exists_congr
      intro c
      apply and_congr_right
      intro hc
      exact ih c hc (h.children hc)

theorem hasUnion_iff {t : Ty} (h : t.Interned) :
    t.flags.hasUnion = true ↔ ∃ u ∈ t.nodes, u.kind = .union :=
  flag_iff (fun _ => rfl) h

theorem hasParam_iff {t : Ty} (h : t.Interned) :
    t.flags.hasParam = true ↔ ∃ u ∈ t.nodes, u.kind = .param :=
  flag_iff (fun _ => rfl) h

/-- The flags of a type tell what the type holds when it is made, at any position and on a walk through
all of it. What was given to a constructor and left out of the type has no part in them. -/
theorem flags_tell_occurrences {t : Ty} (h : Made true t) :
    (t.flags.hasUnion = true ↔ ∃ p u, t.HasAt p u ∧ u.kind = .union) ∧
    (t.flags.hasParam = true ↔ ∃ p u, t.HasAt p u ∧ u.kind = .param) ∧
    (t.flags.hasUnion = true ↔ ∃ u ∈ t.nodes, u.kind = .union) ∧
    (t.flags.hasParam = true ↔ ∃ u ∈ t.nodes, u.kind = .param) := by
  rw [exists_hasAt_iff, exists_hasAt_iff]
  have hunion := hasUnion_iff (Made.true_iff.1 h)
  have hparam := hasParam_iff (Made.true_iff.1 h)
  exact ⟨hunion, hparam, hunion, hparam⟩

/-- No union is left: one is overwritten, one collapses, and one has no alternatives to give. -/
def trimmed : Ty :=
  intersection
    [object [⟨"a", union [primitive .null, primitive .void]⟩, ⟨"a", param 0⟩],
      union [array (primitive .any), array (primitive .any)], union [union [], intern (.union [])]]

theorem flags_tell_trimmed :
    Made true trimmed ∧ trimmed.flags = ⟨false, true⟩ ∧
    (¬ ∃ p u, trimmed.HasAt p u ∧ u.kind = .union) ∧
    (∃ p u, trimmed.HasAt p u ∧ u.kind = .param) := by
  have h : Made true trimmed := Made.true_iff.2 (by decide)
  obtain ⟨hunion, hparam, _, _⟩ := flags_tell_occurrences h
  refine ⟨h, by decide, ?_, hparam.1 (by decide)⟩
  rw [← hunion]
  decide

end InterfaceCheck.Ty
