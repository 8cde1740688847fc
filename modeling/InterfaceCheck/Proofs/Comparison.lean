import Mathlib.Logic.Function.Basic
import InterfaceCheck.Proofs.Construction

namespace InterfaceCheck

inductive Tree where
  | node (shape : Shape Tree)

namespace Ty

def tree : Ty → Tree := fold fun _ below => .node below

def reintern : Ty → Ty := fold fun _ below => intern below

theorem reintern_eq (t : Ty) : t.reintern = intern (t.shape.map reintern) := fold_eq _ t

theorem reintern_of_interned {t : Ty} (h : t.Interned) : t.reintern = t := by
  induction t using ind with
  | step t ih =>
      have hc : t.shape.map reintern = t.shape.map id :=
        Shape.map_congr fun c hc => ih c hc (h.children hc)
      rw [reintern_eq, hc, Shape.map_id, ← h.eq_intern]

/-- Types with the same tree are those that are alike after any injective way of building them up. -/
theorem sameTree_iff_fold {β : Type} {g : Shape β → β} (hg : Function.Injective g) {t u : Ty} :
    sameTree t u = true ↔ (t.fold fun _ below => g below) = u.fold fun _ below => g below := by
  induction t using ind generalizing u with
  | step t ih =>
      rw [sameTree, alike_eq, Bool.true_and, fold_eq, fold_eq, hg.eq_iff]
      exact Shape.test_map_iff (fun c hc _ => ih c hc) u.shape

theorem sameTree_iff {t u : Ty} : sameTree t u = true ↔ t.tree = u.tree :=
  sameTree_iff_fold fun _ _ h => Tree.node.inj h

theorem sameTree_iff_of_interned {t u : Ty} (ht : t.Interned) (hu : u.Interned) :
    sameTree t u = true ↔ t = u := by
  have hintern : Function.Injective intern := fun _ _ h => congrArg shape h
  rw [sameTree_iff_fold hintern, ← reintern, reintern_of_interned ht, reintern_of_interned hu]

/-- All comparisons of types that can be made have the same answer, whichever type comes first, and
they tell types apart exactly when their trees differ. -/
theorem comparisons_agree {t u : Ty} (ht : Made true t) (hu : Made true u) :
    same u t = same t u ∧ identical t u = same t u ∧ sameTree t u = same t u ∧
    (same t u = true ↔ t.tree = u.tree) := by
  have htree := sameTree_iff_of_interned (Made.true_iff.1 ht) (Made.true_iff.1 hu)
  refine ⟨?_, ?_, ?_, ?_⟩
  · rw [Bool.eq_iff_iff, same_iff, same_iff, eq_comm]
  · rw [Bool.eq_iff_iff, identical_iff, same_iff]
  · rw [Bool.eq_iff_iff, htree, same_iff]
  · rw [same_iff, ← htree, sameTree_iff]

def shorter : Ty := intern (.union [object [⟨"a", param 1⟩], array (param 0)])

/-- Goes on where `shorter` ends, and has its flags. -/
def longer : Ty := intern (.union [object [⟨"a", param 1⟩], array (param 0), primitive .null])

theorem comparisons_agree_shorter_longer :
    Made true shorter ∧ Made true longer ∧ shorter.flags = longer.flags ∧
    same shorter longer = false ∧ same longer shorter = false ∧ identical shorter longer = false ∧
    sameTree shorter longer = false ∧ shorter.tree ≠ longer.tree := by
  have hshorter : Made true shorter := Made.true_iff.2 (by decide)
  have hlonger : Made true longer := Made.true_iff.2 (by decide)
  have hsame : same shorter longer = false := by decide
  obtain ⟨hreversed, hidentical, hnoflags, htree⟩ := comparisons_agree hshorter hlonger
  refine ⟨hshorter, hlonger, rfl, hsame, hreversed.trans hsame, hidentical.trans hsame,
    hnoflags.trans hsame, ?_⟩
  intro h
  rw [htree.2 h] at hsame
  cases hsame

end Ty

end InterfaceCheck
