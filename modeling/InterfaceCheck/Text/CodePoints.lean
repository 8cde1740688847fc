/-!
Sets of characters that Unicode lists. Such a set is kept as ranges of code points that ascend, so
that a search ends at the first range that does not lie below the character looked for. Drawing
follows Unicode 18; what counts as graphic follows Unicode 17.
-/

namespace InterfaceCheck.Text

/-- Whether the ranges follow one another upwards from `start`, with a gap between two neighbours. -/
def ascendFrom (start : Nat) : List (Nat × Nat) → Bool
  | [] => true
  | (lo, hi) :: rest => start ≤ lo && lo ≤ hi && ascendFrom (hi + 2) rest

structure CodePoints where
  ranges : List (Nat × Nat)
  ascending : ascendFrom 0 ranges = true

namespace CodePoints

def search (n : Nat) : List (Nat × Nat) → Bool
  | [] => false
  | (lo, hi) :: rest => if hi < n then search n rest else lo ≤ n

def contains (s : CodePoints) (c : Char) : Bool := search c.toNat s.ranges

theorem le_of_mem {start : Nat} {ranges : List (Nat × Nat)} (h : ascendFrom start ranges = true)
    {r : Nat × Nat} (hr : r ∈ ranges) : start ≤ r.1 := by
  induction ranges generalizing start with
  | nil => simp at hr
  | cons s rest ih =>
      simp only [ascendFrom, Bool.and_eq_true, decide_eq_true_eq] at h
      rcases List.mem_cons.1 hr with rfl | hr
      · exact h.1.1
      · have := ih h.2 hr
        omega

theorem search_eq_true_iff {n start : Nat} {ranges : List (Nat × Nat)}
    (h : ascendFrom start ranges = true) :
    search n ranges = true ↔ ∃ r ∈ ranges, r.1 ≤ n ∧ n ≤ r.2 := by
  induction ranges generalizing start with
  | nil => simp [search]
  | cons r rest ih =>
      simp only [ascendFrom, Bool.and_eq_true, decide_eq_true_eq] at h
      simp only [search, List.mem_cons, exists_eq_or_imp]
      split
      · rw [ih h.2]
        constructor
        · exact Or.inr
        · rintro (⟨_, _⟩ | hr)
          · omega
          · exact hr
      · simp only [decide_eq_true_eq]
        constructor
        · intro hlo
          exact Or.inl ⟨hlo, by omega⟩
        · rintro (⟨hlo, _⟩ | ⟨s, hs, hlo, _⟩)
          · exact hlo
          · have := le_of_mem h.2 hs
            omega

theorem contains_eq_true_iff (s : CodePoints) (c : Char) :
    s.contains c = true ↔ ∃ r ∈ s.ranges, r.1 ≤ c.toNat ∧ c.toNat ≤ r.2 :=
  search_eq_true_iff s.ascending

end CodePoints

end InterfaceCheck.Text
