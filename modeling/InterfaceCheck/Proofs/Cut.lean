import Mathlib.Data.List.Basic

namespace InterfaceCheck

theorem cut_unique {p : Char → Bool} {xs ys us vs : List Char} (h : xs ++ us = ys ++ vs)
    (hxs : ∀ c ∈ xs, p c = true) (hys : ∀ c ∈ ys, p c = true) (hus : ∀ c ∈ us.head?, p c = false)
    (hvs : ∀ c ∈ vs.head?, p c = false) : xs = ys ∧ us = vs := by
  have hstop {ws : List Char} (hws : ∀ c ∈ ws.head?, p c = false) : ws.takeWhile p = [] := by
    cases ws with
    | nil => rfl
    | cons c ws => simp [hws c rfl]
  have htake := congrArg (List.takeWhile p) h
  rw [List.takeWhile_append_of_pos hxs, List.takeWhile_append_of_pos hys, hstop hus, hstop hvs,
    List.append_nil, List.append_nil] at htake
  exact ⟨htake, List.append_cancel_left (htake ▸ h)⟩

theorem isDigit_of_mem_repr {n : Nat} {c : Char} (h : c ∈ n.repr.toList) : c.isDigit = true := by
  rw [Nat.toList_repr] at h
  exact Nat.isDigit_of_mem_toDigits (by decide) (by decide) h

theorem repr_cut {m n : Nat} {us vs : List Char} (h : m.repr.toList ++ us = n.repr.toList ++ vs)
    (hus : ∀ c ∈ us.head?, c.isDigit = false) (hvs : ∀ c ∈ vs.head?, c.isDigit = false) :
    m = n ∧ us = vs := by
  obtain ⟨hmn, hrest⟩ := cut_unique h (fun _ => isDigit_of_mem_repr) (fun _ => isDigit_of_mem_repr) hus hvs
  have hval (k : Nat) : Nat.ofDigitChars 10 k.repr.toList 0 = k := by
    rw [Nat.toList_repr]
    exact Nat.ofDigitChars_toDigits (by decide) (by decide)
  exact ⟨by rw [← hval m, hmn, hval n], hrest⟩

theorem prefix_intercalate (sep s : String) (ss : List String) :
    s.toList <+: (sep.intercalate (s :: ss)).toList := by
  cases ss with
  | nil => simp
  | cons s' ss =>
      rw [String.intercalate_cons_cons, String.toList_append, String.toList_append, List.append_assoc]
      exact List.prefix_append ..

theorem infix_enclosed (before s after : String) : s.toList <:+: (before ++ s ++ after).toList := by
  rw [String.toList_append, String.toList_append]
  exact List.infix_append _ _ _

theorem infix_intercalate {sep s : String} {ss : List String} (h : s ∈ ss) :
    s.toList <:+: (sep.intercalate ss).toList := by
  induction ss with
  | nil => exact absurd h List.not_mem_nil
  | cons x xs ih =>
      rcases List.mem_cons.1 h with rfl | h
      · exact (prefix_intercalate ..).isInfix
      · have hne : xs ≠ [] := List.ne_nil_of_mem h
        rw [String.intercalate_cons_of_ne_nil hne, String.toList_append]
        exact (ih h).trans (List.suffix_append _ _).isInfix

theorem notMem_intercalate {c : Char} {sep : String} {ss : List String} (hsep : c ∉ sep.toList)
    (hss : ∀ s ∈ ss, c ∉ s.toList) : c ∉ (sep.intercalate ss).toList := by
  induction ss with
  | nil => simp
  | cons x xs ih =>
      rw [List.forall_mem_cons] at hss
      cases xs with
      | nil => simpa using hss.1
      | cons y ys =>
          rw [String.intercalate_cons_cons, String.toList_append, String.toList_append, List.mem_append,
            List.mem_append, not_or, not_or]
          exact ⟨⟨hss.1, hsep⟩, ih hss.2⟩

/-- A list of pieces with separators between them can be cut in one way only, if each piece can and
what follows the list is no separator. -/
theorem intercalate_cut {α : Type} {text : α → List Char} {sep : List Char}
    {stop : List Char → Prop} {xs ys : List α} {us vs : List Char} (hxs : xs ≠ []) (hys : ys ≠ [])
    (hcut : ∀ x ∈ xs, ∀ y ∈ ys, ∀ us vs, stop us → stop vs → text x ++ us = text y ++ vs → x = y)
    (hsep : ∀ ws, stop (sep ++ ws)) (hus : stop us) (hvs : stop vs) (hus' : ¬ sep <+: us)
    (hvs' : ¬ sep <+: vs)
    (h : sep.intercalate (xs.map text) ++ us = sep.intercalate (ys.map text) ++ vs) :
    xs = ys ∧ us = vs := by
  induction xs generalizing ys with
  | nil => exact absurd rfl hxs
  | cons x xs ih =>
      cases ys with
      | nil => exact absurd rfl hys
      | cons y ys =>
          have head := hcut x List.mem_cons_self y List.mem_cons_self
          cases xs with
          | nil =>
              cases ys with
              | nil =>
                  simp only [List.map_cons, List.map_nil, List.intercalate_singleton] at h
                  obtain rfl := head _ _ hus hvs h
                  exact ⟨rfl, List.append_cancel_left h⟩
              | cons y' ys =>
                  simp only [List.map_cons, List.map_nil, List.intercalate_singleton,
                    List.intercalate_cons_cons, List.append_assoc] at h
                  obtain rfl := head _ _ hus (hsep _) h
                  exact absurd ⟨_, (List.append_cancel_left h).symm⟩ hus'
          | cons x' xs =>
              cases ys with
              | nil =>
                  simp only [List.map_cons, List.map_nil, List.intercalate_singleton,
                    List.intercalate_cons_cons, List.append_assoc] at h
                  obtain rfl := head _ _ (hsep _) hvs h
                  exact absurd ⟨_, List.append_cancel_left h⟩ hvs'
              | cons y' ys =>
                  simp only [List.map_cons, List.intercalate_cons_cons, List.append_assoc] at h
                  obtain rfl := head _ _ (hsep _) (hsep _) h
                  have htail := List.append_cancel_left (List.append_cancel_left h)
                  have hcut' : ∀ a ∈ x' :: xs, ∀ b ∈ y' :: ys, ∀ us vs, stop us → stop vs →
                      text a ++ us = text b ++ vs → a = b := by
                    intro a ha b hb
                    exact hcut a (List.mem_cons_of_mem _ ha) b (List.mem_cons_of_mem _ hb)
                  obtain ⟨hxys, huvs⟩ := ih (by simp) (by simp) hcut' (by simpa using htail)
                  exact ⟨by rw [hxys], huvs⟩

end InterfaceCheck
