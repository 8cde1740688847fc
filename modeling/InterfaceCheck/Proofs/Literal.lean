import InterfaceCheck.Proofs.Cut
import InterfaceCheck.Text.Literal

namespace InterfaceCheck.Text

theorem digitChar_inj : ∀ m < 16, ∀ n < 16, Nat.digitChar m = Nat.digitChar n → m = n := by decide

theorem digitChar_notMem : ∀ n < 16, Nat.digitChar n ∉ ['"', '\\', '\x7d'] := by decide

theorem toDigits_of_le {n : Nat} (h : ¬ n < 16) :
    Nat.toDigits 16 n = Nat.toDigits 16 (n / 16) ++ [Nat.digitChar (n % 16)] :=
  Nat.toDigits_of_base_le (by decide) (by omega)

theorem notMem_toDigits {c : Char} (hc : c ∈ ['"', '\\', '\x7d']) (n : Nat) : c ∉ Nat.toDigits 16 n := by
  have hdigit (k : Nat) (hk : k < 16) : c ≠ Nat.digitChar k := by
    rintro rfl
    exact digitChar_notMem k hk hc
  induction n using Nat.strongRecOn with
  | ind n ih =>
      by_cases hn : n < 16
      · rw [Nat.toDigits_of_lt_base hn, List.mem_singleton]
        exact hdigit n hn
      · rw [toDigits_of_le hn, List.mem_append, List.mem_singleton, not_or]
        exact ⟨ih (n / 16) (by omega), hdigit (n % 16) (by omega)⟩

theorem toDigits_injective {m n : Nat} (h : Nat.toDigits 16 m = Nat.toDigits 16 n) : m = n := by
  induction m using Nat.strongRecOn generalizing n with
  | ind m ih =>
      by_cases hm : m < 16
      · by_cases hn : n < 16
        · rw [Nat.toDigits_of_lt_base hm, Nat.toDigits_of_lt_base hn] at h
          exact digitChar_inj m hm n hn (List.singleton_inj.1 h)
        · rw [Nat.toDigits_of_lt_base hm, toDigits_of_le hn] at h
          simp [List.singleton_eq_append_iff, Nat.toDigits_ne_nil] at h
      · by_cases hn : n < 16
        · rw [toDigits_of_le hm, Nat.toDigits_of_lt_base hn] at h
          simp [List.append_eq_singleton_iff, Nat.toDigits_ne_nil] at h
        · rw [toDigits_of_le hm, toDigits_of_le hn] at h
          obtain ⟨hinit, hlast⟩ := List.append_inj' h rfl
          have hdiv : m / 16 = n / 16 := ih (m / 16) (by omega) hinit
          have hmod : m % 16 = n % 16 :=
            digitChar_inj _ (Nat.mod_lt m (by decide)) _ (Nat.mod_lt n (by decide)) (List.singleton_inj.1 hlast)
          omega

def shortEscapes : List (Char × Char) :=
  [('"', '"'), ('\\', '\\'), ('\n', 'n'), ('\t', 't'), ('\r', 'r'), ('\x00', '0')]

inductive Escaped (c : Char) : List Char → Prop
  | plain (quote : c ≠ '"') (backslash : c ≠ '\\') : Escaped c [c]
  | short (e) (mem : (c, e) ∈ shortEscapes) : Escaped c ['\\', e]
  | code : Escaped c ('\\' :: 'u' :: '\x7b' :: (Nat.toDigits 16 c.toNat ++ ['\x7d']))

theorem escaped_escapeChar (c : Char) : Escaped c (escapeChar c).toList := by
  unfold escapeChar
  split
  · exact .short _ (by decide)
  · exact .short _ (by decide)
  · exact .short _ (by decide)
  · exact .short _ (by decide)
  · exact .short _ (by decide)
  · exact .short _ (by decide)
  · split
    · rw [String.toList_singleton]
      exact .plain ‹_› ‹_›
    · simpa using Escaped.code

namespace Escaped

variable {c d : Char} {s t us vs : List Char}

theorem cut (hs : Escaped c s) (ht : Escaped d t) (h : s ++ us = t ++ vs) : c = d ∧ us = vs := by
  have hshort : ∀ x ∈ shortEscapes, x.2 ≠ 'u' ∧ ∀ y ∈ shortEscapes, x.2 = y.2 → x.1 = y.1 := by decide
  cases hs with
  | plain quote backslash =>
      cases ht with
      | plain => exact List.cons.inj h
      | short | code => exact absurd (List.cons.inj h).1 backslash
  | short e mem =>
      cases ht with
      | plain quote backslash => exact absurd (List.cons.inj h).1.symm backslash
      | short e' mem' =>
          obtain ⟨rfl, rfl⟩ : e = e' ∧ us = vs := by simpa using h
          exact ⟨(hshort _ mem).2 _ mem' rfl, rfl⟩
      | code =>
          obtain ⟨rfl, _⟩ := List.cons.inj (List.cons.inj h).2
          exact absurd rfl (hshort _ mem).1
  | code =>
      cases ht with
      | plain quote backslash => exact absurd (List.cons.inj h).1.symm backslash
      | short e mem =>
          obtain ⟨rfl, _⟩ := List.cons.inj (List.cons.inj h).2
          exact absurd rfl (hshort _ mem).1
      | code =>
          have hdigit (n : Nat) : ∀ e ∈ Nat.toDigits 16 n, (e != '\x7d') = true := by
            intro e he
            rw [bne_iff_ne]
            rintro rfl
            exact notMem_toDigits (by decide) n he
          have hrest : Nat.toDigits 16 c.toNat ++ '\x7d' :: us = Nat.toDigits 16 d.toNat ++ '\x7d' :: vs := by
            simpa using h
          obtain ⟨hdigits, hus⟩ := cut_unique hrest (hdigit _) (hdigit _) (by simp) (by simp)
          exact ⟨Char.toNat_inj.1 (toDigits_injective hdigits), (List.cons.inj hus).2⟩

theorem ne_quote (hs : Escaped c s) : s ++ us ≠ '"' :: vs := by
  intro h
  cases hs with
  | plain quote backslash => exact quote (List.cons.inj h).1
  | short | code => exact absurd (List.cons.inj h).1 (by decide)

end Escaped

theorem toList_literal (s : String) :
    (literal s).toList = '"' :: (s.toList.flatMap (fun c => (escapeChar c).toList) ++ ['"']) := by
  rw [literal, String.toList_append, String.toList_append, String.toList_join, List.flatMap_map]
  rfl

/-- A literal is read in one way only, whatever stands behind it. -/
theorem literal_cut {s t : String} {us vs : List Char}
    (h : (literal s).toList ++ us = (literal t).toList ++ vs) : s = t ∧ us = vs := by
  suffices hbody : ∀ cs ds : List Char,
      cs.flatMap (fun c => (escapeChar c).toList) ++ '"' :: us =
        ds.flatMap (fun c => (escapeChar c).toList) ++ '"' :: vs → cs = ds ∧ us = vs by
    simp only [toList_literal, List.cons_append, List.append_assoc, List.cons.injEq, true_and,
      List.nil_append] at h
    obtain ⟨hchars, hus⟩ := hbody s.toList t.toList h
    exact ⟨String.toList_inj.1 hchars, hus⟩
  clear h
  intro cs
  induction cs with
  | nil =>
      intro ds h
      cases ds with
      | nil => exact ⟨rfl, (List.cons.inj h).2⟩
      | cons d ds =>
          rw [List.flatMap_cons, List.append_assoc] at h
          exact absurd h.symm (escaped_escapeChar d).ne_quote
  | cons c cs ih =>
      intro ds h
      rw [List.flatMap_cons, List.append_assoc] at h
      cases ds with
      | nil => exact absurd h (escaped_escapeChar c).ne_quote
      | cons d ds =>
          rw [List.flatMap_cons, List.append_assoc] at h
          obtain ⟨rfl, hrest⟩ := (escaped_escapeChar c).cut (escaped_escapeChar d) h
          obtain ⟨rfl, hus⟩ := ih ds hrest
          exact ⟨rfl, hus⟩

end InterfaceCheck.Text
