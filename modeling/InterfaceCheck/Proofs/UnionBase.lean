import InterfaceCheck.Proofs.Extendable
import InterfaceCheck.Proofs.Union

namespace InterfaceCheck.Ty

theorem nodup_distinct (ts : List Ty) : (distinct ts).Nodup := by
  rw [← foldl_addDistinct_nil]
  exact nodup_foldl_addDistinct List.nodup_nil ts

theorem distinct_eq_singleton_iff {ts : List Ty} {t : Ty} :
    distinct ts = [t] ↔ ts ≠ [] ∧ ∀ u ∈ ts, u = t := by
  constructor
  · intro h
    have hmem (u : Ty) : u ∈ ts ↔ u = t := by rw [← mem_distinct, h, List.mem_singleton]
    exact ⟨List.ne_nil_of_mem ((hmem t).2 rfl), fun u => (hmem u).1⟩
  · rintro ⟨hne, hall⟩
    obtain ⟨n, hn⟩ : ∃ n, distinct ts = List.replicate n t :=
      ⟨_, List.eq_replicate_of_mem fun u hu => hall u (mem_distinct.1 hu)⟩
    have hle := nodup_distinct ts
    rw [hn, List.nodup_replicate] at hle
    obtain ⟨u, hu⟩ := List.exists_mem_of_ne_nil ts hne
    have hu' := mem_distinct.2 hu
    rw [hn, List.mem_replicate] at hu'
    obtain rfl : n = 1 := by omega
    exact hn

theorem ofDistinct_of_two_le {ts : List Ty} (h : 2 ≤ ts.length) : ofDistinct ts = intern (.union ts) := by
  match ts with
  | [] | [_] => simp at h
  | _ :: _ :: _ => rfl

theorem verdict_ofDistinct_of_two_le {ts : List Ty} (h : 2 ≤ ts.length) :
    (ofDistinct ts).verdict = .rejected ⟨ofDistinct ts, .union, []⟩ := by
  rw [ofDistinct_of_two_le h]
  rfl

theorem verdict_ofDistinct_eq_accepted_iff {ts : List Ty} :
    (ofDistinct ts).verdict = .accepted ↔ ∃ t, ts = [t] ∧ t.verdict = .accepted := by
  match ts with
  | [] => simp [ofDistinct, primitive, intern, verdict, Verdict.reject]
  | [t] => simp [ofDistinct]
  | t :: u :: ts => simp [ofDistinct, intern, verdict, Verdict.reject]

/-- A union is judged by its alternatives, those of nested unions among them and repeats left out. It can
be extended only if they are one and the same type and this type can. A union node that is taken as
it is given can never be extended. -/
theorem verdict_union_counts_alternatives (ts : List Ty) :
    (distinct (ts.flatMap alternatives) = [] →
      (union ts).verdict = .rejected ⟨primitive .never, .primitive, []⟩) ∧
    (∀ t, distinct (ts.flatMap alternatives) = [t] → (union ts).verdict = t.verdict) ∧
    (2 ≤ (distinct (ts.flatMap alternatives)).length →
      (union ts).kind = .union ∧ (union ts).verdict = .rejected ⟨union ts, .union, []⟩) ∧
    ((union ts).verdict = .accepted ↔ ts.flatMap alternatives ≠ [] ∧
      ∃ t, t.verdict = .accepted ∧ ∀ u ∈ ts.flatMap alternatives, same u t = true) ∧
    ∀ us f, verdict ⟨.union us, f⟩ = .rejected ⟨⟨.union us, f⟩, .union, []⟩ := by
  rw [union_eq]
  refine ⟨?_, ?_, ?_, ?_, fun us f => rfl⟩
  · intro h
    rw [h]
    rfl
  · intro t h
    rw [h]
    rfl
  · intro h
    refine ⟨?_, verdict_ofDistinct_of_two_le h⟩
    rw [ofDistinct_of_two_le h]
    rfl
  · simp only [verdict_ofDistinct_eq_accepted_iff, distinct_eq_singleton_iff, same_iff]
    constructor
    · rintro ⟨t, ⟨hne, hall⟩, ht⟩
      exact ⟨hne, t, ht, hall⟩
    · rintro ⟨hne, t, ht, hall⟩
      exact ⟨t, ⟨hne, hall⟩, ht⟩

def lookalikes : List Ty :=
  [object [⟨"a", param 0⟩], intern (.union [object [⟨"a", primitive .any⟩, ⟨"a", param 0⟩]])]

theorem verdict_union_lookalikes :
    (union []).verdict = .rejected ⟨primitive .never, .primitive, []⟩ ∧
    (union lookalikes).verdict = .accepted ∧
    (∀ t ∈ (emptyObject :: lookalikes).flatMap alternatives, t.verdict = .accepted) ∧
    (union (emptyObject :: lookalikes)).verdict =
      .rejected ⟨union (emptyObject :: lookalikes), .union, []⟩ := by
  obtain ⟨hnone, _, _, _, _⟩ := verdict_union_counts_alternatives []
  obtain ⟨_, hone, _, _, _⟩ := verdict_union_counts_alternatives lookalikes
  obtain ⟨_, _, hmore, _, _⟩ := verdict_union_counts_alternatives (emptyObject :: lookalikes)
  exact ⟨hnone rfl, hone _ rfl, by decide, (hmore (by decide)).2⟩

end InterfaceCheck.Ty
