import InterfaceCheck.Proofs.Merge

namespace InterfaceCheck

namespace Member

variable {α : Type}

theorem put_put_of_eq {m x : Member α} (h : x.name = m.name) (xs : List (Member α)) :
    put m (put x xs) = put m xs := by
  induction xs with
  | nil => simp [put, h]
  | cons y ys ih =>
      by_cases hy : y.name = x.name
      · simp [put, hy, h]
      · have hm : y.name ≠ m.name := fun he => hy (he.trans h.symm)
        simp only [put, hy, hm, if_false, ih]

theorem put_put_comm {m x : Member α} (h : x.name ≠ m.name) {xs : List (Member α)}
    (hm : m.name ∈ xs.map (·.name)) : put m (put x xs) = put x (put m xs) := by
  induction xs with
  | nil => simp at hm
  | cons y ys ih =>
      by_cases hy : y.name = m.name
      · simp only [put, hy, if_false, if_true, Ne.symm h]
      · rw [List.map_cons, List.mem_cons] at hm
        have hys := ih (hm.resolve_left (Ne.symm hy))
        by_cases hx : y.name = x.name
        · simp only [put, hx, h, if_false, if_true]
        · simp only [put, hx, hy, if_false, hys]

theorem put_foldl_put {m : Member α} {kept xs : List (Member α)} (hkept : m.name ∈ kept.map (·.name))
    (hxs : m.name ∉ xs.map (·.name)) :
    put m (xs.foldl (fun kept x => put x kept) kept) =
      xs.foldl (fun kept x => put x kept) (put m kept) := by
  induction xs generalizing kept with
  | nil => rfl
  | cons x xs ih =>
      rw [List.map_cons, List.mem_cons, not_or] at hxs
      rw [List.foldl_cons, List.foldl_cons, ih (mem_names_put.2 (.inl hkept)) hxs.2,
        put_put_comm (Ne.symm hxs.1) hkept]

theorem foldl_put_put (m : Member α) (kept : List (Member α)) {xs : List (Member α)}
    (h : (xs.map (·.name)).Nodup) :
    (put m xs).foldl (fun kept x => put x kept) kept =
      put m (xs.foldl (fun kept x => put x kept) kept) := by
  induction xs generalizing kept with
  | nil => rfl
  | cons x xs ih =>
      rw [List.map_cons, List.nodup_cons] at h
      by_cases hx : x.name = m.name
      · -- The rest of the list has other names, so that `m` can wait until it is read.
        have hkept : m.name ∈ (put x kept).map (·.name) := mem_names_put.2 (.inr hx.symm)
        have hm : ⟨x.name, m.type⟩ = m := by rw [hx]
        rw [put, if_pos hx, hm, List.foldl_cons, List.foldl_cons, put_foldl_put hkept (hx ▸ h.1),
          put_put_of_eq hx]
      · rw [put, if_neg hx, List.foldl_cons, List.foldl_cons, ih _ h.2]

theorem foldl_put_merge (kept ms : List (Member α)) :
    (merge ms).foldl (fun kept m => put m kept) kept = ms.foldl (fun kept m => put m kept) kept := by
  induction ms using List.reverseRecOn with
  | nil => rfl
  | append_singleton ms m ih =>
      rw [merge_concat, foldl_put_put m kept (nodup_names_merge ms), ih, List.foldl_concat]

theorem merge_congr {ys ys' : List (Member α)} (h : merge ys = merge ys') (xs zs : List (Member α)) :
    merge (xs ++ ys ++ zs) = merge (xs ++ ys' ++ zs) := by
  rw [merge, List.foldl_append, List.foldl_append, ← foldl_put_merge _ ys, h, foldl_put_merge, merge,
    List.foldl_append, List.foldl_append]

theorem merge_merge (ms : List (Member α)) : merge (merge ms) = merge ms :=
  merge_of_nodup (nodup_names_merge ms)

end Member

namespace Clause

variable {c : Clause} {ms : List (Member Ty)}

theorem problem?_of_object (h : c.type = Ty.object ms) : c.problem? = none := by
  rw [problem?_eq_none_iff, h]
  rfl

theorem members_of_object (h : c.type = Ty.object ms) : c.members = Member.merge ms := by
  rw [members, h]
  rfl

end Clause

namespace Declaration

/-- A clause can be exchanged for clauses that have the same problems and merge to the same members. -/
theorem check_exchange {d : Declaration} {c : Clause} {pre cs post : List Clause}
    (hd : d.bases = pre ++ c :: post) (hproblems : cs.filterMap Clause.problem? = c.problem?.toList)
    (hmembers : Member.merge (cs.flatMap Clause.members) = Member.merge c.members) :
    { d with bases := pre ++ cs ++ post }.check = d.check := by
  have hbases : d.bases = pre ++ [c] ++ post := by simp [hd]
  have hp : problems { d with bases := pre ++ cs ++ post } = d.problems := by
    rw [problems, problems, hbases, List.filterMap_append, List.filterMap_append, hproblems]
    cases h : c.problem? <;> simp [h]
  have hm : Member.merge (sequence { d with bases := pre ++ cs ++ post }) = Member.merge d.sequence := by
    rw [sequence, sequence, hbases]
    simp only [List.flatMap_append, List.flatMap_singleton]
    rw [List.append_assoc (_ ++ _), List.append_assoc (_ ++ _)]
    exact Member.merge_congr hmembers _ _
  rw [check_eq, check_eq, hp, hm]

/-- Clauses that name all that the declaration names: its bases, and then its fields as one object. -/
def clauses (d : Declaration) (span : Span) : List Clause :=
  d.bases ++ [⟨Ty.object (d.fields.map Field.member), span⟩]

theorem problems_clauses {d : Declaration} (h : d.problems = []) (span : Span) :
    (d.clauses span).filterMap Clause.problem? = [] := by
  rw [clauses, List.filterMap_append, (List.append_eq_nil_iff.1 h).1, List.nil_append,
    List.filterMap_cons_none (Clause.problem?_of_object rfl), List.filterMap_nil]

theorem merge_members_clauses (d : Declaration) (span : Span) :
    Member.merge ((d.clauses span).flatMap Clause.members) = Member.merge d.sequence := by
  have h := Member.merge_congr (Member.merge_merge (d.fields.map Field.member))
    (d.bases.flatMap Clause.members) []
  rw [List.append_nil, List.append_nil] at h
  rw [clauses, List.flatMap_append, List.flatMap_singleton, Clause.members_of_object rfl, h, sequence]

/-- An interface extends a checked interface with the same outcome as if it named all that the other
one names. -/
theorem check_flattens_chain {a b : Declaration} {i : Interface} {c : Clause} {pre post : List Clause}
    (ha : a.check = .ok i) (hb : b.bases = pre ++ c :: post) (hc : c.type = i.asObject) (span : Span) :
    i.asObject.verdict = .accepted ∧
    { b with bases := pre ++ a.clauses span ++ post }.check = b.check := by
  obtain ⟨hproblems, rfl⟩ := check_eq_ok_iff.1 ha
  rw [Interface.asObject_merge] at hc ⊢
  refine ⟨rfl, ?_⟩
  apply check_exchange hb
  · rw [problems_clauses hproblems, Clause.problem?_of_object hc, Option.toList_none]
  · rw [merge_members_clauses, Clause.members_of_object hc, Member.merge_merge]

def heir : Declaration where
  name := "E"
  span := ⟨0, 1⟩
  bases :=
    [⟨.object [⟨"d", .primitive .null⟩, ⟨"z", .param 0⟩], ⟨2, 3⟩⟩, ⟨shadowed.asObject, ⟨4, 5⟩⟩,
      ⟨.object [⟨"b", .primitive .void⟩], ⟨6, 7⟩⟩]
  fields := [⟨"a", .primitive .symbol, ⟨8, 9⟩⟩]

theorem check_flattens_heir :
    shadowing.check = .ok shadowed ∧
    heir.check = .ok ⟨"E", [⟨"d", .primitive .any⟩, ⟨"z", .param 0⟩, ⟨"a", .primitive .symbol⟩,
      ⟨"b", .primitive .void⟩, ⟨"c", .primitive .number⟩]⟩ ∧
    { heir with bases := heir.bases.take 1 ++ shadowing.clauses ⟨4, 5⟩ ++ heir.bases.drop 2 }.check =
      heir.check := by
  have h : shadowing.check = .ok shadowed := check_eq_ok_iff.2 ⟨rfl, rfl⟩
  have hbases : heir.bases =
      heir.bases.take 1 ++ ⟨shadowed.asObject, ⟨4, 5⟩⟩ :: heir.bases.drop 2 := rfl
  refine ⟨h, check_eq_ok_iff.2 ⟨rfl, rfl⟩, ?_⟩
  exact (check_flattens_chain h hbases rfl ⟨4, 5⟩).2

end Declaration

end InterfaceCheck
