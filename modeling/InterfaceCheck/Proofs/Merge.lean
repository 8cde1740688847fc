import InterfaceCheck.Proofs.Check

namespace InterfaceCheck

namespace Member

variable {α : Type}

theorem merge_concat (ms : List (Member α)) (m : Member α) :
    merge (ms ++ [m]) = put m (merge ms) :=
  List.foldl_concat ..

theorem find?_put (m : Member α) (xs : List (Member α)) (n : String) :
    (put m xs).find? (·.name == n) = if m.name = n then some m else xs.find? (·.name == n) := by
  induction xs with
  | nil => by_cases hn : m.name = n <;> simp [put, hn]
  | cons x xs ih =>
      by_cases hx : x.name = m.name
      · by_cases hn : m.name = n
        · subst hn
          simp [put, hx]
        · simp [put, hx, hn]
      · by_cases hxn : x.name = n
        · have hn : m.name ≠ n := fun hn => hx (hxn.trans hn.symm)
          simp only [put, hx, if_false, hn, List.find?_cons, beq_iff_eq.2 hxn]
        · simp only [put, hx, if_false, List.find?_cons, beq_eq_false_iff_ne.2 hxn, ih]

theorem find?_merge (ms : List (Member α)) (n : String) :
    (merge ms).find? (·.name == n) = ms.findRev? (·.name == n) := by
  induction ms using List.reverseRecOn with
  | nil => rfl
  | append_singleton ms m ih =>
      rw [List.findRev?_eq_find?_reverse] at ih ⊢
      rw [merge_concat, find?_put, ih, List.reverse_concat]
      by_cases hn : m.name = n <;> simp [hn]

theorem mem_names_put {m : Member α} {xs : List (Member α)} {n : String} :
    n ∈ (put m xs).map (·.name) ↔ n ∈ xs.map (·.name) ∨ n = m.name := by
  rw [map_name_put]
  split
  · rename_i hm
    constructor
    · exact .inl
    · rintro (hn | rfl)
      · exact hn
      · exact hm
  · rw [List.mem_append, List.mem_singleton]

theorem mem_names_merge {ms : List (Member α)} {n : String} :
    n ∈ (merge ms).map (·.name) ↔ n ∈ ms.map (·.name) := by
  induction ms using List.reverseRecOn with
  | nil => rfl
  | append_singleton ms m ih =>
      rw [merge_concat, mem_names_put, ih, List.map_append, List.mem_append, List.map_singleton,
        List.mem_singleton]

theorem pairwise_idxOf_merge (ms : List (Member α)) :
    (merge ms).Pairwise fun a b =>
      (ms.map (·.name)).idxOf a.name < (ms.map (·.name)).idxOf b.name := by
  suffices h : ((merge ms).map (·.name)).Pairwise fun a b =>
      (ms.map (·.name)).idxOf a < (ms.map (·.name)).idxOf b by rwa [List.pairwise_map] at h
  induction ms using List.reverseRecOn with
  | nil => exact .nil
  | append_singleton ms m ih =>
      have hkeep : ∀ n ∈ (merge ms).map (·.name),
          ((ms ++ [m]).map (·.name)).idxOf n = (ms.map (·.name)).idxOf n := by
        intro n hn
        rw [List.map_append, List.idxOf_append_of_mem (mem_names_merge.1 hn)]
      have hold : ((merge ms).map (·.name)).Pairwise fun a b =>
          ((ms ++ [m]).map (·.name)).idxOf a < ((ms ++ [m]).map (·.name)).idxOf b := by
        apply ih.imp_of_mem
        intro a b ha hb hab
        rw [hkeep a ha, hkeep b hb]
        exact hab
      rw [merge_concat, map_name_put]
      split
      · exact hold
      · rename_i hm
        apply List.pairwise_append.2
        refine ⟨hold, List.pairwise_singleton .., ?_⟩
        intro a ha b hb
        obtain rfl : b = m.name := by simpa using hb
        have hlt := List.idxOf_lt_length_of_mem (mem_names_merge.1 ha)
        rw [hkeep a ha, List.map_append, List.idxOf_append_of_notMem (mt mem_names_merge.2 hm)]
        omega

theorem nodup_names_merge (ms : List (Member α)) : ((merge ms).map (·.name)).Nodup := by
  rw [List.Nodup, List.pairwise_map]
  apply (pairwise_idxOf_merge ms).imp
  intro a b hlt he
  rw [he] at hlt
  exact Nat.lt_irrefl _ hlt

theorem merge_of_nodup {ms : List (Member α)} (h : (ms.map (·.name)).Nodup) : merge ms = ms := by
  induction ms using List.reverseRecOn with
  | nil => rfl
  | append_singleton ms m ih =>
      rw [List.map_append, List.nodup_append] at h
      have hm : m.name ∉ ms.map (·.name) := fun hm => h.2.2 m.name hm m.name (by simp) rfl
      rw [merge_concat, ih h.1, put_of_notMem hm]

theorem find?_of_mem_of_nodup {ms : List (Member α)} (h : (ms.map (·.name)).Nodup) {m : Member α}
    (hm : m ∈ ms) : ms.find? (·.name == m.name) = some m := by
  induction ms with
  | nil => simp at hm
  | cons x ms ih =>
      rw [List.map_cons, List.nodup_cons] at h
      rcases List.mem_cons.1 hm with rfl | hm
      · simp
      · have hx : x.name ≠ m.name := fun he => h.1 (he ▸ List.mem_map_of_mem hm)
        rw [List.find?_cons_of_neg (by simpa using hx), ih h.2 hm]

end Member

theorem Clause.baseMembers_eq {c : Clause} (h : c.type.verdict = .accepted) :
    c.type.baseMembers = .ok c.members := by
  unfold Clause.members
  rw [Ty.baseMembers, h]
  rfl

namespace Interface

theorem shape_asObject {i : Interface} (h : (i.members.map (·.name)).Nodup) :
    i.asObject.shape = .object i.members := by
  rw [asObject, Ty.object, Ty.shape_intern, Member.merge_of_nodup h]

theorem asObject_merge (name : String) (ms : List (Member Ty)) :
    asObject ⟨name, Member.merge ms⟩ = Ty.object ms := by
  rw [asObject, Ty.object, Ty.object, Member.merge_of_nodup (Member.nodup_names_merge ms)]

end Interface

namespace Declaration

/-- The members of a checked interface are the sequence of all members that its declaration names,
merged by name. The table that finds names by hashing keeps what the plain search keeps. -/
theorem check_merges_sequence {d : Declaration} {i : Interface} (h : d.check = .ok i) :
    (∀ c ∈ d.bases, c.type.baseMembers = .ok c.members) ∧
    (i.members.map (·.name)).Nodup ∧
    (∀ n, n ∈ i.members.map (·.name) ↔ n ∈ d.sequence.map (·.name)) ∧
    (i.members.Pairwise fun a b =>
      (d.sequence.map (·.name)).idxOf a.name < (d.sequence.map (·.name)).idxOf b.name) ∧
    (∀ m ∈ i.members, d.sequence.findRev? (·.name == m.name) = some m) ∧
    (∀ n, i.member? n = d.sequence.findRev? (·.name == n)) ∧
    i.asObject.shape = .object i.members ∧
    Ty.same i.asObject (Ty.object d.sequence) = true ∧
    ∀ ms, (MemberTable.empty.insertAll ms).toList = Member.merge ms := by
  obtain ⟨hproblems, rfl⟩ := check_eq_ok_iff.1 h
  have hbases := (problems_eq_nil_iff.1 hproblems).1
  have hnodup := Member.nodup_names_merge d.sequence
  have hlast (n : String) := Member.find?_merge d.sequence n
  refine ⟨fun c hc => Clause.baseMembers_eq (hbases c hc), hnodup, fun n => Member.mem_names_merge,
    Member.pairwise_idxOf_merge d.sequence, ?_, hlast, Interface.shape_asObject hnodup, ?_,
    MemberTable.toList_insertAll .empty⟩
  · intro m hm
    rw [← hlast, Member.find?_of_mem_of_nodup hnodup hm]
  · rw [Ty.same_iff, Interface.asObject_merge]

/-- Every way of replacing a member: inside an object as it is given, from clause to clause, from part
to part, and by a field. -/
def shadowing : Declaration where
  name := "D"
  span := ⟨0, 1⟩
  bases :=
    [⟨.intern (.object
        [⟨"a", .primitive .string⟩, ⟨"b", .primitive .number⟩, ⟨"a", .primitive .boolean⟩]), ⟨2, 3⟩⟩,
      ⟨.intersection
        [.object [⟨"b", .primitive .null⟩], .object [⟨"c", .primitive .string⟩]], ⟨4, 5⟩⟩]
  fields := [⟨"c", .primitive .number, ⟨6, 7⟩⟩, ⟨"d", .primitive .any, ⟨8, 9⟩⟩]

def shadowed : Interface where
  name := "D"
  members :=
    [⟨"a", .primitive .boolean⟩, ⟨"b", .primitive .null⟩, ⟨"c", .primitive .number⟩, ⟨"d", .primitive .any⟩]

theorem check_merges_shadowing :
    shadowing.check = .ok shadowed ∧
    (∀ n, shadowed.member? n = shadowing.sequence.findRev? (·.name == n)) ∧
    shadowed.asObject.shape = .object shadowed.members ∧
    Ty.same shadowed.asObject (Ty.object shadowing.sequence) = true := by
  have h : shadowing.check = .ok shadowed := check_eq_ok_iff.2 ⟨rfl, rfl⟩
  obtain ⟨_, _, _, _, _, hfound, hshape, hsame, _⟩ := check_merges_sequence h
  exact ⟨h, hfound, hshape, hsame⟩

end Declaration

end InterfaceCheck
