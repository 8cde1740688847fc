import Mathlib.Data.List.FinRange
import Mathlib.Data.List.ReduceOption
import InterfaceCheck.Proofs.Merge

namespace InterfaceCheck

theorem findRev?_append {α : Type} (p : α → Bool) (xs ys : List α) :
    (xs ++ ys).findRev? p = (ys.findRev? p).or (xs.findRev? p) := by
  simp only [List.findRev?_eq_find?_reverse, List.reverse_append, List.find?_append]

theorem findRev?_flatMap {α β : Type} (p : β → Bool) (f : α → List β) (xs : List α) :
    (xs.flatMap f).findRev? p = xs.reverse.findSome? fun x => (f x).findRev? p := by
  simp only [List.findRev?_eq_find?_reverse, List.reverse_flatMap, List.find?_flatMap, Function.comp_apply]

theorem findSome?_eq_of_perm {α β : Type} {f : α → Option β} {xs ys : List α} (hperm : xs.Perm ys)
    (halike : ∀ x ∈ xs, ∀ y ∈ xs, ∀ a b, f x = some a → f y = some b → a = b) :
    xs.findSome? f = ys.findSome? f := by
  cases hx : xs.findSome? f with
  | none =>
      rw [List.findSome?_eq_none_iff] at hx
      symm
      apply List.findSome?_eq_none_iff.2
      intro y hy
      exact hx y (hperm.mem_iff.2 hy)
  | some a =>
      obtain ⟨x, hxs, hxa⟩ := List.exists_of_findSome?_eq_some hx
      cases hy : ys.findSome? f with
      | none =>
          have := List.findSome?_eq_none_iff.1 hy x (hperm.mem_iff.1 hxs)
          rw [hxa] at this
          cases this
      | some b =>
          obtain ⟨y, hys, hyb⟩ := List.exists_of_findSome?_eq_some hy
          exact congrArg some (halike x hxs y (hperm.mem_iff.2 hys) a b hxa hyb)

theorem Member.name_of_findRev? {ms : List (Member Ty)} {m : Member Ty} {n : String}
    (h : ms.findRev? (·.name == n) = some m) : m.name = n := by
  rw [List.findRev?_eq_find?_reverse] at h
  have hname := List.find?_some h
  exact beq_iff_eq.1 hname

namespace Declaration

variable {d : Declaration}

/-- All clauses that have a member of the name end with the same type for it. -/
def Agrees (d : Declaration) (n : String) : Prop := ∀ b ∈ d.bases, ∀ c ∈ d.bases, ∀ m m',
  b.members.findRev? (·.name == n) = some m → c.members.findRev? (·.name == n) = some m' → m.type = m'.type

/-- The declaration with its clauses in another order: the one at place `σ i` comes to place `i`. -/
def reorder (d : Declaration) (σ : Equiv.Perm (Fin d.bases.length)) : Declaration :=
  { d with bases := List.ofFn (d.bases.get ∘ σ) }

def baseError? (d : Declaration) (i : Fin d.bases.length) : Option CheckError :=
  (d.bases.get i).problem?.map (CheckError.mk d.name)

theorem perm_reorder (d : Declaration) (σ : Equiv.Perm (Fin d.bases.length)) :
    (d.reorder σ).bases.Perm d.bases := by
  have h := σ.ofFn_comp_perm d.bases.get
  rwa [List.ofFn_get] at h

theorem map_filterMap_ofFn {n : Nat} (g : Fin n → Clause) (name : String) :
    ((List.ofFn g).filterMap Clause.problem?).map (CheckError.mk name) =
      (List.ofFn fun i => (g i).problem?.map (CheckError.mk name)).reduceOption := by
  have hmap : (List.ofFn fun i => (g i).problem?.map (CheckError.mk name)) =
      (List.ofFn g).map fun c => c.problem?.map (CheckError.mk name) := by
    rw [List.map_ofFn]
    rfl
  rw [hmap, List.reduceOption, List.filterMap_map, List.map_filterMap]
  rfl

theorem perm_sequence_reorder (d : Declaration) (σ : Equiv.Perm (Fin d.bases.length)) :
    (d.reorder σ).sequence.Perm d.sequence :=
  ((d.perm_reorder σ).flatMap_right _).append_right _

theorem findRev?_members_reorder (σ : Equiv.Perm (Fin d.bases.length)) {n : String} (h : d.Agrees n) :
    ((d.reorder σ).bases.flatMap Clause.members).findRev? (·.name == n) =
      (d.bases.flatMap Clause.members).findRev? (·.name == n) := by
  have hperm : (d.reorder σ).bases.reverse.Perm d.bases.reverse :=
    (List.reverse_perm _).trans ((d.perm_reorder σ).trans (List.reverse_perm _).symm)
  have hmem {c : Clause} (hc : c ∈ (d.reorder σ).bases.reverse) : c ∈ d.bases :=
    List.mem_reverse.1 (hperm.mem_iff.1 hc)
  rw [findRev?_flatMap, findRev?_flatMap]
  apply findSome?_eq_of_perm hperm
  intro b hb c hc m m' hm hm'
  have htype := h b (hmem hb) c (hmem hc) m m' hm hm'
  calc m = ⟨m.name, m.type⟩ := rfl
    _ = ⟨m'.name, m'.type⟩ := by rw [Member.name_of_findRev? hm, Member.name_of_findRev? hm', htype]

theorem findRev?_sequence_reorder (σ : Equiv.Perm (Fin d.bases.length)) {n : String}
    (h : n ∈ d.fields.map (·.name) ∨ d.Agrees n) :
    (d.reorder σ).sequence.findRev? (·.name == n) = d.sequence.findRev? (·.name == n) := by
  have hfields : (d.reorder σ).fields = d.fields := rfl
  rw [sequence, sequence, findRev?_append, findRev?_append, hfields]
  rcases h with h | h
  · -- A field of the name comes after all clauses.
    obtain ⟨f, hf, rfl⟩ := List.mem_map.1 h
    have hown : ((d.fields.map Field.member).findRev? (·.name == f.name)).isSome := by
      rw [List.findRev?_eq_find?_reverse, List.find?_isSome]
      exact ⟨f.member, List.mem_reverse.2 (List.mem_map_of_mem hf), beq_self_eq_true f.name⟩
    rw [Option.or_of_isSome hown, Option.or_of_isSome hown]
  · rw [findRev?_members_reorder σ h]

theorem problems_reorder_eq_nil_iff (σ : Equiv.Perm (Fin d.bases.length)) :
    (d.reorder σ).problems = [] ↔ d.problems = [] := by
  rw [problems_eq_nil_iff, problems_eq_nil_iff]
  apply and_congr_left'
  exact forall_congr' fun c => imp_congr_left (d.perm_reorder σ).mem_iff

/-- A declaration with its clauses in another order is sound if it was, and what is wrong with it stays,
with the errors of the clauses in the new order. Its members have the same names, and a member has the
same type if it is a field or the clauses agree on it. -/
theorem check_reorders_bases (d : Declaration) (σ : Equiv.Perm (Fin d.bases.length)) :
    ((∃ i, d.check = .ok i) ↔ ∃ i', (d.reorder σ).check = .ok i') ∧
    (∀ es, d.check = .error es → ∃ es', (d.reorder σ).check = .error es' ∧
      es.filter (·.problem.isInvalidBase) = (List.ofFn d.baseError?).reduceOption ∧
      es'.filter (·.problem.isInvalidBase) = (List.ofFn (d.baseError? ∘ σ)).reduceOption ∧
      es'.filter (!·.problem.isInvalidBase) = es.filter (!·.problem.isInvalidBase)) ∧
    ∀ i, d.check = .ok i → ∃ i', (d.reorder σ).check = .ok i' ∧
      (∀ n, n ∈ i'.members.map (·.name) ↔ n ∈ i.members.map (·.name)) ∧
      ∀ n, n ∈ d.fields.map (·.name) ∨ d.Agrees n → i'.member? n = i.member? n := by
  refine ⟨?_, ?_, ?_⟩
  · simp only [check_eq_ok_iff, exists_and_left, exists_eq, and_true, problems_reorder_eq_nil_iff]
  · intro es h
    obtain ⟨hne, rfl⟩ := check_eq_error_iff.1 h
    refine ⟨_, check_eq_error_iff.2 ⟨mt (problems_reorder_eq_nil_iff σ).1 hne, rfl⟩, ?_⟩
    simp only [List.filter_map, Function.comp_def]
    refine ⟨?_, ?_, ?_⟩
    · rw [filter_isInvalidBase_problems]
      have hbases := map_filterMap_ofFn d.bases.get d.name
      rw [List.ofFn_get] at hbases
      exact hbases
    · rw [filter_isInvalidBase_problems]
      exact map_filterMap_ofFn (d.bases.get ∘ σ) d.name
    · rw [filter_not_isInvalidBase_problems, filter_not_isInvalidBase_problems]
      rfl
  · intro i h
    obtain ⟨hnil, rfl⟩ := check_eq_ok_iff.1 h
    refine ⟨_, check_eq_ok_iff.2 ⟨(problems_reorder_eq_nil_iff σ).2 hnil, rfl⟩, ?_, ?_⟩
    · intro n
      rw [Member.mem_names_merge, Member.mem_names_merge]
      exact ((d.perm_sequence_reorder σ).map _).mem_iff
    · intro n hn
      rw [Interface.member?, Interface.member?, Member.find?_merge, Member.find?_merge]
      exact findRev?_sequence_reorder σ hn

def rivals : Declaration where
  name := "D"
  span := ⟨0, 1⟩
  bases :=
    [⟨.object [⟨"a", .primitive .string⟩, ⟨"b", .param 0⟩, ⟨"c", .primitive .void⟩], ⟨2, 3⟩⟩,
      ⟨.intern (.object [⟨"b", .primitive .any⟩, ⟨"a", .primitive .number⟩, ⟨"b", .param 0⟩]), ⟨4, 5⟩⟩]
  fields := [⟨"c", .primitive .null, ⟨6, 7⟩⟩]

def swap : Equiv.Perm (Fin rivals.bases.length) := Equiv.swap ⟨0, by decide⟩ ⟨1, by decide⟩

def rivalsChecked : Interface :=
  ⟨"D", [⟨"a", .primitive .number⟩, ⟨"b", .param 0⟩, ⟨"c", .primitive .null⟩]⟩

def rivalsSwapped : Interface :=
  ⟨"D", [⟨"b", .param 0⟩, ⟨"a", .primitive .string⟩, ⟨"c", .primitive .null⟩]⟩

theorem check_reorders_rivals :
    rivals.check = .ok rivalsChecked ∧ (rivals.reorder swap).check = .ok rivalsSwapped ∧
    rivalsSwapped.member? "a" ≠ rivalsChecked.member? "a" ∧
    rivalsSwapped.member? "c" = rivalsChecked.member? "c" := by
  have h : rivals.check = .ok rivalsChecked := check_eq_ok_iff.2 ⟨by decide, by decide⟩
  have h' : (rivals.reorder swap).check = .ok rivalsSwapped := check_eq_ok_iff.2 ⟨by decide, by decide⟩
  obtain ⟨_, _, hsound⟩ := check_reorders_bases rivals swap
  obtain ⟨i', hi', _, hsame⟩ := hsound _ h
  obtain rfl := Except.ok.inj (hi'.symm.trans h')
  exact ⟨h, h', by decide, hsame "c" (.inl (by decide))⟩

end Declaration

end InterfaceCheck
