import Std.Data.HashMap
import InterfaceCheck.Ty.Build

namespace InterfaceCheck

structure MemberTable where
  entries : Array (Member Ty)
  /-- Where the member of a name stands. -/
  slots : Std.HashMap String Nat
  slots_iff : ∀ n i, slots[n]? = some i ↔ ∃ m : Member Ty, entries[i]? = some m ∧ m.name = n

namespace MemberTable

def empty : MemberTable := ⟨#[], ∅, by simp⟩

def insert (t : MemberTable) (m : Member Ty) : MemberTable :=
  match h : t.slots[m.name]? with
  | some i =>
    { entries := t.entries.setIfInBounds i m
      slots := t.slots
      slots_iff := by
        obtain ⟨old, hold, hname⟩ := (t.slots_iff _ _).1 h
        obtain ⟨hi, rfl⟩ := Array.getElem?_eq_some_iff.1 hold
        intro n j
        rw [t.slots_iff, Array.getElem?_setIfInBounds]
        by_cases hj : i = j
        · subst hj
          simp [hi, hname]
        · simp [hj] }
  | none =>
    { entries := t.entries.push m
      slots := t.slots.insert m.name t.entries.size
      slots_iff := by
        intro n j
        rw [Std.HashMap.getElem?_insert, Array.getElem?_push]
        by_cases hj : j = t.entries.size
        · subst hj
          by_cases hn : m.name = n
          · simp [hn]
          · have := (t.slots_iff n t.entries.size).1
            simp [hn] at this ⊢
            simpa using this
        · by_cases hn : m.name = n
          · subst hn
            have := (t.slots_iff m.name j).2
            simp [h, hj, Ne.symm hj] at this ⊢
            exact this
          · simp [hn, hj, t.slots_iff] }

def insertAll (t : MemberTable) (ms : List (Member Ty)) : MemberTable := ms.foldl insert t

def toList (t : MemberTable) : List (Member Ty) := t.entries.toList

theorem insertAll_append (t : MemberTable) (ms ns : List (Member Ty)) :
    t.insertAll (ms ++ ns) = (t.insertAll ms).insertAll ns :=
  List.foldl_append

theorem eq_of_name_eq (t : MemberTable) {i j : Nat} {m n : Member Ty} (hi : t.entries[i]? = some m)
    (hj : t.entries[j]? = some n) (h : m.name = n.name) : i = j := by
  have hm := (t.slots_iff _ _).2 ⟨m, hi, rfl⟩
  have hn := (t.slots_iff _ _).2 ⟨n, hj, h.symm⟩
  exact Option.some.inj (hm.symm.trans hn)

theorem toList_insert (t : MemberTable) (m : Member Ty) :
    (t.insert m).toList = Member.put m t.toList := by
  unfold insert toList
  split
  · rename_i i h
    obtain ⟨old, hold, hname⟩ := (t.slots_iff _ _).1 h
    rw [Array.toList_setIfInBounds]
    refine (Member.put_eq_set (by simpa using hold) hname fun j hj y hy he => ?_).symm
    exact Nat.ne_of_lt hj (t.eq_of_name_eq (by simpa using hy) hold (he.trans hname.symm))
  · rename_i h
    rw [Array.toList_push, Member.put_of_notMem]
    intro hm
    obtain ⟨x, hx, hn⟩ := List.mem_map.1 hm
    obtain ⟨i, hi⟩ := List.getElem?_of_mem hx
    have := (t.slots_iff m.name i).2 ⟨x, by simpa using hi, hn⟩
    simp [h] at this

theorem toList_insertAll (t : MemberTable) (ms : List (Member Ty)) :
    (t.insertAll ms).toList = ms.foldl (fun kept m => Member.put m kept) t.toList := by
  induction ms generalizing t with
  | nil => rfl
  | cons m ms ih => rw [insertAll, List.foldl_cons, ← insertAll, ih, toList_insert, List.foldl_cons]

end MemberTable

end InterfaceCheck
