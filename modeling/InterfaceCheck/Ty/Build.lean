import InterfaceCheck.Ty.Equality

namespace InterfaceCheck

namespace Member

variable {α : Type}

/-- Sets the type of the name `m.name`: in place if the name is there, else at the end. -/
def put (m : Member α) : List (Member α) → List (Member α)
  | [] => [m]
  | x :: xs => if x.name = m.name then ⟨x.name, m.type⟩ :: xs else x :: put m xs

/-- One member per name, at the place of the first and with the type of the last of that name. -/
def merge (ms : List (Member α)) : List (Member α) := ms.foldl (fun kept m => put m kept) []

theorem map_name_put (m : Member α) (xs : List (Member α)) :
    (put m xs).map (·.name) =
      if m.name ∈ xs.map (·.name) then xs.map (·.name) else xs.map (·.name) ++ [m.name] := by
  induction xs with
  | nil => rfl
  | cons x xs ih =>
      by_cases h : x.name = m.name
      · simp [put, h]
      · simp only [put, h, if_false, List.map_cons, ih, List.mem_cons, Ne.symm h, false_or]
        split <;> rfl

theorem put_of_notMem {m : Member α} {xs : List (Member α)} (h : m.name ∉ xs.map (·.name)) :
    put m xs = xs ++ [m] := by
  induction xs with
  | nil => rfl
  | cons x xs ih =>
      simp only [List.map_cons, List.mem_cons, not_or] at h
      simp only [put, Ne.symm h.1, if_false, ih h.2, List.cons_append]

theorem put_eq_set {m x : Member α} {xs : List (Member α)} {i : Nat} (hi : xs[i]? = some x)
    (hx : x.name = m.name) (first : ∀ j < i, ∀ y, xs[j]? = some y → y.name ≠ m.name) :
    put m xs = xs.set i m := by
  induction xs generalizing i with
  | nil => simp at hi
  | cons y ys ih =>
      cases i with
      | zero =>
          obtain rfl : y = x := by simpa using hi
          simp [put, hx]
      | succ i =>
          have hy : y.name ≠ m.name := first 0 (Nat.succ_pos i) y rfl
          have hrest : put m ys = ys.set i m :=
            ih (by simpa using hi) fun j hj z hz => first (j + 1) (Nat.succ_lt_succ hj) z (by simpa using hz)
          simp only [put, hy, if_false, List.set_cons_succ, hrest]

theorem mem_of_mem_put {m x : Member α} {xs : List (Member α)} (h : x ∈ put m xs) : x = m ∨ x ∈ xs := by
  induction xs with
  | nil => exact .inl (by simpa [put] using h)
  | cons y ys ih =>
      by_cases hy : y.name = m.name
      · simp only [put, hy, if_true, List.mem_cons] at h
        exact h.imp_right (List.mem_cons_of_mem y)
      · simp only [put, hy, if_false, List.mem_cons] at h
        rcases h with rfl | h
        · exact .inr List.mem_cons_self
        · exact (ih h).imp_right (List.mem_cons_of_mem y)

theorem mem_of_mem_merge {m : Member α} {ms : List (Member α)} (h : m ∈ merge ms) : m ∈ ms := by
  suffices hfold : ∀ kept, m ∈ ms.foldl (fun kept m => put m kept) kept → m ∈ kept ∨ m ∈ ms by
    exact (hfold [] h).resolve_left List.not_mem_nil
  clear h
  induction ms with
  | nil => exact fun kept h => .inl h
  | cons x ms ih =>
      intro kept h
      rcases ih _ h with h | h
      · rcases mem_of_mem_put h with rfl | h
        · exact .inr List.mem_cons_self
        · exact .inl h
      · exact .inr (List.mem_cons_of_mem x h)

end Member

namespace Ty

def param (index : UInt16) : Ty := intern (.param index)

def primitive (p : Primitive) : Ty := intern (.primitive p)

def array (elem : Ty) : Ty := intern (.array elem)

def function (params : List Ty) (result : Ty) : Ty := intern (.function params result)

def object (members : List (Member Ty)) : Ty := intern (.object (Member.merge members))

def emptyObject : Ty := object []

def intersection (parts : List Ty) : Ty := intern (.intersection parts)

mutual

/-- Extends a list of distinct alternatives. A union contributes its own alternatives, at any depth,
and a type that is there already contributes nothing. -/
def addAlternative : List Ty → Ty → List Ty
  | found, ⟨.union ts, _⟩ => addAlternatives found ts
  | found, t => if found.any (same · t) then found else found ++ [t]
termination_by structural _ t => t

def addAlternatives : List Ty → List Ty → List Ty
  | found, [] => found
  | found, t :: ts => addAlternatives (addAlternative found t) ts
termination_by structural _ ts => ts

end

/-- The union of the given types: `never` if no alternative is left, and a single one itself. -/
def union (ts : List Ty) : Ty :=
  match addAlternatives [] ts with
  | [] => primitive .never
  | [t] => t
  | alternatives => intern (.union alternatives)

theorem addAlternative_of_ne {found : List Ty} {t : Ty} (h : t.kind ≠ .union) :
    addAlternative found t = if found.any (same · t) then found else found ++ [t] := by
  rcases t with ⟨s, f⟩
  cases s with
  | union ts => exact absurd rfl h
  | param | primitive | array | function | object | intersection => rfl

theorem addAlternatives_append (found ts us : List Ty) :
    addAlternatives found (ts ++ us) = addAlternatives (addAlternatives found ts) us := by
  induction ts generalizing found with
  | nil => rfl
  | cons t ts ih => simp only [List.cons_append, addAlternatives, ih]

end Ty

end InterfaceCheck
