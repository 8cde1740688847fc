namespace InterfaceCheck

/-- A range of a source text, counted in bytes of its UTF-8 encoding. -/
structure Span where
  start : Nat
  stop : Nat
  deriving DecidableEq

instance : Inhabited Span := ⟨⟨0, 0⟩⟩

namespace Span

/-- Splits a text after its first `n` bytes, unless it is shorter or a character stands across. -/
def cut? : Nat → List Char → Option (List Char × List Char)
  | 0, cs => some ([], cs)
  | _ + 1, [] => none
  | n + 1, c :: cs =>
    if c.utf8Size ≤ n + 1 then
      (cut? (n + 1 - c.utf8Size) cs).map fun (taken, rest) => (c :: taken, rest)
    else none

def utf8Length : List Char → Nat
  | [] => 0
  | c :: cs => c.utf8Size + utf8Length cs

theorem cut?_utf8Length_add (before cs : List Char) (n : Nat) :
    cut? (utf8Length before + n) (before ++ cs) =
      (cut? n cs).map fun (taken, rest) => (before ++ taken, rest) := by
  induction before with
  | nil => simp [utf8Length]
  | cons c before ih =>
      have hpos := c.utf8Size_pos
      rw [utf8Length, List.cons_append]
      obtain ⟨m, hm⟩ : ∃ m, c.utf8Size + utf8Length before + n = m + 1 :=
        ⟨_, (Nat.sub_add_cancel (by omega)).symm⟩
      have hrest : m + 1 - c.utf8Size = utf8Length before + n := by omega
      rw [hm, cut?, if_pos (by omega), hrest, ih, Option.map_map]
      rfl

theorem cut?_append (taken rest : List Char) :
    cut? (utf8Length taken) (taken ++ rest) = some (taken, rest) := by
  have h := cut?_utf8Length_add taken rest 0
  simpa only [Nat.add_zero, cut?, Option.map_some, List.append_nil] using h

theorem cut?_eq_some_iff {n : Nat} {cs taken rest : List Char} :
    cut? n cs = some (taken, rest) ↔ cs = taken ++ rest ∧ utf8Length taken = n := by
  constructor
  · intro h
    fun_induction cut? n cs generalizing taken with
    | case1 cs =>
        obtain ⟨rfl, rfl⟩ := Prod.mk.inj (Option.some.inj h)
        exact ⟨rfl, rfl⟩
    | case2 => cases h
    | case3 n c cs hle ih =>
        obtain ⟨⟨taken', rest'⟩, hcut, heq⟩ := Option.map_eq_some_iff.1 h
        obtain ⟨rfl, rfl⟩ := Prod.mk.inj heq
        obtain ⟨rfl, hlength⟩ := ih hcut
        refine ⟨rfl, ?_⟩
        rw [utf8Length, hlength]
        omega
    | case4 => cases h
  · rintro ⟨rfl, rfl⟩
    exact cut?_append taken rest

def textIn? (s : Span) (source : String) : Option String := do
  if s.stop < s.start then none
  else
    let (_, rest) ← cut? s.start source.toList
    let (taken, _) ← cut? (s.stop - s.start) rest
    some (String.ofList taken)

def dump (s : Span) : String := "Span(" ++ s.start.repr ++ ".." ++ s.stop.repr ++ ")"

end Span

end InterfaceCheck
