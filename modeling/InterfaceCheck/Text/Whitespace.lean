import InterfaceCheck.Text.CodePoints

namespace InterfaceCheck.Text

/-- The property `White_Space`. -/
def whitespace : CodePoints where
  ranges :=
    [(0x09, 0x0d), (0x20, 0x20), (0x85, 0x85), (0xa0, 0xa0), (0x1680, 0x1680), (0x2000, 0x200a),
     (0x2028, 0x2029), (0x202f, 0x202f), (0x205f, 0x205f), (0x3000, 0x3000)]
  ascending := by decide

def isWhitespace (c : Char) : Bool := whitespace.contains c

def trimRight (cs : List Char) : List Char := (cs.reverse.dropWhile isWhitespace).reverse

theorem exists_trimRight_append (cs : List Char) :
    ∃ blanks, cs = trimRight cs ++ blanks ∧ ∀ c ∈ blanks, isWhitespace c = true := by
  refine ⟨(cs.reverse.takeWhile isWhitespace).reverse, ?_, ?_⟩
  · rw [trimRight, ← List.reverse_append, List.takeWhile_append_dropWhile, List.reverse_reverse]
  · intro c hc
    exact List.all_eq_true.1 List.all_takeWhile c (List.mem_reverse.1 hc)

theorem isWhitespace_getLast?_trimRight (cs : List Char) :
    ∀ c ∈ (trimRight cs).getLast?, isWhitespace c = false := by
  intro c hc
  rw [trimRight, List.getLast?_reverse] at hc
  have hhead := List.head?_dropWhile_not isWhitespace cs.reverse
  rw [Option.mem_def.1 hc] at hhead
  simpa using hhead

end InterfaceCheck.Text
