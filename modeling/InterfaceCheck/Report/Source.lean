/-!
A source text as ariadne 0.6.0 reads it: which characters end a line, and where an offset is found. Offsets
count characters from the start of the text.
-/

namespace InterfaceCheck.Report

/-- A line with its terminator. It starts at offset `start`. -/
structure Line where
  start : Nat
  text : List Char

namespace Line

def length (l : Line) : Nat := l.text.length

def stop (l : Line) : Nat := l.start + l.length

def holds (l : Line) (offset : Nat) : Bool := l.start ≤ offset && offset < l.stop

end Line

/-- The characters that end a line. A carriage return and a line feed after it end one line together. -/
def isTerminator (c : Char) : Bool :=
  c == '\n' || c == '\r' || c == '\x0b' || c == '\x0c' || c == '\u0085' || c == '\u2028' || c == '\u2029'

def splitLines : List Char → List (List Char)
  | [] => []
  | '\r' :: '\n' :: cs => ['\r', '\n'] :: splitLines cs
  | c :: cs =>
    if isTerminator c then [c] :: splitLines cs
    else
      match splitLines cs with
      | [] => [[c]]
      | l :: ls => (c :: l) :: ls

theorem flatten_splitLines (cs : List Char) : (splitLines cs).flatten = cs := by
  fun_induction splitLines cs with
  | case1 => rfl
  | case2 cs ih => simp [ih]
  | case3 c cs _ h ih => simp [ih]
  | case4 c cs _ h hs ih => simpa [hs] using ih
  | case5 c cs _ h l ls hs ih => simpa [hs] using ih

def placeLines (start : Nat) : List (List Char) → List Line
  | [] => []
  | cs :: rest => ⟨start, cs⟩ :: placeLines (start + cs.length) rest

structure Source where
  lines : List Line
  length : Nat

/-- Where a character stands: the index of its line, and its index in the line. -/
structure Place where
  line : Nat
  column : Nat

namespace Source

def ofString (s : String) : Source where
  lines := if s.isEmpty then [⟨0, []⟩] else placeLines 0 (splitLines s.toList)
  length := s.length

def place? (s : Source) (offset : Nat) : Option Place :=
  if s.length < offset then none
  else (s.lines.zipIdx.reverse.find? (·.1.start ≤ offset)).map fun (l, i) => ⟨i, offset - l.start⟩

end Source

end InterfaceCheck.Report
