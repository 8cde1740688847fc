import InterfaceCheck.Text.Combining
import InterfaceCheck.Text.Ignorable
import InterfaceCheck.Text.Whitespace
import InterfaceCheck.Text.Wide

namespace InterfaceCheck.Text

/-- The vowels and final consonants of Hangul, which share the cell of the initial before them. -/
def joiningJamo : CodePoints where
  ranges := [(0x1160, 0x11ff), (0xd7b0, 0xd7c6), (0xd7cb, 0xd7fb)]
  ascending := by decide

/-- Marks that share the cell of the character after them: signs drawn over numbers and words,
consonants drawn over the next one, and the caret of Devanagari. -/
def leadingMarks : CodePoints where
  ranges :=
    [(0x605, 0x605), (0x70f, 0x70f), (0x890, 0x891), (0x8e2, 0x8e2), (0xd4e, 0xd4e),
     (0xa8fa, 0xa8fa), (0x111c2, 0x111c3), (0x113d1, 0x113d1), (0x1193f, 0x1193f),
     (0x11941, 0x11941), (0x11a84, 0x11a89), (0x11d46, 0x11d46), (0x11f02, 0x11f02)]
  ascending := by decide

def takesNoColumn (c : Char) : Bool :=
  isCombining c || isIgnorable c || joiningJamo.contains c || leadingMarks.contains c

/-- Four signs stand outside the tables. U+17D8 is written as three letters and U+17A4 as two; U+115F
begins a syllable and keeps the two columns of it; U+2D7F is seen where it joins nothing. -/
def width (c : Char) : Nat :=
  if c.toNat = 0x17d8 then 3
  else if c.toNat = 0x17a4 || c.toNat = 0x115f then 2
  else if c.toNat = 0x2d7f then 1
  else if takesNoColumn c then 0
  else if wide.contains c then 2
  else 1

def tabStop : Nat := 4

def widthAt (col : Nat) (c : Char) : Nat :=
  if c = '\t' then (col / tabStop + 1) * tabStop - col
  else if isWhitespace c then 1
  else width c

end InterfaceCheck.Text
