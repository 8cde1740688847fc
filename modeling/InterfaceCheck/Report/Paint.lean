namespace InterfaceCheck.Report

inductive Colour where
  | red
  | numbered (n : Nat)
  deriving DecidableEq

structure Piece where
  colour : Option Colour
  text : String
  deriving DecidableEq

abbrev Painting := List Piece

inductive Style where
  | plain
  | coloured
  deriving DecidableEq

def bare (text : String) : Piece := ⟨none, text⟩

def repeated (n : Nat) (c : Char) : String := String.ofList (List.replicate n c)

def Colour.paint (c : Colour) (text : String) : Piece := ⟨some c, text⟩

def Colour.code : Colour → String
  | red => "31"
  | numbered n => "38;5;" ++ n.repr

def Piece.write (style : Style) (p : Piece) : String :=
  match style, p.colour with
  | .coloured, some c => "\x1b[" ++ c.code ++ "m" ++ p.text ++ "\x1b[0m"
  | _, _ => p.text

def Painting.write (style : Style) (p : Painting) : String := String.join (p.map (Piece.write style))

/-- The number of the `i`-th label colour. The sequence is that of ariadne 0.6.0 without its first colour: red,
green and blue go round in steps of their own, so that neighbours differ much, and each keeps to the upper
half of its scale. -/
def labelColour (i : Nat) : Nat :=
  let level (start step : Nat) := 65535 + (start + 40503 * step * (i + 2)) % 65536
  16 + (180 * level 30000 1130 + 30 * level 15000 1134 + 5 * level 35000 1138) / 131070

end InterfaceCheck.Report
