import InterfaceCheck.Report.Margin
import InterfaceCheck.Text.Width

/-!
The rows that show one line and its marks, as ariadne 0.6.0 draws them.
-/

namespace InterfaceCheck.Report

def textColour : Colour := .numbered 249

def endRow : Piece := bare "\n"

def fill (columns : Nat) (first rest : Piece) : Painting :=
  if columns = 0 then [] else first :: List.replicate (columns - 1) rest

namespace AnnotatedLine

def shown (a : AnnotatedLine) : List Char := Text.trimRight a.line.text

def colouring (a : AnnotatedLine) : List Label :=
  a.pointer.toList.map (·.label) ++ a.rails ++ a.marks.map (·.label)

def characterColour (a : AnnotatedLine) (col : Nat) : Colour :=
  ((Label.shortest? a.colouring (a.line.start + col)).map (·.colour)).getD textColour

def drawCharacter (a : AnnotatedLine) (c : Char) (col : Nat) : Painting :=
  let colour := a.characterColour col
  if c = '\t' then List.replicate (Text.widthAt col c) (colour.paint " ")
  else if Text.isWhitespace c then [colour.paint " "]
  else [colour.paint (String.singleton c)]

def drawText (a : AnnotatedLine) : Painting :=
  (a.shown.mapIdx fun col c => a.drawCharacter c col).flatten

/-- How many characters of the line the rows below it reach over. -/
def noteLength (a : AnnotatedLine) : Nat :=
  let reach (m : Mark) := if m.isInline then m.label.stop - a.line.start else a.line.length
  (a.marks.map reach).max?.getD 0 + 2

def noteWidths (a : AnnotatedLine) : List Nat :=
  -- The rows reach over the end of the text, where each character takes one column.
  (a.shown.mapIdx Text.widthAt ++ List.replicate a.noteLength 1).take a.noteLength

def stem? (a : AnnotatedLine) (row col : Nat) : Option Mark :=
  (a.marks.drop row).find? fun m => m.column == col && !a.isPointed m.label

def underline? (a : AnnotatedLine) (row col : Nat) : Option Label :=
  if row = 0 then Label.shortest? ((a.marks.filter (·.isInline)).map (·.label)) (a.line.start + col)
  else none

def stemCell (a : AnnotatedLine) (row col columns : Nat) : Painting :=
  let cell := fill columns
  match a.stem? row col, a.underline? row col with
  | some m, some _ => cell (m.label.paint "┬") (m.label.paint "─")
  | some m, none =>
    -- In the first row the stem of a label over several lines points up to its end.
    cell (m.label.paint (if !m.isInline && row = 0 then "▲" else "│")) (m.label.paint " ")
  | none, some l => cell (l.paint "─") (l.paint "─")
  | none, none => cell (bare " ") (bare " ")

def arrowCell (a : AnnotatedLine) (row : Nat) (m : Mark) (col columns : Nat) : Painting :=
  let cell := fill columns
  if col = m.column && !a.isPointed m.label then
    cell (m.label.paint m.corner) (m.label.paint "─")
  else if m.crosses col then cell (m.label.paint "─") (m.label.paint "─")
  else
    -- Stems of later marks go on where the arrow does not run.
    match a.stem? row col with
    | some v => cell (v.label.paint "│") (m.label.paint " ")
    | none => cell (bare " ") (bare " ")

def drawMark (a : AnnotatedLine) (digits row : Nat) (m : Mark) : Painting :=
  a.noteMargin digits row .stem ++ (a.noteWidths.mapIdx (a.stemCell row)).flatten ++ [endRow] ++
    a.noteMargin digits row .arrow ++ (a.noteWidths.mapIdx (a.arrowCell row m)).flatten ++
    (if m.bearsText then [bare " ", bare m.label.message] else []) ++ [endRow]

def draw (a : AnnotatedLine) (digits : Nat) : Painting :=
  a.sourceMargin digits false ++ a.drawText ++ [endRow] ++ (a.marks.mapIdx (a.drawMark digits)).flatten

def drawIdle (a : AnnotatedLine) (digits : Nat) : Painting :=
  (if a.isSpanned then a.sourceMargin digits true else blankGutter digits false) ++ [endRow]

/-- The rows of consecutive lines. Of lines without anything to show only the first of a run is drawn;
`idle` says whether the line before was one. -/
def drawAll (digits : Nat) (idle : Bool) : List AnnotatedLine → Painting
  | [] => []
  | a :: rest =>
    if a.isBusy then a.draw digits ++ drawAll digits false rest
    else (if idle then [] else a.drawIdle digits) ++ drawAll digits true rest

end AnnotatedLine

end InterfaceCheck.Report
