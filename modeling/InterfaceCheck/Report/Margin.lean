import InterfaceCheck.Report.Annotation

/-!
The margin to the left of the source, as ariadne 0.6.0 draws it. Every rail has a column of two cells, and
one more column leads to the text.
-/

namespace InterfaceCheck.Report

def ruleColour : Colour := .numbered 246

def faintColour : Colour := .numbered 240

def numberGutter (digits index : Nat) : Painting :=
  let number := (index + 1).repr
  [bare " ", ruleColour.paint (repeated (digits - number.length) ' ' ++ number ++ " │"), bare " "]

def blankGutter (digits : Nat) (elided : Bool) : Painting :=
  [bare " ", faintColour.paint (repeated (digits + 1) ' ' ++ if elided then "┆" else "│"), bare " "]

/-- The two rows that are drawn for a mark: one with stems down from the line, and one with an arrow
from the mark. -/
inductive Stage where
  | stem
  | arrow
  deriving DecidableEq

inductive Strand where
  | absent
  | passing
  | turning
  deriving DecidableEq

def blankCells : Painting := [bare " ", bare " "]

def railCells (rails : List Label) (cells : Nat → Painting) : Painting :=
  if rails.isEmpty then [] else (List.range (rails.length + 1)).flatMap cells

namespace AnnotatedLine

def meets (a : AnnotatedLine) (l : Label) : Bool := l.start ≤ a.line.stop && a.line.start < l.stop

def sourceCells (a : AnnotatedLine) (elided : Bool) (col : Nat) : Painting :=
  -- A rail that comes down from above goes on, even where the arrow of the pointer runs.
  let passing := a.rails[col]?.filter fun l =>
    a.meets l && !a.isPointed l && !a.line.holds l.start
  match passing, a.pointer.filter fun p => (a.rails.take (col + 1)).any p.label.is with
  | some l, _ => [l.paint (if elided then "┆" else "│"), bare " "]
  | none, some p =>
    match a.rails[col]? with
    | none => [p.label.paint "▶", p.label.paint " "]
    | some l =>
      let joint := if p.label.is l then (if p.anchor = .opening then "╭" else "├") else "─"
      [p.label.paint joint, p.label.paint "─"]
  | none, none => blankCells

/-- How a rail passes through the given stage of the `row`-th mark. It starts or ends at the arrow of its
own mark if it opens or closes in the line. -/
def strand (a : AnnotatedLine) (row : Nat) (stage : Stage) (l : Label) : Strand :=
  let own := a.marks.findIdx (·.label.is l)
  let atArrow := row == own && stage == .arrow
  if !a.meets l then .absent
  else if a.line.holds l.start then
    -- The rail of the pointer has started in the row of the line itself.
    if a.isPointed l || own < row then .passing else if atArrow then .turning else .absent
  else if a.line.holds l.last then
    if own < row then .absent else if atArrow then .turning else .passing
  else .passing

def noteCells (a : AnnotatedLine) (row : Nat) (stage : Stage) (col : Nat) : Painting :=
  let turning l := a.strand row stage l == .turning
  -- A rail that turns runs to the right, across the others.
  match a.rails[col]?.filter turning, (a.rails.take col).find? turning with
  | some l, _ => [l.paint (if a.line.holds l.start then "╭" else "╰"), l.paint "─"]
  | none, some l => [l.paint "─", l.paint "─"]
  | none, none =>
    match a.rails[col]?.filter fun l => a.strand row stage l == .passing with
    | some l => [l.paint "│", bare " "]
    | none => blankCells

def sourceMargin (a : AnnotatedLine) (digits : Nat) (elided : Bool) : Painting :=
  (if elided then blankGutter digits true else numberGutter digits a.index) ++
    railCells a.rails (a.sourceCells elided)

def noteMargin (a : AnnotatedLine) (digits row : Nat) (stage : Stage) : Painting :=
  blankGutter digits false ++ railCells a.rails (a.noteCells row stage)

end AnnotatedLine

end InterfaceCheck.Report
