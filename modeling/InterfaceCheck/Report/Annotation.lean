import InterfaceCheck.Report.Label

/-!
What the labels of a group have to show in one line, as ariadne 0.6.0 arranges it.
-/

namespace InterfaceCheck.Report

/-- Which part of a label meets the line: its first or its last character if it runs over several
lines, and else the whole label. -/
inductive Anchor where
  | opening
  | closing
  | inline
  deriving DecidableEq

structure Mark where
  column : Nat
  anchor : Anchor
  label : Label

namespace Mark

/-- The end in the line of a label over several lines. Its two ends are never in the same line. -/
def ofRail? (line : Line) (l : Label) : Option Mark :=
  if line.holds l.start then some ⟨l.start - line.start, .opening, l⟩
  else if line.holds l.last then some ⟨l.last - line.start, .closing, l⟩
  else none

def ofInline? (line : Line) (l : Label) : Option Mark :=
  if line.start ≤ l.start && l.stop ≤ line.stop then
    some ⟨(l.start + l.stop) / 2 - line.start, .inline, l⟩
  else none

/-- Marks stand from left to right, and in one column the label that starts last stands first. -/
def precedes (a b : Mark) : Bool :=
  a.column < b.column || (a.column == b.column && b.label.start ≤ a.label.start)

def isInline (m : Mark) : Bool := m.anchor == .inline

def bearsText (m : Mark) : Bool := m.anchor != .opening

/-- Whether the arrow of the mark runs through a column: from the margin to the mark if the label runs
over several lines, and from the mark to the text if there is one. -/
def crosses (m : Mark) (col : Nat) : Bool :=
  match m.anchor with
  | .opening => col ≤ m.column
  | .closing => true
  | .inline => m.column < col

def corner (m : Mark) : String :=
  match m.anchor with
  | .opening => "╯"
  | .closing => "┴"
  | .inline => "╰"

end Mark

structure AnnotatedLine where
  index : Nat
  line : Line
  rails : List Label
  pointer : Option Mark
  /-- What is drawn below the line, each mark in two rows of its own. -/
  marks : List Mark

namespace AnnotatedLine

/-- The margin points at the first end of a rail in the line. If the rail opens there, nothing is drawn
for it below the line. -/
def ofLine (g : Group) (index : Nat) (line : Line) : AnnotatedLine :=
  let ends := g.rails.filterMap (Mark.ofRail? line)
  let pointer := (ends.mergeSort Mark.precedes).head?
  let below := ends.filter fun m => !(m.anchor == .opening && pointer.any (·.label.is m.label))
  { index
    line
    rails := g.rails
    pointer
    marks := (below ++ g.inlineLabels.filterMap (Mark.ofInline? line)).mergeSort Mark.precedes }

def isBusy (a : AnnotatedLine) : Bool := a.pointer.isSome || !a.marks.isEmpty

def isPointed (a : AnnotatedLine) (l : Label) : Bool := a.pointer.any (·.label.is l)

def isSpanned (a : AnnotatedLine) : Bool := a.rails.any (·.covers a.line.start)

end AnnotatedLine

end InterfaceCheck.Report
