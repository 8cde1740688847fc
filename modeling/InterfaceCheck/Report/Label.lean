import InterfaceCheck.Diagnostic
import InterfaceCheck.Report.Paint
import InterfaceCheck.Report.Source

/-!
The labels of a diagnostic, and the groups in which they are drawn. Two things are choices of this library:
which places have a label, in which order and with which text (`Diagnostic.places`), and that the first colour
of the sequence is passed over (`labelColour`). All else follows ariadne 0.6.0, which takes the ends of a span
for offsets of characters.
-/

namespace InterfaceCheck

structure ReversedSpan where
  span : Span
  deriving DecidableEq

/-- What the diagnostic points at, its own place before the related ones, each with the text to put
there. -/
def Diagnostic.places (d : Diagnostic) : List (Span × String) :=
  (d.span, d.message) :: d.related.map fun r => (r.span, r.message)

namespace Report

/-- A place in a source with its text. Labels of one diagnostic are told apart by their indices. -/
structure Label where
  index : Nat
  start : Nat
  stop : Nat
  message : String
  /-- The line in which the text is put, which is the last one that the label touches. -/
  line : Nat
  multiline : Bool

namespace Label

def colour (l : Label) : Colour := .numbered (labelColour l.index)

def paint (l : Label) (text : String) : Piece := l.colour.paint text

def length (l : Label) : Nat := l.stop - l.start

def last (l : Label) : Nat := max (l.stop - 1) l.start

def covers (l : Label) (offset : Nat) : Bool := l.start ≤ offset && offset < l.stop

def is (l l' : Label) : Bool := l.index == l'.index

/-- The shortest of the labels that cover an offset, and of equally short ones the first. -/
def shortest? (labels : List Label) (offset : Nat) : Option Label :=
  (labels.filter (·.covers offset)).minOn? (·.length)

def ofSpan? (source : Source) (index : Nat) (span : Span) (message : String) : Option Label := do
  let first ← source.place? span.start
  let last ← if span.start = span.stop then some first else source.place? (span.stop - 1)
  some ⟨index, span.start, span.stop, message, last.line, first.line != last.line⟩

def ofDiagnostic (source : Source) (d : Diagnostic) : Except ReversedSpan (List Label) :=
  match d.places.find? fun (span, _) => span.stop < span.start with
  | some (span, _) => .error ⟨span⟩
  | none => .ok (d.places.zipIdx.filterMap fun ((span, message), i) => ofSpan? source i span message)

end Label

/-- Labels that are drawn under one heading. The lines from `first` up to and without `stop` are
drawn. -/
structure Group where
  labels : List Label
  first : Nat
  stop : Nat

namespace Group

def ofLabels (source : Source) (labels : List Label) : Group :=
  let start := (labels.map (·.start)).min?.getD 0
  let stop := (labels.map (·.stop)).max?.getD 0
  let line? offset := (source.place? offset).map (·.line)
  { labels
    first := (line? start).getD 0
    stop := ((line? (max (stop - 1) start)).map (· + 1)).getD source.lines.length }

/-- Starts a new group wherever a label is put in an earlier line than the label before it. -/
def split (source : Source) (labels : List Label) : List Group :=
  (labels.splitBy fun a b => a.line ≤ b.line).map (ofLabels source)

def rails (g : Group) : List Label :=
  (g.labels.filter (·.multiline)).mergeSort fun a b => b.length ≤ a.length

def inlineLabels (g : Group) : List Label := g.labels.filter fun l => !l.multiline

end Group

end Report

end InterfaceCheck
