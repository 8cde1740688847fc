import InterfaceCheck.Interface.Problem
import InterfaceCheck.Report.Note

/-!
Reports. It is a choice of this library what a report is made of: its kind is always `Error`, it is headed by
the message and the code, its place is the start of the span, its labels are those of the diagnostic, and the
help goes below them; and diagnostics are drawn one after the other (`ofDiagnostic`, `render`,
`renderErrors`). How a report is laid out follows ariadne 0.6.0.
-/

namespace InterfaceCheck

namespace Report

def helpColour : Colour := .numbered 115

def blanks (n : Nat) : Piece := bare (repeated n ' ')

def heading (d : Diagnostic) : Painting :=
  let code := d.code.elim "" fun c => "[" ++ c ++ repeated (2 - c.length) ' ' ++ "] "
  [Colour.red.paint (code ++ "Error:"), bare " ", bare d.message, endRow]

def location (source : Source) (offset : Nat) : String :=
  match source.place? offset with
  | some p => (p.line + 1).repr ++ ":" ++ (p.column + 1).repr
  | none => "?:?"

/-- The lines of a text, without their ends. A carriage return belongs to the line feed after it. -/
def textLines : List Char → List (List Char)
  | [] => []
  | '\n' :: cs => [] :: textLines cs
  | '\r' :: '\n' :: cs => [] :: textLines cs
  | c :: cs =>
    match textLines cs with
    | [] => [[c]]
    | l :: ls => (c :: l) :: ls

def drawHelp (margin : Painting) (help : String) : Painting :=
  let start (i : Nat) : Painting := if i = 0 then [helpColour.paint "Help", bare ": "] else [blanks 6]
  let row (i : Nat) (l : List Char) := margin ++ start i ++ [bare (String.ofList l), endRow]
  margin ++ [endRow] ++ ((textLines help.toList).mapIdx row).flatten

namespace Group

def annotated (source : Source) (g : Group) : List AnnotatedLine :=
  ((source.lines.zipIdx.take g.stop).drop g.first).map fun (l, i) => .ofLine g i l

def drawTop (digits : Nat) (corner place : String) : Painting :=
  [blanks (digits + 2), ruleColour.paint corner, ruleColour.paint "─", ruleColour.paint "[",
    bare (" <unknown>:" ++ place ++ " "), ruleColour.paint "]", endRow,
    blanks (digits + 2), ruleColour.paint "│", endRow]

/-- The margin in the rows of the help, which is that of a row right below the first line. -/
def helpMargin (source : Source) (digits : Nat) (g : Group) : Painting :=
  let first := source.lines.head?.getD ⟨0, []⟩
  AnnotatedLine.noteMargin ⟨0, first, g.rails, none, []⟩ digits 0 .stem

def drawBottom (source : Source) (digits : Nat) (help : Option String) (g : Group) : Painting :=
  (help.elim [] fun h => drawHelp (g.helpMargin source digits) h) ++
    [ruleColour.paint (repeated (digits + 2) '─' ++ "╯"), endRow]

end Group

def drawGroups (source : Source) (d : Diagnostic) (digits : Nat) (corner : String) :
    List Group → Painting
  | [] => []
  | g :: rest =>
    let lines := AnnotatedLine.drawAll digits false (g.annotated source)
    Group.drawTop digits corner (location source d.span.start) ++ lines ++
      match rest with
      | [] => g.drawBottom source digits d.help
      | _ => [blanks (digits + 2), ruleColour.paint "│", endRow] ++ drawGroups source d digits "├" rest

/-- The report of a diagnostic whose labels are given. Line numbers are as wide as the widest. -/
def layout (source : Source) (d : Diagnostic) (labels : List Label) : Painting :=
  let groups := Group.split source labels
  let digits := (groups.map (·.stop.repr.length)).max?.getD 0
  heading d ++ drawGroups source d digits "╭" groups

def ofDiagnostic (source : Source) (d : Diagnostic) : Except ReversedSpan Painting :=
  (Label.ofDiagnostic source d).map (layout source d)

def render (style : Style) (source : String) (ds : List Diagnostic) : Except ReversedSpan String := do
  let reports ← ds.mapM (ofDiagnostic (Source.ofString source))
  return String.join (reports.map (Painting.write style))

def renderErrors (style : Style) (source : String) (es : List CheckError) :
    Except ReversedSpan String :=
  render style source (es.map (·.toDiagnostic))

end Report

end InterfaceCheck
