import InterfaceCheck.Proofs.Cut
import InterfaceCheck.Report.Layout

namespace InterfaceCheck

def Diagnostic.texts (d : Diagnostic) : List String :=
  d.message :: d.related.map (·.message) ++ d.help.toList ++ d.code.toList

/-- The first row of a report: the code in brackets, if there is one, and the message. Codes take two
columns at least. -/
def Diagnostic.headline (d : Diagnostic) : List Char :=
  (d.code.elim "" fun c => "[" ++ c ++ Report.repeated (2 - c.length) ' ' ++ "] ").toList ++
    "Error: ".toList ++ d.message.toList

namespace Report

@[simp] theorem text_bare (s : String) : (bare s).text = s := rfl

@[simp] theorem Colour.text_paint (c : Colour) (s : String) : (c.paint s).text = s := rfl

theorem toList_repeated (n : Nat) (c : Char) : (repeated n c).toList = List.replicate n c :=
  String.toList_ofList

namespace Painting

def chars (p : Painting) : List Char := p.flatMap (·.text.toList)

@[simp] theorem chars_nil : chars [] = [] := rfl

@[simp] theorem chars_cons (x : Piece) (p : Painting) : chars (x :: p) = x.text.toList ++ chars p :=
  List.flatMap_cons

@[simp] theorem chars_append (p q : Painting) : chars (p ++ q) = chars p ++ chars q :=
  List.flatMap_append

theorem toList_write_plain (p : Painting) : (p.write .plain).toList = p.chars := by
  rw [write, String.toList_join, List.flatMap_map]
  rfl

def Uses (P : Char → Prop) (p : Painting) : Prop := ∀ c ∈ p.chars, P c

variable {P Q : Char → Prop}

@[simp] theorem uses_nil : Uses P [] := by simp [Uses]

@[simp] theorem uses_cons {x : Piece} {p : Painting} :
    Uses P (x :: p) ↔ (∀ c ∈ x.text.toList, P c) ∧ Uses P p := by
  rw [Uses, chars_cons, List.forall_mem_append, Uses]

theorem uses_singleton {x : Piece} : Uses P [x] ↔ ∀ c ∈ x.text.toList, P c := by
  rw [uses_cons, and_iff_left uses_nil]

@[simp] theorem uses_append {p q : Painting} : Uses P (p ++ q) ↔ Uses P p ∧ Uses P q := by
  rw [Uses, chars_append, List.forall_mem_append, Uses, Uses]

theorem Uses.mono {p : Painting} (h : Uses P p) (hPQ : ∀ c, P c → Q c) : Uses Q p :=
  fun c hc => hPQ c (h c hc)

theorem uses_flatten {ps : List Painting} : Uses P ps.flatten ↔ ∀ p ∈ ps, Uses P p := by
  induction ps with
  | nil => simp
  | cons p ps ih => rw [List.flatten_cons, uses_append, ih, List.forall_mem_cons]

theorem uses_flatMap {α : Type} {xs : List α} {f : α → Painting} (h : ∀ x, Uses P (f x)) :
    Uses P (xs.flatMap f) := by
  rw [List.flatMap_def, uses_flatten, List.forall_mem_map]
  exact fun x _ => h x

theorem uses_replicate {n : Nat} {x : Piece} (h : ∀ c ∈ x.text.toList, P c) :
    Uses P (List.replicate n x) := by
  induction n with
  | zero => exact uses_nil
  | succ n ih => exact uses_cons.2 ⟨h, ih⟩

end Painting

open Painting

/-- What lines are drawn with, and blanks. -/
def strokes : List Char := " │┆─┬┴╭╰╯├▲▶".toList

def Piece.IsBlank (x : Piece) : Prop := ∀ c ∈ x.text.toList, c ∈ strokes

/-- The painting is drawn with strokes alone and shows no text. -/
def Painting.IsBlank (p : Painting) : Prop := p.Uses (· ∈ strokes)

/-- A literal is checked by evaluation. The quantifier over characters must be left out of it, as a
decision of that may go through all of them. -/
theorem forall_mem_of_all {P : Char → Prop} [DecidablePred P] {cs : List Char}
    (h : cs.all (P ·) = true) : ∀ c ∈ cs, P c := by
  simpa using h

theorem Colour.isBlank_paint (c : Colour) {s : String} (h : ∀ c ∈ s.toList, c ∈ strokes) :
    (c.paint s).IsBlank := h

theorem Label.isBlank_paint (l : Label) {s : String} (h : s.toList.all (· ∈ strokes) = true) :
    (l.paint s).IsBlank :=
  forall_mem_of_all h

theorem Label.isBlank_rule (l : Label) : (l.paint "─").IsBlank := l.isBlank_paint (by decide)

theorem Label.isBlank_stem (l : Label) : (l.paint "│").IsBlank := l.isBlank_paint (by decide)

theorem Label.isBlank_gap (l : Label) : (l.paint " ").IsBlank := l.isBlank_paint (by decide)

theorem isBlank_cons {x : Piece} {p : Painting} (hx : x.IsBlank) (hp : p.IsBlank) :
    Painting.IsBlank (x :: p) :=
  uses_cons.2 ⟨hx, hp⟩

theorem isBlank_pair {x y : Piece} (hx : x.IsBlank) (hy : y.IsBlank) : Painting.IsBlank [x, y] :=
  isBlank_cons hx (uses_singleton.2 hy)

theorem isBlank_space : (bare " ").IsBlank := forall_mem_of_all (by decide)

theorem isBlank_blankGutter (digits : Nat) (elided : Bool) : (blankGutter digits elided).IsBlank := by
  have hrule : ∀ c ∈ (repeated (digits + 1) ' ' ++ if elided then "┆" else "│").toList, c ∈ strokes := by
    rw [String.toList_append, List.forall_mem_append, toList_repeated]
    constructor
    · intro c hc
      rw [List.eq_of_mem_replicate hc]
      decide
    · cases elided <;> exact forall_mem_of_all (by decide)
  exact isBlank_cons isBlank_space (isBlank_pair (faintColour.isBlank_paint hrule) isBlank_space)

theorem isBlank_blankCells : blankCells.IsBlank := isBlank_pair isBlank_space isBlank_space

theorem isBlank_railCells (rails : List Label) {cells : Nat → Painting} (h : ∀ col, (cells col).IsBlank) :
    (railCells rails cells).IsBlank := by
  unfold railCells
  split
  · exact uses_nil
  · exact uses_flatMap h

theorem isBlank_fill {first rest : Piece} (columns : Nat) (hfirst : first.IsBlank) (hrest : rest.IsBlank) :
    (fill columns first rest).IsBlank := by
  unfold fill
  split
  · exact uses_nil
  · exact isBlank_cons hfirst (uses_replicate hrest)

namespace AnnotatedLine

variable (a : AnnotatedLine)

theorem isBlank_sourceCells (elided : Bool) (col : Nat) : (a.sourceCells elided col).IsBlank := by
  unfold sourceCells
  extract_lets passing
  split
  · exact isBlank_pair (Label.isBlank_paint _ (by cases elided <;> decide)) isBlank_space
  · split
    · exact isBlank_pair (Label.isBlank_paint _ (by decide)) (Label.isBlank_gap _)
    · refine isBlank_pair (Label.isBlank_paint _ ?_) (Label.isBlank_rule _)
      split
      · split <;> decide
      · decide
  · exact isBlank_blankCells

theorem isBlank_noteCells (row : Nat) (stage : Stage) (col : Nat) : (a.noteCells row stage col).IsBlank := by
  unfold noteCells
  extract_lets turning
  split
  · exact isBlank_pair (Label.isBlank_paint _ (by split <;> decide)) (Label.isBlank_rule _)
  · exact isBlank_pair (Label.isBlank_rule _) (Label.isBlank_rule _)
  · split
    · exact isBlank_pair (Label.isBlank_stem _) isBlank_space
    · exact isBlank_blankCells

theorem isBlank_noteMargin (digits row : Nat) (stage : Stage) : (a.noteMargin digits row stage).IsBlank :=
  uses_append.2 ⟨isBlank_blankGutter digits false, isBlank_railCells _ (a.isBlank_noteCells row stage)⟩

theorem isBlank_stemCell (row col columns : Nat) : (a.stemCell row col columns).IsBlank := by
  unfold stemCell
  extract_lets cell
  split
  · exact isBlank_fill columns (Label.isBlank_paint _ (by decide)) (Label.isBlank_rule _)
  · exact isBlank_fill columns (Label.isBlank_paint _ (by split <;> decide)) (Label.isBlank_gap _)
  · exact isBlank_fill columns (Label.isBlank_rule _) (Label.isBlank_rule _)
  · exact isBlank_fill columns isBlank_space isBlank_space

theorem isBlank_arrowCell (row : Nat) (m : Mark) (col columns : Nat) :
    (a.arrowCell row m col columns).IsBlank := by
  have hcorner : m.corner.toList.all (· ∈ strokes) = true := by
    unfold Mark.corner
    cases m.anchor <;> decide
  unfold arrowCell
  extract_lets cell
  split
  · exact isBlank_fill columns (m.label.isBlank_paint hcorner) m.label.isBlank_rule
  · split
    · exact isBlank_fill columns m.label.isBlank_rule m.label.isBlank_rule
    · split
      · exact isBlank_fill columns (Label.isBlank_stem _) m.label.isBlank_gap
      · exact isBlank_fill columns isBlank_space isBlank_space

theorem isBlank_cells {cell : Nat → Nat → Painting} (h : ∀ col columns, (cell col columns).IsBlank) :
    Painting.IsBlank (a.noteWidths.mapIdx cell).flatten := by
  rw [IsBlank, uses_flatten]
  intro p hp
  obtain ⟨i, _, rfl⟩ := List.mem_mapIdx.1 hp
  exact h _ _

end AnnotatedLine

theorem chars_numberGutter (digits index : Nat) : (numberGutter digits index).chars =
    List.replicate (digits - (index + 1).repr.length + 1) ' ' ++ (index + 1).repr.toList ++ " │ ".toList := by
  simp [numberGutter, toList_repeated, List.replicate_succ]

/-- A text as it is drawn from the column `col` on. Tabs reach to the next of the stops, which are four
columns apart, and any other white space is a blank. -/
def expanded (col : Nat) : List Char → List Char
  | [] => []
  | c :: cs =>
    (if c = '\t' then List.replicate (4 - col % 4) ' ' else if Text.isWhitespace c then [' '] else [c]) ++
      expanded (col + 1) cs

theorem mem_expanded {col : Nat} {cs : List Char} {c : Char} (h : c ∈ expanded col cs) :
    c = ' ' ∨ c ∈ cs ∧ Text.isWhitespace c = false := by
  induction cs generalizing col with
  | nil => cases h
  | cons x cs ih =>
      rw [expanded, List.mem_append] at h
      rcases h with h | h
      · split at h
        · exact .inl (List.eq_of_mem_replicate h)
        · split at h
          · exact .inl (List.mem_singleton.1 h)
          · rename_i hblank
            obtain rfl := List.mem_singleton.1 h
            exact .inr ⟨List.mem_cons_self, eq_false_of_ne_true hblank⟩
      · rcases ih h with h | ⟨h, hblank⟩
        · exact .inl h
        · exact .inr ⟨List.mem_cons_of_mem _ h, hblank⟩

namespace AnnotatedLine

variable (a : AnnotatedLine)

theorem chars_drawCharacter (c : Char) (col : Nat) :
    (a.drawCharacter c col).chars = expanded col [c] := by
  have hreplicate (n : Nat) (x : Colour) : chars (List.replicate n (x.paint " ")) = List.replicate n ' ' := by
    induction n with
    | zero => rfl
    | succ n ih => rw [List.replicate_succ, chars_cons, ih, List.replicate_succ, Colour.text_paint]; rfl
  have hstop : Text.widthAt col '\t' = 4 - col % 4 := by
    simp only [Text.widthAt, Text.tabStop, if_true]
    omega
  unfold drawCharacter
  extract_lets colour
  rw [expanded, expanded, List.append_nil]
  split
  · rename_i htab
    rw [htab, hreplicate, hstop]
  · split
    · simp
    · simp

theorem chars_drawText : a.drawText.chars = expanded 0 a.shown := by
  have hfrom (cs : List Char) (col : Nat) :
      chars (cs.mapIdx fun i c => a.drawCharacter c (col + i)).flatten = expanded col cs := by
    induction cs generalizing col with
    | nil => rfl
    | cons c cs ih =>
        have hshift : (fun i c => a.drawCharacter c (col + (i + 1))) =
            fun i c => a.drawCharacter c (col + 1 + i) := by
          funext i c
          rw [Nat.add_assoc, Nat.add_comm 1]
        rw [List.mapIdx_cons, List.flatten_cons, chars_append, chars_drawCharacter, hshift, ih]
        simp only [expanded, Nat.add_zero, List.append_nil]
  have h := hfrom a.shown 0
  simp only [Nat.zero_add] at h
  exact h

end AnnotatedLine

theorem chars_heading (d : Diagnostic) : (heading d).chars = d.headline ++ ['\n'] := by
  simp [heading, Diagnostic.headline, endRow]

theorem mem_of_mem_textLines {cs l : List Char} (hl : l ∈ textLines cs) {c : Char} (hc : c ∈ l) : c ∈ cs := by
  fun_induction textLines cs generalizing l with
  | case1 => cases hl
  | case2 cs ih =>
      rcases List.mem_cons.1 hl with rfl | hl
      · cases hc
      · exact List.mem_cons_of_mem _ (ih hl hc)
  | case3 cs ih =>
      rcases List.mem_cons.1 hl with rfl | hl
      · cases hc
      · exact List.mem_cons_of_mem _ (List.mem_cons_of_mem _ (ih hl hc))
  | case4 x cs _ _ hrest ih =>
      obtain rfl := List.mem_singleton.1 hl
      obtain rfl := List.mem_singleton.1 hc
      exact List.mem_cons_self
  | case5 x cs _ _ first rest hrest ih =>
      rw [hrest] at ih
      rcases List.mem_cons.1 hl with rfl | hl
      · rcases List.mem_cons.1 hc with rfl | hc
        · exact List.mem_cons_self
        · exact List.mem_cons_of_mem _ (ih List.mem_cons_self hc)
      · exact List.mem_cons_of_mem _ (ih (List.mem_cons_of_mem _ hl) hc)

theorem textLines_eq_singleton {cs : List Char} (hne : cs ≠ []) (h : '\n' ∉ cs) : textLines cs = [cs] := by
  fun_induction textLines cs with
  | case1 => exact absurd rfl hne
  | case2 => simp at h
  | case3 => simp at h
  | case4 c cs _ _ hrest ih =>
      cases cs with
      | nil => rfl
      | cons d cs =>
          rw [ih (List.cons_ne_nil d cs) (fun hmem => h (List.mem_cons_of_mem _ hmem))] at hrest
          cases hrest
  | case5 c cs _ _ first rest hrest ih =>
      have hcs : cs ≠ [] := by
        rintro rfl
        cases hrest
      rw [ih hcs (fun hmem => h (List.mem_cons_of_mem _ hmem))] at hrest
      obtain ⟨rfl, rfl⟩ := List.cons.inj hrest
      rfl

theorem ne_of_lt_space {x : Char} (hx : x < ' ') (c : Char) (h : ' ' ≤ c) : c ≠ x := by
  rintro rfl
  exact Char.not_le.2 hx h

section Control

variable {P : Char → Prop} (hP : ∀ c, ' ' ≤ c → P c)

include hP

theorem forall_mem_of_le {cs : List Char} (h : cs.all (' ' ≤ ·) = true) : ∀ c ∈ cs, P c :=
  fun c hc => hP c (forall_mem_of_all h c hc)

theorem Painting.IsBlank.uses {p : Painting} (h : p.IsBlank) : p.Uses P :=
  h.mono (forall_mem_of_le hP (by decide : strokes.all (' ' ≤ ·) = true))

theorem forall_mem_repr (n : Nat) : ∀ c ∈ n.repr.toList, P c := by
  intro c hc
  have hdigit := isDigit_of_mem_repr hc
  simp only [Char.isDigit, Bool.and_eq_true, decide_eq_true_eq] at hdigit
  exact hP c (UInt32.le_trans (by decide) hdigit.1)

theorem forall_mem_replicate {c : Char} (h : ' ' ≤ c) (n : Nat) : ∀ x ∈ List.replicate n c, P x := by
  intro x hx
  rw [List.eq_of_mem_replicate hx]
  exact hP c h

theorem forall_mem_location (source : Source) (offset : Nat) : ∀ c ∈ (location source offset).toList, P c := by
  unfold location
  split
  · simp only [String.toList_append, List.forall_mem_append]
    exact ⟨⟨forall_mem_repr hP _, forall_mem_of_le hP (by decide)⟩, forall_mem_repr hP _⟩
  · exact forall_mem_of_le hP (by decide)

theorem forall_mem_headline {d : Diagnostic} (h : ∀ t ∈ d.texts, ∀ c ∈ t.toList, P c) :
    ∀ c ∈ d.headline, P c := by
  have hmessage : ∀ c ∈ d.message.toList, P c := h d.message List.mem_cons_self
  have herror : ∀ c ∈ "Error: ".toList, P c := forall_mem_of_le hP (by decide)
  rw [Diagnostic.headline, List.forall_mem_append, List.forall_mem_append]
  refine ⟨⟨?_, herror⟩, hmessage⟩
  cases hd : d.code with
  | none => simp
  | some code =>
      have hcode := h code (by simp [Diagnostic.texts, hd])
      simp only [Option.elim_some, String.toList_append, List.forall_mem_append, toList_repeated]
      exact ⟨⟨⟨forall_mem_of_le hP (by decide), hcode⟩, forall_mem_replicate hP (by decide) _⟩,
        forall_mem_of_le hP (by decide)⟩

theorem uses_numberGutter (digits index : Nat) : (numberGutter digits index).Uses P := by
  rw [Uses, chars_numberGutter, List.forall_mem_append, List.forall_mem_append]
  exact ⟨⟨forall_mem_replicate hP (by decide) _, forall_mem_repr hP _⟩, forall_mem_of_le hP (by decide)⟩

namespace AnnotatedLine

variable (a : AnnotatedLine)

theorem uses_sourceMargin (digits : Nat) (elided : Bool) : (a.sourceMargin digits elided).Uses P := by
  have hcells := (isBlank_railCells a.rails (a.isBlank_sourceCells elided)).uses hP
  unfold sourceMargin
  split
  · exact uses_append.2 ⟨(isBlank_blankGutter digits true).uses hP, hcells⟩
  · exact uses_append.2 ⟨uses_numberGutter hP digits a.index, hcells⟩

/-- White space is not drawn as it is, so it may be any character. -/
theorem uses_drawText (h : ∀ c ∈ a.line.text, Text.isWhitespace c = false → P c) : a.drawText.Uses P := by
  obtain ⟨blanks, htext, _⟩ := Text.exists_trimRight_append a.line.text
  rw [Uses, chars_drawText]
  intro c hc
  rcases mem_expanded hc with rfl | ⟨hc, hblank⟩
  · exact hP _ (by decide)
  · refine h c ?_ hblank
    rw [htext]
    exact List.mem_append_left _ hc

end AnnotatedLine

end Control

end Report

end InterfaceCheck
