import InterfaceCheck.Proofs.Rows

namespace InterfaceCheck.Report

def escape : Char := '\x1b'

/-- What follows the first `m`, with which the parameters of an escape sequence end. -/
def afterParameters? : List Char → Option (List Char)
  | [] => none
  | c :: cs => if c = 'm' then some cs else afterParameters? cs

theorem length_lt_of_afterParameters? {cs rest : List Char} (h : afterParameters? cs = some rest) :
    rest.length < cs.length := by
  induction cs with
  | nil => cases h
  | cons c cs ih =>
      rw [afterParameters?] at h
      split at h
      · obtain rfl := Option.some.inj h
        exact Nat.lt_succ_self _
      · exact Nat.lt_succ_of_lt (ih h)

/-- Deletes every sequence that begins with an escape and a bracket and ends with the next `m`. -/
def withoutColours : List Char → List Char
  | [] => []
  | '\x1b' :: '[' :: cs =>
    match _h : afterParameters? cs with
    | some rest => withoutColours rest
    | none => '\x1b' :: '[' :: cs
  | c :: cs => c :: withoutColours cs
termination_by cs => cs.length
decreasing_by
  · have := length_lt_of_afterParameters? _h
    simp only [List.length_cons]
    omega
  · simp

theorem withoutColours_append {cs : List Char} (h : ∀ c ∈ cs, c ≠ escape) (rest : List Char) :
    withoutColours (cs ++ rest) = cs ++ withoutColours rest := by
  induction cs with
  | nil => rfl
  | cons c cs ih =>
      rw [List.forall_mem_cons] at h
      rw [List.cons_append, withoutColours, ih h.2, List.cons_append]
      rintro cs' rfl _
      exact h.1 rfl

theorem afterParameters?_append {ps : List Char} (h : 'm' ∉ ps) (rest : List Char) :
    afterParameters? (ps ++ 'm' :: rest) = some rest := by
  induction ps with
  | nil => rfl
  | cons p ps ih =>
      rw [List.mem_cons, not_or] at h
      rw [List.cons_append, afterParameters?, if_neg (Ne.symm h.1), ih h.2]

theorem withoutColours_sequence {ps : List Char} (h : 'm' ∉ ps) (rest : List Char) :
    withoutColours ('\x1b' :: '[' :: (ps ++ 'm' :: rest)) = withoutColours rest := by
  rw [withoutColours]
  split
  · rename_i rest' hrest
    rw [afterParameters?_append h] at hrest
    rw [Option.some.inj hrest]
  · rename_i hnone
    rw [afterParameters?_append h] at hnone
    cases hnone

theorem Colour.m_notMem_code (c : Colour) : 'm' ∉ c.code.toList := by
  cases c with
  | red => decide
  | numbered n =>
      rw [code, String.toList_append, List.mem_append, not_or]
      exact ⟨by decide, fun h => nomatch isDigit_of_mem_repr h⟩

def Piece.IsClean (x : Piece) : Prop := ∀ c ∈ x.text.toList, c ≠ escape

def Painting.IsClean (p : Painting) : Prop := p.Uses (· ≠ escape)

theorem Piece.withoutColours_write {x : Piece} (h : x.IsClean) (rest : List Char) :
    withoutColours ((x.write .coloured).toList ++ rest) = x.text.toList ++ withoutColours rest := by
  rcases x with ⟨colour, text⟩
  cases colour with
  | none => exact withoutColours_append h rest
  | some c =>
      have htext : ((write .coloured ⟨some c, text⟩).toList ++ rest) =
          '\x1b' :: '[' :: (c.code.toList ++ 'm' :: (text.toList ++
            '\x1b' :: '[' :: (['0'] ++ 'm' :: rest))) := by
        simp [write]
      rw [htext, withoutColours_sequence c.m_notMem_code, withoutColours_append h,
        withoutColours_sequence (by decide)]

theorem Painting.write_append (style : Style) (p q : Painting) :
    Painting.write style (p ++ q) = p.write style ++ q.write style := by
  rw [write, write, write, List.map_append, String.join_append]

theorem Painting.write_flatten (style : Style) (ps : List Painting) :
    Painting.write style ps.flatten = String.join (ps.map (Painting.write style)) := by
  induction ps with
  | nil => rfl
  | cons p ps ih => rw [List.flatten_cons, write_append, ih, List.map_cons, String.join_cons]

theorem Painting.withoutColours_write {p : Painting} (h : p.IsClean) :
    withoutColours (p.write .coloured).toList = p.chars := by
  suffices hrest : ∀ rest, withoutColours ((p.write .coloured).toList ++ rest) =
      p.chars ++ withoutColours rest by
    simpa [withoutColours] using hrest []
  intro rest
  induction p with
  | nil => rfl
  | cons x p ih =>
      have hx := Painting.uses_cons.1 h
      have hwrite : Painting.write .coloured (x :: p) = x.write .coloured ++ Painting.write .coloured p :=
        String.join_cons
      rw [hwrite, String.toList_append, List.append_assoc, Piece.withoutColours_write hx.1, ih hx.2,
        Painting.chars_cons, List.append_assoc]

open Painting

theorem isClean_painting {source : String} {d : Diagnostic} (hsource : ∀ c ∈ source.toList, c ≠ escape)
    (htexts : ∀ t ∈ d.texts, ∀ c ∈ t.toList, c ≠ escape) :
    (painting (.ofString source) d).IsClean := by
  have hlines : ∀ l ∈ (Source.ofString source).lines, ∀ c ∈ l.text, Text.isWhitespace c = false →
      c ≠ escape := by
    intro l hl c hc _
    apply hsource c
    rw [← Source.flatten_lines]
    exact List.mem_flatten.2 ⟨l.text, List.mem_map_of_mem hl, hc⟩
  obtain ⟨rows, hrows, _⟩ := exists_rows_painting (ne_of_lt_space (by decide)) hlines htexts
  exact hrows.uses (by decide)

/-- Colour changes nothing in a report but colour: with all escape sequences deleted the coloured report
is the plain one, and the plain one has none. -/
theorem render_without_colours {source : String} {ds : List Diagnostic}
    (hspans : ∀ d ∈ ds, ¬ d.IsReversed) (hsource : escape ∉ source.toList)
    (htexts : ∀ d ∈ ds, ∀ t ∈ d.texts, escape ∉ t.toList) :
    ∃ coloured plain, render .coloured source ds = .ok coloured ∧ render .plain source ds = .ok plain ∧
      withoutColours coloured.toList = plain.toList ∧ escape ∉ plain.toList := by
  have hclean : ∀ d ∈ ds, (painting (.ofString source) d).IsClean := by
    intro d hd
    apply isClean_painting
    · exact fun c hc he => hsource (he ▸ hc)
    · exact fun t ht c hc he => htexts d hd t ht (he ▸ hc)
  have hall : Painting.IsClean (ds.map (painting (.ofString source))).flatten :=
    uses_flatten.2 (List.forall_mem_map.2 hclean)
  have hrender (style : Style) : render style source ds =
      .ok (Painting.write style (ds.map (painting (.ofString source))).flatten) := by
    rw [render_of_forall_not_isReversed style source hspans, write_flatten, List.map_map]
    rfl
  refine ⟨_, _, hrender .coloured, hrender .plain, ?_, ?_⟩
  · rw [Painting.withoutColours_write hall, toList_write_plain]
  · rw [toList_write_plain]
    exact fun h => hall escape h rfl

/-- Labels over several lines that cross each other, one in a line of its own, and one of no length. -/
def crossing : Diagnostic where
  message := "Types differ"
  span := ⟨4, 12⟩
  related := [⟨⟨9, 10⟩, "here"⟩, ⟨⟨0, 16⟩, "in this"⟩, ⟨⟨15, 15⟩, "before this"⟩]
  help := some "Write 'a' alone"
  code := some "E"

theorem render_crossing_without_colours :
    (∀ d ∈ [crossing, crossing], ¬ d.IsReversed) ∧ escape ∉ "let a =\n\tb + c\n日本\n".toList ∧
    (∀ d ∈ [crossing, crossing], ∀ t ∈ d.texts, escape ∉ t.toList) ∧
    ∃ coloured plain, render .coloured "let a =\n\tb + c\n日本\n" [crossing, crossing] = .ok coloured ∧
      render .plain "let a =\n\tb + c\n日本\n" [crossing, crossing] = .ok plain ∧
      withoutColours coloured.toList = plain.toList ∧ escape ∉ plain.toList := by
  have hspans : ∀ d ∈ [crossing, crossing], ¬ d.IsReversed := by decide
  have hsource : escape ∉ "let a =\n\tb + c\n日本\n".toList := by decide
  have htexts : ∀ d ∈ [crossing, crossing], ∀ t ∈ d.texts, escape ∉ t.toList := by decide
  exact ⟨hspans, hsource, htexts, render_without_colours hspans hsource htexts⟩

end InterfaceCheck.Report
