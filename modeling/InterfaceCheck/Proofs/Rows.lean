import InterfaceCheck.Proofs.Drawing
import InterfaceCheck.Proofs.Labels

namespace InterfaceCheck.Report

/-- The row shows a line of the source: its number, the margin, and its text up to the blanks at its
end. -/
def ShowsLine (index : Nat) (line : Line) (row : List Char) : Prop :=
  ∃ indent margin shown blanks, (∀ c ∈ margin, c ∈ strokes) ∧ line.text = shown ++ blanks ∧
    (∀ c ∈ shown.getLast?, Text.isWhitespace c = false) ∧ (∀ c ∈ blanks, Text.isWhitespace c = true) ∧
    row = List.replicate indent ' ' ++ (index + 1).repr.toList ++ " │ ".toList ++ margin ++ expanded 0 shown

/-- The row shows a text at the end of an arrow. -/
def ShowsText (text row : List Char) : Prop :=
  ∃ arrow, (∀ c ∈ arrow, c ∈ strokes) ∧ row = arrow ++ " ".toList ++ text

def ShowsHelp (help row : List Char) : Prop :=
  ∃ margin, (∀ c ∈ margin, c ∈ strokes) ∧ row = margin ++ "Help: ".toList ++ help

inductive Item where
  | line (index : Nat) (line : Line)
  | text (label : Label)
  | help (line : List Char)

def Item.ShownIn : Item → List Char → Prop
  | line index l, row => ShowsLine index l row
  | text l, row => ShowsText l.message.toList row
  | help l, row => ShowsHelp l row

namespace Painting

variable {P : Char → Prop} {p q : Painting} {rs ss : List (List Char)} {is js : List Item}

/-- The painting is drawn in these rows, one below the other, and in them are only characters that `P`
allows. -/
structure Rows (p : Painting) (P : Char → Prop) (rows : List (List Char)) : Prop where
  chars_eq : p.chars = rows.flatMap (· ++ ['\n'])
  allowed : ∀ row ∈ rows, ∀ c ∈ row, P c

theorem Rows.nil : Rows [] P [] := ⟨rfl, by simp⟩

theorem Rows.append (hp : p.Rows P rs) (hq : q.Rows P ss) : Rows (p ++ q) P (rs ++ ss) where
  chars_eq := by rw [chars_append, hp.chars_eq, hq.chars_eq, List.flatMap_append]
  allowed := List.forall_mem_append.2 ⟨hp.allowed, hq.allowed⟩

theorem rows_endRow (h : p.Uses P) : Rows (p ++ [endRow]) P [p.chars] where
  chars_eq := by simp [endRow]
  allowed := List.forall_mem_singleton.2 h

theorem Rows.uses (h : p.Rows P rs) (hbreak : P '\n') : p.Uses P := by
  rw [Uses, h.chars_eq]
  intro c hc
  obtain ⟨row, hrow, hc⟩ := List.mem_flatMap.1 hc
  rcases List.mem_append.1 hc with hc | hc
  · exact h.allowed row hrow c hc
  · exact List.mem_singleton.1 hc ▸ hbreak

theorem Rows.splitOn_eq (h : p.Rows (· ≠ '\n') rs) : p.chars.splitOn '\n' = rs ++ [[]] := by
  obtain ⟨hchars, hrows⟩ := h
  rw [hchars]
  clear hchars
  induction rs with
  | nil => simp
  | cons row rows ih =>
      rw [List.forall_mem_cons] at hrows
      have hrow : ∀ c ∈ row, (c == '\n') = false := fun c hc => beq_eq_false_iff_ne.2 (hrows.1 c hc)
      rw [List.flatMap_cons, List.append_assoc, List.singleton_append, List.splitOn_eq_splitOnP,
        List.splitOnP_append_cons_of_forall_mem hrow '\n' rfl, ← List.splitOn_eq_splitOnP, ih hrows.2,
        List.cons_append]

/-- The painting is drawn in rows, and shows the items in order, each in a row of its own. -/
def Shows (p : Painting) (P : Char → Prop) (items : List Item) : Prop :=
  ∃ rows, p.Rows P rows ∧ List.SublistForall₂ Item.ShownIn items rows

theorem shows_nil : Shows [] P [] := ⟨[], .nil, .nil⟩

theorem Shows.append (hp : p.Shows P is) (hq : q.Shows P js) : Shows (p ++ q) P (is ++ js) := by
  obtain ⟨rs, hrs, his⟩ := hp
  obtain ⟨ss, hss, hjs⟩ := hq
  obtain ⟨rs', his, hrs'⟩ := List.sublistForall₂_iff.1 his
  obtain ⟨ss', hjs, hss'⟩ := List.sublistForall₂_iff.1 hjs
  exact ⟨rs ++ ss, hrs.append hss, List.sublistForall₂_iff.2
    ⟨rs' ++ ss', List.rel_append his hjs, hrs'.append hss'⟩⟩

theorem shows_idle (h : p.Uses P) : Shows (p ++ [endRow]) P [] := ⟨_, rows_endRow h, .nil⟩

theorem shows_row {item : Item} (h : p.Uses P) (hitem : item.ShownIn p.chars) :
    Shows (p ++ [endRow]) P [item] :=
  ⟨_, rows_endRow h, .cons hitem .nil⟩

theorem shows_flatten_mapIdx {α : Type} {xs : List α} {f : Nat → α → Painting} {g : α → List Item}
    (h : ∀ i, ∀ x ∈ xs, (f i x).Shows P (g x)) : Shows (xs.mapIdx f).flatten P (xs.flatMap g) := by
  induction xs generalizing f with
  | nil => exact shows_nil
  | cons x xs ih =>
      rw [List.mapIdx_cons, List.flatten_cons, List.flatMap_cons]
      exact (h 0 x List.mem_cons_self).append (ih fun i y hy => h (i + 1) y (List.mem_cons_of_mem _ hy))

end Painting

open Painting

def AnnotatedLine.items (a : AnnotatedLine) : List Item :=
  .line a.index a.line :: a.marks.flatMap fun m => if m.bearsText then [.text m.label] else []

def Group.items (source : Source) (g : Group) : List Item :=
  ((g.annotated source).filter (·.isBusy)).flatMap (·.items)

/-- Only the first line of a help is introduced as such. -/
def helpItems (help : String) : List Item := (textLines help.toList).head?.toList.map .help

def reportItems (source : Source) (d : Diagnostic) (groups : List Group) : List Item :=
  groups.flatMap (·.items source) ++ if groups.isEmpty then [] else d.help.elim [] helpItems

section Walk

-- `P` allows all characters but some of the control characters.
variable {P : Char → Prop} (hP : ∀ c, ' ' ≤ c → P c)

include hP

namespace AnnotatedLine

variable {a : AnnotatedLine} (digits : Nat)

theorem shows_drawMark {m : Mark} (hm : ∀ c ∈ m.label.message.toList, P c) (row : Nat) :
    (a.drawMark digits row m).Shows P (if m.bearsText then [.text m.label] else []) := by
  have hmargin (stage : Stage) := a.isBlank_noteMargin digits row stage
  have hstems : IsBlank (a.noteMargin digits row .stem ++ (a.noteWidths.mapIdx (a.stemCell row)).flatten) :=
    uses_append.2 ⟨hmargin .stem, a.isBlank_cells (a.isBlank_stemCell row)⟩
  have harrow : IsBlank (a.noteMargin digits row .arrow ++ (a.noteWidths.mapIdx (a.arrowCell row m)).flatten) :=
    uses_append.2 ⟨hmargin .arrow, a.isBlank_cells (a.isBlank_arrowCell row m)⟩
  have hrows : a.drawMark digits row m =
      (a.noteMargin digits row .stem ++ (a.noteWidths.mapIdx (a.stemCell row)).flatten ++ [endRow]) ++
        (a.noteMargin digits row .arrow ++ (a.noteWidths.mapIdx (a.arrowCell row m)).flatten ++
          (if m.bearsText then [bare " ", bare m.label.message] else []) ++ [endRow]) := by
    simp only [drawMark, List.append_assoc]
  have hlast : Shows (a.noteMargin digits row .arrow ++ (a.noteWidths.mapIdx (a.arrowCell row m)).flatten ++
      (if m.bearsText then [bare " ", bare m.label.message] else []) ++ [endRow]) P
      (if m.bearsText then [.text m.label] else []) := by
    split
    · have htext : Uses P [bare " ", bare m.label.message] :=
        uses_cons.2 ⟨forall_mem_of_le hP (by decide), uses_singleton.2 hm⟩
      have hshown : Item.ShownIn (.text m.label) _ := ⟨_, harrow, rfl⟩
      refine shows_row (uses_append.2 ⟨harrow.uses hP, htext⟩) ?_
      simpa using hshown
    · exact shows_idle (uses_append.2 ⟨harrow.uses hP, uses_nil⟩)
  rw [hrows]
  exact (shows_idle (hstems.uses hP)).append hlast

omit hP in
theorem showsLine_source : ShowsLine a.index a.line (a.sourceMargin digits false ++ a.drawText).chars := by
  obtain ⟨blanks, htext, hblanks⟩ := Text.exists_trimRight_append a.line.text
  have hcells := isBlank_railCells a.rails (a.isBlank_sourceCells false)
  refine ⟨digits - (a.index + 1).repr.length + 1, _, a.shown, blanks, hcells, htext,
    Text.isWhitespace_getLast?_trimRight _, hblanks, ?_⟩
  rw [chars_append, chars_drawText, sourceMargin, if_neg Bool.false_ne_true, chars_append, chars_numberGutter]

theorem shows_draw (hline : ∀ c ∈ a.line.text, Text.isWhitespace c = false → P c)
    (hmarks : ∀ m ∈ a.marks, ∀ c ∈ m.label.message.toList, P c) : (a.draw digits).Shows P a.items := by
  have huses : (a.sourceMargin digits false ++ a.drawText).Uses P :=
    uses_append.2 ⟨a.uses_sourceMargin hP digits false, a.uses_drawText hP hline⟩
  have hshown : Item.ShownIn (.line a.index a.line) _ := showsLine_source digits
  exact (shows_row huses hshown).append
    (shows_flatten_mapIdx fun row m hm => shows_drawMark hP digits (hmarks m hm) row)

theorem shows_drawIdle : (a.drawIdle digits).Shows P [] := by
  unfold drawIdle
  split
  · exact shows_idle (a.uses_sourceMargin hP digits true)
  · exact shows_idle ((isBlank_blankGutter digits false).uses hP)

theorem shows_drawAll {lines : List AnnotatedLine}
    (hlines : ∀ a ∈ lines, ∀ c ∈ a.line.text, Text.isWhitespace c = false → P c)
    (hmarks : ∀ a ∈ lines, ∀ m ∈ a.marks, ∀ c ∈ m.label.message.toList, P c) (idle : Bool) :
    (drawAll digits idle lines).Shows P ((lines.filter (·.isBusy)).flatMap (·.items)) := by
  induction lines generalizing idle with
  | nil => exact shows_nil
  | cons a rest ih =>
      rw [List.forall_mem_cons] at hlines hmarks
      have hrest := ih hlines.2 hmarks.2
      unfold drawAll
      split
      · rename_i hbusy
        rw [List.filter_cons_of_pos hbusy, List.flatMap_cons]
        exact (shows_draw hP digits hlines.1 hmarks.1).append (hrest false)
      · rename_i hbusy
        rw [List.filter_cons_of_neg hbusy]
        have hidle : Shows (if idle then [] else a.drawIdle digits) P [] := by
          split
          · exact shows_nil
          · exact shows_drawIdle hP digits
        exact hidle.append (hrest true)

end AnnotatedLine

theorem shows_drawHelp {margin : Painting} (hmargin : margin.IsBlank) {help : String}
    (h : ∀ c ∈ help.toList, P c) : (drawHelp margin help).Shows P (helpItems help) := by
  have hlines : ∀ l ∈ textLines help.toList, ∀ c ∈ l, P c :=
    fun l hl c hc => h c (mem_of_mem_textLines hl hc)
  have hempty : Shows (margin ++ [endRow]) P [] := shows_idle (hmargin.uses hP)
  unfold drawHelp helpItems
  extract_lets start row
  have hstart (i : Nat) : (start i).Uses P := by
    unfold start
    split
    · exact uses_cons.2 ⟨forall_mem_of_le hP (by decide), uses_singleton.2 (forall_mem_of_le hP (by decide))⟩
    · exact uses_singleton.2 (forall_mem_of_le hP (by decide))
  have hrow (i : Nat) (l : List Char) :
      row i l = margin ++ start i ++ [bare (String.ofList l)] ++ [endRow] := by
    simp [row]
  have huses (i : Nat) {l : List Char} (hl : ∀ c ∈ l, P c) :
      (margin ++ start i ++ [bare (String.ofList l)]).Uses P := by
    refine uses_append.2 ⟨uses_append.2 ⟨hmargin.uses hP, hstart i⟩, uses_singleton.2 ?_⟩
    rwa [text_bare, String.toList_ofList]
  have hrows : Shows ((textLines help.toList).mapIdx row).flatten P
      ((textLines help.toList).head?.toList.map .help) := by
    cases hlines' : textLines help.toList with
    | nil => exact shows_nil
    | cons first rest =>
        rw [hlines', List.forall_mem_cons] at hlines
        have hshown : Item.ShownIn (.help first) (margin ++ start 0 ++ [bare (String.ofList first)]).chars :=
          ⟨_, hmargin, by simp [start]⟩
        have hfirst : Shows (row 0 first) P [.help first] := by
          rw [hrow]
          exact shows_row (huses 0 hlines.1) hshown
        have hrest : Shows (rest.mapIdx fun i => row (i + 1)).flatten P (rest.flatMap fun _ => []) := by
          refine shows_flatten_mapIdx fun i l hl => ?_
          rw [hrow]
          exact shows_idle (huses (i + 1) (hlines.2 l hl))
        have hnone : (rest.flatMap fun _ => ([] : List Item)) = [] := by simp
        rw [hnone] at hrest
        rw [List.mapIdx_cons, List.flatten_cons]
        exact hfirst.append hrest
  exact hempty.append hrows

namespace Group

variable {source : Source} (digits : Nat)

theorem shows_gap : Shows [blanks (digits + 2), ruleColour.paint "│", endRow] P [] := by
  have hblanks : ∀ c ∈ (blanks (digits + 2)).text.toList, P c := by
    rw [blanks, text_bare, toList_repeated]
    exact forall_mem_replicate hP (Char.le_refl ' ') _
  have huses : Uses P [blanks (digits + 2), ruleColour.paint "│"] :=
    uses_cons.2 ⟨hblanks, uses_singleton.2 (forall_mem_of_le hP (by decide))⟩
  exact shows_idle huses

theorem shows_drawTop {corner place : String} (hcorner : ∀ c ∈ corner.toList, P c)
    (hplace : ∀ c ∈ place.toList, P c) : (drawTop digits corner place).Shows P [] := by
  have hrule : Uses P [blanks (digits + 2), ruleColour.paint corner, ruleColour.paint "─",
      ruleColour.paint "[", bare (" <unknown>:" ++ place ++ " "), ruleColour.paint "]"] := by
    simp only [uses_cons, blanks, text_bare, Colour.text_paint, String.toList_append, List.forall_mem_append,
      toList_repeated]
    exact ⟨forall_mem_replicate hP (Char.le_refl ' ') _, hcorner, forall_mem_of_le hP (by decide),
      forall_mem_of_le hP (by decide),
      ⟨⟨forall_mem_of_le hP (by decide), hplace⟩, forall_mem_of_le hP (by decide)⟩,
      forall_mem_of_le hP (by decide), uses_nil⟩
  exact (shows_idle hrule).append (shows_gap hP digits)

theorem shows_drawBottom (g : Group) {help : Option String} (h : ∀ t ∈ help, ∀ c ∈ t.toList, P c) :
    (g.drawBottom source digits help).Shows P (help.elim [] helpItems) := by
  have hrule : Uses P [ruleColour.paint (repeated (digits + 2) '─' ++ "╯")] := by
    rw [uses_singleton]
    rw [Colour.text_paint, String.toList_append, List.forall_mem_append, toList_repeated]
    exact ⟨forall_mem_replicate hP (by decide) _, forall_mem_of_le hP (by decide)⟩
  have hhelp : Shows (help.elim [] fun t => drawHelp (g.helpMargin source digits) t) P
      (help.elim [] helpItems) := by
    cases help with
    | none => exact shows_nil
    | some t => exact shows_drawHelp hP (AnnotatedLine.isBlank_noteMargin _ digits 0 .stem) (h t rfl)
  have := hhelp.append (shows_idle hrule)
  rwa [List.append_nil] at this

theorem shows_lines {g : Group} (hlines : ∀ l ∈ source.lines, ∀ c ∈ l.text, Text.isWhitespace c = false → P c)
    (hlabels : ∀ l ∈ g.labels, ∀ c ∈ l.message.toList, P c) :
    (AnnotatedLine.drawAll digits false (g.annotated source)).Shows P (g.items source) := by
  apply AnnotatedLine.shows_drawAll hP digits
  · intro a ha
    obtain ⟨_, _, hline, _, _, rfl⟩ := mem_annotated_iff.1 ha
    exact hlines _ (List.mem_of_getElem? hline)
  · intro a ha m hm
    obtain ⟨_, _, _, _, _, rfl⟩ := mem_annotated_iff.1 ha
    exact hlabels _ (AnnotatedLine.label_mem_of_mem_marks hm)

end Group

theorem shows_drawGroups {source : Source} {d : Diagnostic} {digits : Nat} {corner : String}
    {groups : List Group} (hlines : ∀ l ∈ source.lines, ∀ c ∈ l.text, Text.isWhitespace c = false → P c)
    (htexts : ∀ t ∈ d.texts, ∀ c ∈ t.toList, P c)
    (hlabels : ∀ g ∈ groups, ∀ l ∈ g.labels, ∀ c ∈ l.message.toList, P c)
    (hcorner : ∀ c ∈ corner.toList, P c) :
    (drawGroups source d digits corner groups).Shows P (reportItems source d groups) := by
  induction groups generalizing corner with
  | nil => exact shows_nil
  | cons g rest ih =>
      rw [List.forall_mem_cons] at hlabels
      have htop := Group.shows_drawTop hP digits hcorner (forall_mem_location hP source d.span.start)
      have hgroup := htop.append (Group.shows_lines hP digits hlines hlabels.1)
      have hitems : reportItems source d (g :: rest) = g.items source ++
          (rest.flatMap (·.items source) ++ d.help.elim [] helpItems) := by
        simp [reportItems]
      rw [hitems]
      unfold drawGroups
      extract_lets lines
      refine hgroup.append ?_
      split
      · refine g.shows_drawBottom hP digits fun t ht => htexts t ?_
        simp [Diagnostic.texts, Option.mem_def.1 ht]
      · rename_i hrest
        have hcorner' : ∀ c ∈ "├".toList, P c := forall_mem_of_le hP (by decide)
        have hnext := ih hlabels.2 hcorner'
        rw [reportItems, if_neg (by simpa using hrest)] at hnext
        exact (Group.shows_gap hP digits).append hnext

theorem rows_heading {d : Diagnostic} (htexts : ∀ t ∈ d.texts, ∀ c ∈ t.toList, P c) :
    (heading d).Rows P [d.headline] where
  chars_eq := by rw [chars_heading, List.flatMap_singleton]
  allowed := List.forall_mem_singleton.2 (forall_mem_headline hP htexts)

theorem exists_rows_painting {source : Source} {d : Diagnostic}
    (hlines : ∀ l ∈ source.lines, ∀ c ∈ l.text, Text.isWhitespace c = false → P c)
    (htexts : ∀ t ∈ d.texts, ∀ c ∈ t.toList, P c) :
    ∃ rows, (painting source d).Rows P (d.headline :: rows) ∧
      List.SublistForall₂ Item.ShownIn (reportItems source d (Group.split source (d.labels source))) rows := by
  have hlabels : ∀ g ∈ Group.split source (d.labels source), ∀ l ∈ g.labels, ∀ c ∈ l.message.toList, P c := by
    intro g hg l hl
    have hplace := place_mem_of_mem_labels (Group.labels_subset_of_mem_split hg hl)
    have hmessage : l.message ∈ d.message :: d.related.map (·.message) :=
      d.map_snd_places ▸ List.mem_map_of_mem hplace
    exact htexts l.message (List.mem_append_left _ (List.mem_append_left _ hmessage))
  have hcorner : ∀ c ∈ "╭".toList, P c := forall_mem_of_le hP (by decide)
  obtain ⟨rows, hrows, hitems⟩ := shows_drawGroups hP hlines htexts hlabels hcorner
  exact ⟨rows, (rows_heading hP htexts).append hrows, hitems⟩

end Walk

end InterfaceCheck.Report
