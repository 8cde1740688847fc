import Mathlib.Data.List.Nodup
import Mathlib.Data.List.Perm.Basic
import Mathlib.Data.List.Perm.Subperm
import InterfaceCheck.Proofs.Coverage
import InterfaceCheck.Proofs.Lines
import InterfaceCheck.Proofs.Rows

namespace InterfaceCheck.Report

theorem sublistForall₂_of_sublist {α β : Type} {R : α → β → Prop} {xs ys : List α} {zs : List β}
    (h : xs.Sublist ys) (hys : List.SublistForall₂ R ys zs) : List.SublistForall₂ R xs zs := by
  induction hys generalizing xs with
  | nil =>
      rw [List.sublist_nil.1 h]
      exact .nil
  | cons hr _ ih =>
      cases h with
      | cons _ h => exact .cons_right (ih h)
      | cons_cons _ h => exact .cons hr (ih h)
  | cons_right _ ih => exact .cons_right (ih h)

theorem exists_of_sublistForall₂ {α β : Type} {R : α → β → Prop} {x : α} {xs : List α} {ys : List β}
    (h : List.SublistForall₂ R xs ys) (hx : x ∈ xs) : ∃ y ∈ ys, R x y := by
  have hsingle := sublistForall₂_of_sublist (List.singleton_sublist.2 hx) h
  obtain ⟨ys', hforall, hsub⟩ := List.sublistForall₂_iff.1 hsingle
  obtain ⟨y, ys'', hr, _, rfl⟩ := List.forall₂_cons_left_iff.1 hforall
  exact ⟨y, hsub.mem List.mem_cons_self, hr⟩

namespace Group

variable {source : Source} {ls : List Label} {l : Label}

theorem text_mem_items (hsource : source.IsLined) (hls : ∀ l ∈ ls, l.Fits source) (hl : l ∈ ls) :
    .text l ∈ (ofLabels source ls).items source := by
  obtain ⟨a, ha, m, hm, rfl, hbears⟩ := exists_mark_of_mem_labels hsource hls hl
  refine List.mem_flatMap.2 ⟨a, List.mem_filter.2 ⟨ha, AnnotatedLine.isBusy_of_mem_marks hm⟩, ?_⟩
  refine List.mem_cons_of_mem _ (List.mem_flatMap.2 ⟨m, hm, ?_⟩)
  rw [if_pos hbears]
  exact List.mem_singleton_self _

theorem exists_line_mem_items (hsource : source.IsLined) (hls : ∀ l ∈ ls, l.Fits source) (hl : l ∈ ls)
    (hne : l.start < l.stop) {offset : Nat} (hoffset : offset = l.start ∨ offset = l.last) :
    ∃ i line, source.lines[i]? = some line ∧ line.holds offset = true ∧
      .line i line ∈ (ofLabels source ls).items source := by
  obtain ⟨i, line, hline, hholds, a, ha, rfl, rfl, hbusy⟩ :=
    exists_busy_of_mem_labels hsource hls hl hne hoffset
  exact ⟨_, _, hline, hholds,
    List.mem_flatMap.2 ⟨a, List.mem_filter.2 ⟨ha, hbusy⟩, List.mem_cons_self⟩⟩

end Group

section Items

variable {source : Source} {d : Diagnostic} {l : Label}

theorem text_mem_reportItems (hsource : source.IsLined) (hfits : ∀ l ∈ d.labels source, l.Fits source)
    (hl : l ∈ d.labels source) :
    .text l ∈ reportItems source d (Group.split source (d.labels source)) := by
  obtain ⟨ls, hls, hsub, hmem⟩ := Group.exists_mem_split hl
  have htext := Group.text_mem_items hsource (fun l' hl' => hfits l' (hsub hl')) hls
  exact List.mem_append_left _ (List.mem_flatMap.2 ⟨_, hmem, htext⟩)

theorem exists_line_mem_reportItems (hsource : source.IsLined) (hfits : ∀ l ∈ d.labels source, l.Fits source)
    (hl : l ∈ d.labels source) (hne : l.start < l.stop) {offset : Nat}
    (hoffset : offset = l.start ∨ offset = l.last) :
    ∃ i line, source.lines[i]? = some line ∧ line.holds offset = true ∧
      .line i line ∈ reportItems source d (Group.split source (d.labels source)) := by
  obtain ⟨ls, hls, hsub, hmem⟩ := Group.exists_mem_split hl
  obtain ⟨i, line, hline, hholds, hitem⟩ :=
    Group.exists_line_mem_items hsource (fun l' hl' => hfits l' (hsub hl')) hls hne hoffset
  exact ⟨i, line, hline, hholds, List.mem_append_left _ (List.mem_flatMap.2 ⟨_, hmem, hitem⟩)⟩

theorem help_mem_reportItems {help : String} (hhelp : help ∈ d.help) (hne : help ≠ "")
    (hbreak : '\n' ∉ help.toList) {groups : List Group} (hgroups : groups ≠ []) :
    .help help.toList ∈ reportItems source d groups := by
  refine List.mem_append_right _ ?_
  rw [if_neg (by simpa using hgroups), Option.mem_def.1 hhelp, Option.elim_some, helpItems,
    textLines_eq_singleton (mt String.toList_eq_nil_iff.1 hne) hbreak]
  exact List.mem_singleton_self _

end Items

/-- Labels have their texts in rows of their own, even where two have the same text. -/
theorem exists_subperm_rows {items : List Item} {rows : List (List Char)} {labels : List Label}
    (hitems : List.SublistForall₂ Item.ShownIn items rows) (hnodup : labels.Nodup)
    (hlabels : ∀ l ∈ labels, .text l ∈ items) :
    ∃ shown, shown.Subperm rows ∧ List.Forall₂ (fun l row => ShowsText l.message.toList row) labels shown := by
  have hinjective : Function.Injective Item.text := fun _ _ h => Item.text.inj h
  obtain ⟨texts, hperm, hsub⟩ := List.subperm_of_subset (hnodup.map hinjective)
    (List.forall_mem_map.2 hlabels)
  obtain ⟨rows', hforall, hrows⟩ := List.sublistForall₂_iff.1 (sublistForall₂_of_sublist hsub hitems)
  obtain ⟨shown, hshown, hperm'⟩ := List.perm_comp_forall₂ hperm.symm hforall
  exact ⟨shown, hperm'.subperm.trans hrows.subperm, (List.forall₂_map_left_iff (f := Item.text)).1 hshown⟩

/-- Nothing in a diagnostic is left out of its report. The message is in the first row and stands again
below the source, the message of every related entry stands there too, each in a row of its own, the help
has one, and every line of the source in which a span starts or ends is there with its number. -/
theorem report_leaves_nothing_out {source : String} {d : Diagnostic}
    (hspans : ∀ s ∈ d.span :: d.related.map (·.span), s.start ≤ s.stop ∧ s.stop ≤ source.length)
    (htexts : ∀ t ∈ d.texts, '\n' ∉ t.toList) :
    ∃ report rows, render .plain source [d] = .ok report ∧
      report.toList.splitOn '\n' = d.headline :: (rows ++ [[]]) ∧
      (∃ shown, shown.Subperm rows ∧ List.Forall₂ (fun text row => ShowsText text.toList row)
        (d.message :: d.related.map (·.message)) shown) ∧
      (∀ help ∈ d.help, help ≠ "" → ∃ row ∈ rows, ShowsHelp help.toList row) ∧
      ∀ s ∈ d.span :: d.related.map (·.span), s.start < s.stop →
        ∀ offset, offset = s.start ∨ offset = s.stop - 1 →
          ∃ i line, (Source.ofString source).lines[i]? = some line ∧ line.StandsIn source.toList ∧
            line.holds offset = true ∧ ∃ row ∈ rows, ShowsLine i line row := by
  have hsource := Source.isLined_ofString source
  have hplaces : ∀ p ∈ d.places, p.1.start ≤ p.1.stop ∧ p.1.stop ≤ source.length :=
    List.forall_mem_map.1 (d.map_fst_places ▸ hspans)
  have hnot : ¬ d.IsReversed := by
    rw [Diagnostic.isReversed_iff_places]
    rintro ⟨p, hp, hrev⟩
    exact Nat.not_lt.2 (hplaces p hp).1 hrev
  have hfits : ∀ l ∈ d.labels (.ofString source), l.Fits (.ofString source) :=
    fun l hl => fits_of_mem_labels hsource hplaces hl
  have hlabels : (d.labels (.ofString source)).map Label.place = d.places := by
    refine map_place_labels hsource fun p hp => ?_
    obtain ⟨hordered, hbounded⟩ := hplaces p hp
    exact ⟨Nat.le_trans hordered hbounded, Nat.le_succ_of_le hbounded⟩
  have hne : d.labels (.ofString source) ≠ [] := by
    intro hnil
    rw [hnil] at hlabels
    cases hlabels
  have hlines : ∀ l ∈ (Source.ofString source).lines, ∀ c ∈ l.text, Text.isWhitespace c = false →
      c ≠ '\n' := by
    rintro l _ c _ hblank rfl
    exact absurd hblank (by decide)
  obtain ⟨rows, hrows, hitems⟩ :=
    exists_rows_painting (ne_of_lt_space (by decide)) hlines fun t ht c hc he => htexts t ht (he ▸ hc)
  refine ⟨_, rows, render_singleton .plain source hnot, ?_, ?_, ?_, ?_⟩
  · rw [Painting.toList_write_plain, hrows.splitOn_eq, List.cons_append]
  · obtain ⟨shown, hsub, hforall⟩ := exists_subperm_rows hitems (nodup_labels _ d)
      fun l hl => text_mem_reportItems hsource hfits hl
    refine ⟨shown, hsub, ?_⟩
    rw [← d.map_snd_places, ← hlabels, List.map_map, List.forall₂_map_left_iff]
    exact hforall
  · intro help hhelp hsome
    have hbreak := htexts help (by simp [Diagnostic.texts, Option.mem_def.1 hhelp])
    have hrow := exists_of_sublistForall₂ hitems
      (help_mem_reportItems hhelp hsome hbreak (Group.split_ne_nil hne))
    exact hrow
  · intro s hs hlt offset hoffset
    rw [← d.map_fst_places, ← hlabels, List.map_map] at hs
    obtain ⟨l, hl, rfl⟩ := List.mem_map.1 hs
    have hends : offset = l.start ∨ offset = l.last := by rwa [Label.last_of_lt hlt]
    obtain ⟨i, line, hline, hholds, hitem⟩ := exists_line_mem_reportItems hsource hfits hl hlt hends
    have hstands := standsIn_of_mem_lines (List.mem_of_getElem? hline)
    have hrow := exists_of_sublistForall₂ hitems hitem
    exact ⟨i, line, hline, hstands, hholds, hrow⟩

/-- Labels over several lines that overlap, two of them with one text, and behind them labels in the first
line, of which the last is empty and starts where the line has ended. -/
def scattered : Diagnostic where
  message := "Types differ"
  span := ⟨4, 12⟩
  related := [⟨⟨9, 16⟩, "here"⟩, ⟨⟨9, 10⟩, "here"⟩, ⟨⟨0, 3⟩, "in this"⟩, ⟨⟨8, 8⟩, "before this"⟩]
  help := some "Write 'a' alone"
  code := some "E"

theorem report_leaves_nothing_out_scattered :
    (∀ s ∈ scattered.span :: scattered.related.map (·.span),
      s.start ≤ s.stop ∧ s.stop ≤ "let a =\n\tb + c\n日本\n".length) ∧
    (∀ t ∈ scattered.texts, '\n' ∉ t.toList) ∧
    ∃ report rows, render .plain "let a =\n\tb + c\n日本\n" [scattered] = .ok report ∧
      report.toList.splitOn '\n' = scattered.headline :: (rows ++ [[]]) ∧
      (∃ shown, shown.Subperm rows ∧ List.Forall₂ (fun text row => ShowsText text.toList row)
        (scattered.message :: scattered.related.map (·.message)) shown) ∧
      (∀ help ∈ scattered.help, help ≠ "" → ∃ row ∈ rows, ShowsHelp help.toList row) ∧
      ∀ s ∈ scattered.span :: scattered.related.map (·.span), s.start < s.stop →
        ∀ offset, offset = s.start ∨ offset = s.stop - 1 →
          ∃ i line, (Source.ofString "let a =\n\tb + c\n日本\n").lines[i]? = some line ∧
            line.StandsIn "let a =\n\tb + c\n日本\n".toList ∧ line.holds offset = true ∧
            ∃ row ∈ rows, ShowsLine i line row := by
  have hspans : ∀ s ∈ scattered.span :: scattered.related.map (·.span),
      s.start ≤ s.stop ∧ s.stop ≤ "let a =\n\tb + c\n日本\n".length := by decide
  have htexts : ∀ t ∈ scattered.texts, '\n' ∉ t.toList := by decide
  exact ⟨hspans, htexts, report_leaves_nothing_out hspans htexts⟩

end InterfaceCheck.Report
