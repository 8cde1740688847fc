import InterfaceCheck.Span

namespace InterfaceCheck.Span

theorem utf8Length_toList (s : String) : utf8Length s.toList = s.utf8ByteSize := by
  rw [← String.ofList_toList (s := s), String.toList_ofList]
  induction s.toList with
  | nil => rfl
  | cons c cs ih =>
      rw [utf8Length, ih, String.ofList_cons, String.utf8ByteSize_append, String.utf8ByteSize_singleton]

theorem cut?_eq_none_iff {n : Nat} {cs : List Char} : cut? n cs = none ↔ utf8Length cs < n ∨
    ∃ before c after, cs = before ++ c :: after ∧
      utf8Length before < n ∧ n < utf8Length before + c.utf8Size := by
  constructor
  · intro h
    fun_induction cut? n cs with
    | case1 => cases h
    | case2 n => exact .inl (Nat.succ_pos n)
    | case3 n c cs hle ih =>
        rcases ih (Option.map_eq_none_iff.1 h) with hlt | ⟨before, d, after, rfl, hlow, hhigh⟩
        · left
          rw [utf8Length]
          omega
        · refine .inr ⟨c :: before, d, after, rfl, ?_, ?_⟩
          · rw [utf8Length]
            omega
          · rw [utf8Length]
            omega
    | case4 n c cs hlt =>
        refine .inr ⟨[], c, cs, rfl, Nat.succ_pos n, ?_⟩
        rw [utf8Length]
        omega
  · rintro (hlt | ⟨before, c, after, rfl, hlow, hhigh⟩)
    · obtain ⟨k, rfl⟩ := Nat.exists_eq_add_of_lt hlt
      have h := cut?_utf8Length_add cs [] (k + 1)
      rwa [List.append_nil] at h
    · obtain ⟨k, rfl⟩ := Nat.exists_eq_add_of_lt hlow
      rw [Nat.add_assoc, cut?_utf8Length_add, cut?, if_neg (by omega)]
      rfl

/-- The position of `n` bytes lies behind the start of a character and before its end. -/
def IsInside (n : Nat) (source : String) : Prop :=
  ∃ (before : String) (c : Char) (after : String), source = before.push c ++ after ∧
    before.utf8ByteSize < n ∧ n < (before.push c).utf8ByteSize

theorem cut?_toList_eq_none_iff {n : Nat} {source : String} :
    cut? n source.toList = none ↔ source.utf8ByteSize < n ∨ IsInside n source := by
  rw [cut?_eq_none_iff, utf8Length_toList]
  apply or_congr_right
  constructor
  · rintro ⟨before, c, after, hsource, hlow, hhigh⟩
    rw [← String.toList_ofList (l := before), utf8Length_toList] at hlow hhigh
    refine ⟨.ofList before, c, .ofList after, ?_, hlow, ?_⟩
    · rw [← String.toList_inj, hsource]
      simp
    · rwa [String.utf8ByteSize_push]
  · rintro ⟨before, c, after, rfl, hlow, hhigh⟩
    rw [String.utf8ByteSize_push] at hhigh
    refine ⟨before.toList, c, after.toList, ?_, ?_, ?_⟩
    · simp
    · rwa [utf8Length_toList]
    · rwa [utf8Length_toList]

theorem cut?_toList_eq_some_iff {n : Nat} {source before after : String} :
    cut? n source.toList = some (before.toList, after.toList) ↔
      source = before ++ after ∧ before.utf8ByteSize = n := by
  rw [cut?_eq_some_iff, ← String.toList_append, String.toList_inj, utf8Length_toList]

def Covers (s : Span) (source text : String) : Prop :=
  ∃ before after, source = before ++ text ++ after ∧
    before.utf8ByteSize = s.start ∧ (before ++ text).utf8ByteSize = s.stop

theorem Covers.append {a b c : Nat} {source text next : String} (h : Covers ⟨a, b⟩ source text)
    (hnext : Covers ⟨b, c⟩ source next) : Covers ⟨a, c⟩ source (text ++ next) := by
  obtain ⟨before, rest, hsource, hstart, hmiddle⟩ := h
  obtain ⟨read, after, hsource', hread, hstop⟩ := hnext
  have hcut := cut?_toList_eq_some_iff.2 ⟨hsource, hmiddle⟩
  have hcut' := cut?_toList_eq_some_iff.2 ⟨hsource'.trans (String.append_assoc ..), hread⟩
  -- The end of the one text and the start of the other cut the source at the same place.
  have hsame : before ++ text = read := by
    obtain ⟨h, _⟩ := Prod.mk.inj (Option.some.inj (hcut.symm.trans hcut'))
    exact String.toList_inj.1 h
  refine ⟨before, after, ?_, hstart, ?_⟩
  · rw [hsource', ← hsame, @String.append_assoc before]
  · rwa [← String.append_assoc, hsame]

theorem textIn?_eq_some_iff {s : Span} {source text : String} :
    s.textIn? source = some text ↔ s.Covers source text := by
  constructor
  · intro h
    unfold textIn? at h
    split at h
    · cases h
    · obtain ⟨⟨before, rest⟩, hbefore, h⟩ := Option.bind_eq_some_iff.1 h
      obtain ⟨⟨taken, after⟩, htaken, h⟩ := Option.bind_eq_some_iff.1 h
      obtain rfl := Option.some.inj h
      obtain ⟨hsource, hstart⟩ := cut?_eq_some_iff.1 hbefore
      obtain ⟨rfl, hstop⟩ := cut?_eq_some_iff.1 htaken
      rw [← String.toList_ofList (l := before), utf8Length_toList] at hstart
      rw [← String.toList_ofList (l := taken), utf8Length_toList] at hstop
      refine ⟨.ofList before, .ofList after, ?_, hstart, ?_⟩
      · rw [← String.toList_inj, hsource]
        simp
      · rw [String.utf8ByteSize_append]
        omega
  · rintro ⟨before, after, hsource, hstart, hstop⟩
    rw [String.utf8ByteSize_append] at hstop
    have hbefore : cut? s.start source.toList = some (before.toList, (text ++ after).toList) :=
      cut?_toList_eq_some_iff.2 ⟨hsource.trans (String.append_assoc ..), hstart⟩
    have htext : cut? (s.stop - s.start) (text ++ after).toList = some (text.toList, after.toList) :=
      cut?_toList_eq_some_iff.2 ⟨rfl, by omega⟩
    rw [textIn?, if_neg (by omega), hbefore]
    simp only [Option.bind_eq_bind, Option.bind_some, htext, String.ofList_toList]

theorem textIn?_eq_none_iff {s : Span} {source : String} : s.textIn? source = none ↔
    s.stop < s.start ∨ cut? s.start source.toList = none ∨ cut? s.stop source.toList = none := by
  rw [textIn?]
  by_cases hrev : s.stop < s.start
  · simp [hrev]
  · rw [if_neg hrev]
    cases hbefore : cut? s.start source.toList with
    | none => simp
    | some cut =>
        obtain ⟨before, rest⟩ := cut
        obtain ⟨hsource, hstart⟩ := cut?_eq_some_iff.1 hbefore
        have hstop := cut?_utf8Length_add before rest (s.stop - s.start)
        rw [← hsource, hstart, Nat.add_sub_cancel' (Nat.le_of_not_lt hrev)] at hstop
        cases hrest : cut? (s.stop - s.start) rest with
        | none => simp [hrest, hstop]
        | some cut => simp [hrest, hstop, hrev]

/-- The text of a span is what its source holds between the two positions. There is none only for positions
in the wrong order, beyond the end of the source or inside one of its characters. Spans that meet have
texts that follow on each other. -/
theorem textIn?_slices_between_characters (s : Span) (source : String) :
    (∀ text, s.textIn? source = some text ↔ ∃ before after, source = before ++ text ++ after ∧
      before.utf8ByteSize = s.start ∧ (before ++ text).utf8ByteSize = s.stop) ∧
    (s.textIn? source = none ↔ s.stop < s.start ∨ source.utf8ByteSize < s.stop ∨
      IsInside s.start source ∨ IsInside s.stop source) ∧
    ∀ n text next, s.textIn? source = some text → textIn? ⟨s.stop, n⟩ source = some next →
      textIn? ⟨s.start, n⟩ source = some (text ++ next) := by
  refine ⟨fun text => textIn?_eq_some_iff, ?_, ?_⟩
  · rw [textIn?_eq_none_iff, cut?_toList_eq_none_iff, cut?_toList_eq_none_iff]
    constructor
    · rintro (hrev | (hout | hin) | hout | hin)
      · exact .inl hrev
      -- A start beyond the end is one behind the stop, unless the stop is beyond the end as well.
      · by_cases hrev : s.stop < s.start
        · exact .inl hrev
        · exact .inr (.inl (by omega))
      · exact .inr (.inr (.inl hin))
      · exact .inr (.inl hout)
      · exact .inr (.inr (.inr hin))
    · rintro (hrev | hout | hin | hin)
      · exact .inl hrev
      · exact .inr (.inr (.inl hout))
      · exact .inr (.inl (.inr hin))
      · exact .inr (.inr (.inr hin))
  · intro n text next htext hnext
    exact textIn?_eq_some_iff.2 ((textIn?_eq_some_iff.1 htext).append (textIn?_eq_some_iff.1 hnext))

def mixed : String := "aé€😀"

theorem textIn?_slices_mixed :
    textIn? ⟨1, 6⟩ mixed = some "é€" ∧ textIn? ⟨6, 10⟩ mixed = some "😀" ∧
    textIn? ⟨1, 10⟩ mixed = some "é€😀" ∧ textIn? ⟨10, 10⟩ mixed = some "" ∧
    IsInside 9 mixed ∧ textIn? ⟨6, 9⟩ mixed = none ∧ textIn? ⟨9, 9⟩ mixed = none := by
  have hinside : IsInside 9 mixed := ⟨"aé€", '😀', "", by decide, by decide, by decide⟩
  have hleft : textIn? ⟨1, 6⟩ mixed = some "é€" := by decide
  have hright : textIn? ⟨6, 10⟩ mixed = some "😀" := by decide
  obtain ⟨_, _, hjoin⟩ := textIn?_slices_between_characters ⟨1, 6⟩ mixed
  obtain ⟨hend, _, _⟩ := textIn?_slices_between_characters ⟨10, 10⟩ mixed
  obtain ⟨_, hstop, _⟩ := textIn?_slices_between_characters ⟨6, 9⟩ mixed
  obtain ⟨_, hboth, _⟩ := textIn?_slices_between_characters ⟨9, 9⟩ mixed
  refine ⟨hleft, hright, hjoin 10 "é€" "😀" hleft hright, ?_, hinside, ?_, ?_⟩
  · exact (hend "").2 ⟨mixed, "", by decide, by decide, by decide⟩
  · exact hstop.2 (.inr (.inr (.inr hinside)))
  · exact hboth.2 (.inr (.inr (.inl hinside)))

end InterfaceCheck.Span
