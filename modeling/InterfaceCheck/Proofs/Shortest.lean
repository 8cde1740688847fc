import Mathlib.Data.String.Basic
import InterfaceCheck.Proofs.ReadBack

namespace InterfaceCheck

theorem sublist_intercalate {α : Type} (sep : String) {f g : α → String} {xs : List α}
    (h : ∀ x ∈ xs, (f x).toList.Sublist (g x).toList) :
    (sep.intercalate (xs.map f)).toList.Sublist (sep.intercalate (xs.map g)).toList := by
  induction xs with
  | nil => exact List.Sublist.refl _
  | cons x xs ih =>
      rw [List.forall_mem_cons] at h
      cases xs with
      | nil => simpa using h.1
      | cons y ys =>
          have hrest := ih h.2
          simp only [List.map_cons, String.intercalate_cons_cons, String.toList_append] at hrest ⊢
          exact (h.1.append (List.Sublist.refl _)).append hrest

theorem sublist_parametersText {f : String × Ty → String × Ty} {ps : List (String × Ty)}
    (h : ∀ p ∈ ps, (f p).1.toList.Sublist p.1.toList) :
    (parametersText (ps.map f)).toList.Sublist (parametersText ps).toList := by
  rw [parametersText, parametersText, List.mapIdx_eq_zipIdx_map, List.mapIdx_eq_zipIdx_map,
    List.zipIdx_map, List.map_map]
  apply sublist_intercalate
  rintro ⟨p, i⟩ hp
  simp only [parameterText, String.toList_append, Function.comp_apply, Prod.map]
  exact (List.Sublist.refl _).append (h p (List.fst_mem_of_mem_zipIdx hp))

theorem sublist_membersText {f : String × Ty → String × Ty} {ms : List (Member (String × Ty))}
    (h : ∀ m ∈ ms, (f m.type).1.toList.Sublist m.type.1.toList) :
    (membersText (ms.map (·.map f))).toList.Sublist (membersText ms).toList := by
  rw [membersText, membersText, List.map_map]
  apply sublist_intercalate
  intro m hm
  simp only [memberText, Member.map, String.toList_append, Function.comp_apply]
  exact (List.Sublist.refl _).append (h m hm)

namespace Phrase

variable {p : Phrase} {place : Binding}

theorem inPlace_mk {b : Binding} (h : place.rank ≤ b.rank) (text : String) :
    inPlace place ⟨b, text⟩ = text :=
  if_neg (Nat.not_lt_of_le h)

/-- In a place that demands less a phrase is written as it is elsewhere, or without its parentheses. -/
theorem inPlace_sublist {place' : Binding} (h : place.rank ≤ place'.rank) :
    (p.inPlace place).toList.Sublist (p.inPlace place').toList := by
  by_cases hp : p.binding.rank < place.rank
  · have hp' : p.binding.rank < place'.rank := Nat.lt_of_lt_of_le hp h
    rw [inPlace, inPlace, if_pos hp, if_pos hp']
  · rw [inPlace, if_neg hp]
    exact (p.infix_inPlace place').sublist

theorem inPlace_sublist_parens {s : String} (h : p.text.toList.Sublist s.toList) :
    (p.inPlace place).toList.Sublist ("(" ++ s ++ ")").toList := by
  unfold inPlace
  split
  · simp only [String.toList_append]
    exact ((List.Sublist.refl _).append h).append (List.Sublist.refl _)
  · exact h.trans (infix_enclosed "(" s ")").sublist

end Phrase

namespace Ty

theorem phrase_array (e : Ty) : (array e).phrase = ⟨.atom, e.phrase.inPlace .atom ++ "[]"⟩ := phrase_eq _

theorem phrase_function (ps : List Ty) (r : Ty) : (function ps r).phrase =
    ⟨.arrow, "(" ++ parametersText (ps.map (operand .arrow)) ++ ") => " ++ r.phrase.inPlace .arrow⟩ := by
  rw [parametersText_operand]
  exact phrase_eq _

theorem phrase_object {ms : List (Member Ty)} (h : ms ≠ []) : (intern (.object ms)).phrase =
    ⟨.atom, "\x7b " ++ membersText (ms.map (·.map (operand .arrow))) ++ " \x7d"⟩ := by
  obtain ⟨m, ms, rfl⟩ := List.exists_cons_of_ne_nil h
  rw [membersText_operand]
  exact phrase_eq _

theorem phrase_union (ts : List Ty) : (intern (.union ts)).phrase =
    ⟨.union, " | ".intercalate ((ts.map (operand .intersection)).map (·.1))⟩ := by
  rw [map_fst_operand]
  exact phrase_eq _

theorem phrase_intersection {ts : List Ty} (h : ts ≠ []) : (intern (.intersection ts)).phrase =
    ⟨.intersection, " & ".intercalate ((ts.map (operand .atom)).map (·.1))⟩ := by
  obtain ⟨t, ts, rfl⟩ := List.exists_cons_of_ne_nil h
  rw [map_fst_operand]
  exact phrase_eq _

end Ty

def Category.place : Category → Binding
  | type => .arrow
  | union => .union
  | intersection => .intersection
  | array | atom => .atom

theorem chain_sublist {node : List Ty → Shape Ty} {sep : String} {place inner : Binding}
    (hphrase : ∀ ts, ts ≠ [] → (Ty.intern (node ts)).phrase =
      ⟨place, sep.intercalate ((ts.map (Ty.operand inner)).map (·.1))⟩)
    (hinner : place.rank ≤ inner.rank) {xs : List (String × Ty)} (hxs : xs ≠ [])
    (h : ∀ x ∈ xs, (x.2.phrase.inPlace inner).toList.Sublist x.1.toList) :
    ((chain node (xs.map (·.2))).phrase.inPlace place).toList.Sublist
      (sep.intercalate (xs.map (·.1))).toList := by
  match xs with
  | [] => exact absurd rfl hxs
  | [x] =>
      have hx := h x List.mem_cons_self
      simpa using (Phrase.inPlace_sublist hinner).trans hx
  | x :: y :: xs =>
      rw [chain_of_two_le node (by simp), hphrase _ (by simp), Phrase.inPlace_mk (Nat.le_refl _),
        List.map_map, List.map_map]
      exact sublist_intercalate sep h

/-- A text has in it what is written for its type in the place where the text can stand. -/
theorem Spells.inPlace_sublist {c : Category} {s : String} {t : Ty} (h : Spells c s t) :
    (t.phrase.inPlace c.place).toList.Sublist s.toList := by
  induction h with
  | function ps s t params result ihp ihr =>
      have hparams : (parametersText ((ps.map (·.2)).map (Ty.operand .arrow))).toList.Sublist
          (parametersText ps).toList := by
        rw [List.map_map]
        exact sublist_parametersText ihp
      rw [Category.place, Ty.phrase_function, Phrase.inPlace_mk (Nat.le_refl _)]
      simp only [String.toList_append]
      exact (((List.Sublist.refl _).append hparams).append (List.Sublist.refl _)).append ihr
  | ofUnion s t _ ih => exact (Phrase.inPlace_sublist (Nat.zero_le _)).trans ih
  | union xs nonempty _ ih => exact chain_sublist (fun ts _ => Ty.phrase_union ts) (by decide) nonempty ih
  | intersection xs nonempty _ ih =>
      exact chain_sublist (fun ts => Ty.phrase_intersection) (by decide) nonempty ih
  | array n s t _ ih =>
      -- An array binds as tightly as an atom, so that no place asks for more on the way out.
      induction n with
      | zero => simpa [Category.place] using ih
      | succ n ihn =>
          have hbrackets := ihn.append (List.Sublist.refl "[]".toList)
          rw [← String.toList_append, ← String.toList_append, String.append_assoc,
            ← join_replicate_succ] at hbrackets
          rw [Category.place, Function.iterate_succ_apply', Ty.phrase_array, Phrase.inPlace_mk (Nat.le_refl _)]
          exact hbrackets
  | primitive p => exact List.Sublist.refl _
  | param n => exact List.Sublist.refl _
  | emptyObject => exact List.Sublist.refl _
  | object ms nonempty names _ ih =>
      have hmembers : (membersText ((ms.map (·.map Prod.snd)).map (·.map (Ty.operand .arrow)))).toList.Sublist
          (membersText ms).toList := by
        rw [List.map_map]
        exact sublist_membersText (f := Ty.operand .arrow ∘ Prod.snd) ih
      rw [Category.place, Ty.phrase_object (by simpa using nonempty), Phrase.inPlace_mk (Nat.le_refl _)]
      simp only [String.toList_append]
      exact ((List.Sublist.refl _).append hmembers).append (List.Sublist.refl _)
  | emptyIntersection => exact List.Sublist.refl _
  | parens s t _ ih =>
      rw [Category.place, Ty.inPlace_arrow] at ih
      exact Phrase.inPlace_sublist_parens ih

namespace Ty

/-- Of all texts that mean a type the displayed one is the shortest, in characters and in bytes: it is what
is left of any other text when some of its characters are taken away. -/
theorem display_is_shortest {t : Ty} (hi : t.Interned) (hr : t.Readable) :
    Spells .type t.display t ∧ ∀ s, Spells .type s t → t.display.toList.Sublist s.toList ∧
      t.display.length ≤ s.length ∧ t.display.utf8ByteSize ≤ s.utf8ByteSize := by
  refine ⟨spells_display hi hr, ?_⟩
  intro s h
  have hsub := h.inPlace_sublist
  rw [Category.place, inPlace_arrow] at hsub
  refine ⟨hsub, ?_, ?_⟩
  · rw [← String.length_toList, ← String.length_toList]
    exact hsub.length_le
  · rw [← String.utf8Len_toList, ← String.utf8Len_toList]
    exact String.utf8Len_le_of_sublist hsub

def callbacks : Ty := array (union [function [] (primitive .void), primitive .null])

theorem display_is_shortest_callbacks :
    callbacks.Interned ∧ callbacks.Readable ∧ callbacks.display = "((() => void) | null)[]" ∧
    Spells .type "(((() => void) | null)[])" callbacks ∧ ∀ s, Spells .type s callbacks → 23 ≤ s.length := by
  have hi : callbacks.Interned := by decide
  have hr : callbacks.Readable := by decide
  have hdisplay : callbacks.display = "((() => void) | null)[]" := by decide
  obtain ⟨hspells, hshortest⟩ := display_is_shortest hi hr
  rw [hdisplay] at hspells hshortest
  have hparens : Spells Binding.atom.category "(((() => void) | null)[])" callbacks :=
    (Spells.parens _ _ hspells).ofAtom
  exact ⟨hi, hr, hdisplay, hparens.ofCategory, fun s hs => (hshortest s hs).2.1⟩

end Ty

end InterfaceCheck
