import Mathlib.Data.List.Forall2
import InterfaceCheck.Proofs.Extendable
import InterfaceCheck.Ty.Build

namespace InterfaceCheck.Ty

theorem exists_left_of_forall₂ {α β : Type} {R : α → β → Prop} {xs : List α} {ys : List β} {y : β}
    (h : List.Forall₂ R xs ys) (hy : y ∈ ys) : ∃ x ∈ xs, R x y := by
  induction h with
  | nil => exact absurd hy List.not_mem_nil
  | cons hr _ ih =>
      rcases List.mem_cons.1 hy with rfl | hy
      · exact ⟨_, List.mem_cons_self, hr⟩
      · obtain ⟨x, hx, hr⟩ := ih hy
        exact ⟨x, List.mem_cons_of_mem _ hx, hr⟩

/-- Types with the same nodes, except that each object of one has any members at all in the other. -/
inductive Refitted : Ty → Ty → Prop
  | object (ms ms' f f') : Refitted ⟨.object ms, f⟩ ⟨.object ms', f'⟩
  | node (s : Shape (Ty × Ty)) (f f') (components : ∀ p ∈ s.children, Refitted p.1 p.2) :
      Refitted ⟨s.map Prod.fst, f⟩ ⟨s.map Prod.snd, f'⟩

/-- Types that are `Refitted` up to the end of a path. To the right of the path stand any parts, and as
many as there may be. -/
inductive RefittedUpTo : List Nat → Ty → Ty → Prop
  | here (t t') (refitted : Refitted t t') : RefittedUpTo [] t t'
  | part (ts ts' f f' k t t' p) (found : ts[k]? = some t) (found' : ts'[k]? = some t')
      (left : List.Forall₂ Refitted (ts.take k) (ts'.take k)) (inside : RefittedUpTo p t t') :
      RefittedUpTo (k :: p) ⟨.intersection ts, f⟩ ⟨.intersection ts', f'⟩

namespace Refitted

variable {t t' : Ty}

theorem kind_eq (h : Refitted t t') : t'.kind = t.kind := by
  cases h with
  | object => rfl
  | node s => exact (Shape.kind_map _ s).trans (Shape.kind_map _ s).symm

theorem offence?_eq (h : Refitted t t') : t'.offence? = t.offence? := by
  cases h with
  | object => rfl
  | node s =>
      cases s with
      | intersection ps => cases ps <;> rfl
      | param | primitive | array | function | object | union => rfl

theorem of_intersection {ts : List Ty} {f : Flags} (h : Refitted ⟨.intersection ts, f⟩ t') :
    ∃ ts' f', t' = ⟨.intersection ts', f'⟩ ∧ List.Forall₂ Refitted ts ts' := by
  generalize ht : (⟨.intersection ts, f⟩ : Ty) = t at h
  cases h with
  | object => cases ht
  | node s f f' components =>
      cases s with
      | intersection ps =>
          cases ht
          refine ⟨ps.map Prod.snd, f', rfl, ?_⟩
          rw [List.forall₂_map_left_iff, List.forall₂_map_right_iff, List.forall₂_same]
          exact components
      | param | primitive | array | function | object | union => cases ht

end Refitted

theorem extendable_of_kind {t : Ty} (h : t.kind = .object) : Extendable t := by
  rcases t with ⟨s, f⟩
  cases s with
  | object ms => exact .object ms f
  | param | primitive | array | function | union | intersection => cases h

theorem Refitted.extendable {t t' : Ty} (h : Refitted t t') (ht : Extendable t) : Extendable t' := by
  induction ht generalizing t' with
  | object ms f => exact extendable_of_kind h.kind_eq
  | intersection ts f nonempty _ ih =>
      obtain ⟨ts', f', rfl, hall⟩ := h.of_intersection
      refine .intersection ts' f' ?_ ?_
      · rintro rfl
        exact nonempty (List.forall₂_nil_right_iff.1 hall)
      · intro t' ht'
        obtain ⟨t, ht, hr⟩ := exists_left_of_forall₂ hall ht'
        exact ih t ht hr

theorem Refitted.accepted {t t' : Ty} (h : Refitted t t') (ht : t.verdict = .accepted) :
    t'.verdict = .accepted :=
  verdict_eq_accepted_iff.2 (h.extendable (verdict_eq_accepted_iff.1 ht))

theorem RefittedUpTo.exists_blames {t t' : Ty} {p : List Nat} {r : Rejection} (h : RefittedUpTo p t t')
    (hb : Blames t r) (hp : r.path = p) :
    ∃ r', Blames t' r' ∧ Refitted r.offending r'.offending ∧ r'.offence = r.offence ∧ r'.path = p := by
  induction h generalizing r with
  | here t t' refitted =>
      cases hb with
      | here t o fault =>
          exact ⟨⟨t', o, []⟩, .here t' o (refitted.offence?_eq.trans fault), refitted, rfl, rfl⟩
      | part => cases hp
  | part ts ts' f f' k t t' p found found' left _ ih =>
      cases hb with
      | here => cases hp
      | part ts f j u r foundu leftu blames =>
          -- The way down is the path, and so it goes on through the part that is found there.
          obtain ⟨rfl, rfl⟩ := List.cons.inj hp
          obtain rfl : t = u := Option.some.inj (found.symm.trans foundu)
          obtain ⟨r', hr', hoffending, hoffence, hpath⟩ := ih blames rfl
          have left' : ∀ v ∈ ts'.take j, v.verdict = .accepted := by
            intro v hv
            obtain ⟨u, hu, hr⟩ := exists_left_of_forall₂ left hv
            exact hr.accepted (leftu u hu)
          exact ⟨⟨r'.offending, r'.offence, j :: r'.path⟩, .part ts' f' j t' r' found' left' hr', hoffending,
            hoffence, congrArg (j :: ·) hpath⟩

theorem Refitted.upTo {t t' : Ty} {r : Rejection} (h : Refitted t t') (hb : Blames t r) :
    RefittedUpTo r.path t t' := by
  induction hb generalizing t' with
  | here t o fault => exact .here t t' h
  | part ts f k t r found _ _ ih =>
      obtain ⟨ts', f', rfl, hall⟩ := h.of_intersection
      obtain ⟨hlt, rfl⟩ := List.getElem?_eq_some_iff.1 found
      have hlt' : k < ts'.length := hall.length_eq ▸ hlt
      have hpart : Refitted ts[k] ts'[k] := hall.get hlt hlt'
      exact .part ts ts' f f' k _ _ r.path found (List.getElem?_eq_getElem hlt') (List.forall₂_take k hall)
        (ih hpart)

/-- The verdict is the same when the objects in a type, at any depth, get other members. It gives the same
reason and the same path also when the parts to the right of the path become others. -/
theorem verdict_overlooks {t t' : Ty}
    (h : Refitted t t' ∨ ∃ r, t.verdict = .rejected r ∧ RefittedUpTo r.path t t') :
    (t'.verdict = .accepted ↔ t.verdict = .accepted) ∧
    ∀ r r', t.verdict = .rejected r → t'.verdict = .rejected r' →
      Refitted r.offending r'.offending ∧ r'.offence = r.offence ∧ r'.path = r.path := by
  have hrejected : ∀ r, t.verdict = .rejected r → ∃ r', t'.verdict = .rejected r' ∧
      Refitted r.offending r'.offending ∧ r'.offence = r.offence ∧ r'.path = r.path := by
    intro r hr
    have hb := blames_iff.2 hr
    have hupto : RefittedUpTo r.path t t' := by
      rcases h with h | ⟨s, hs, h⟩
      · exact h.upTo hb
      · obtain rfl : r = s := Verdict.rejected.inj (hr.symm.trans hs)
        exact h
    obtain ⟨r', hr', hsame⟩ := hupto.exists_blames hb rfl
    exact ⟨r', blames_iff.1 hr', hsame⟩
  refine ⟨⟨?_, ?_⟩, ?_⟩
  · intro ht'
    cases ht : t.verdict with
    | accepted => rfl
    | rejected r =>
        obtain ⟨r', hr', _⟩ := hrejected r ht
        cases ht'.symm.trans hr'
  · intro ht
    rcases h with h | ⟨r, hr, _⟩
    · exact h.accepted ht
    · cases ht.symm.trans hr
  · intro r r' hr hr'
    obtain ⟨s, hs, hsame⟩ := hrejected r hr
    obtain rfl : s = r' := Verdict.rejected.inj (hs.symm.trans hr')
    exact hsame

def shelf : Ty :=
  intersection [object [⟨"a", param 0⟩],
    intersection [emptyObject, array (object [⟨"b", param 1⟩]), param 2], primitive .any]

def reshelved : Ty :=
  intersection [object [⟨"c", intersection []⟩, ⟨"a", param 3⟩],
    intersection [object [⟨"d", primitive .any⟩], array emptyObject, emptyObject]]

theorem verdict_overlooks_reshelved :
    shelf.verdict = .rejected ⟨array (object [⟨"b", param 1⟩]), .array, [1, 1]⟩ ∧
    RefittedUpTo [1, 1] shelf reshelved ∧
    ∃ r, reshelved.verdict = .rejected r ∧ r.offence = .array ∧ r.path = [1, 1] := by
  have hverdict : shelf.verdict = .rejected ⟨array (object [⟨"b", param 1⟩]), .array, [1, 1]⟩ := by decide
  have hitem : Refitted (array (object [⟨"b", param 1⟩])) (array emptyObject) :=
    .node (.array (_, _)) _ _ (List.forall_mem_singleton.2 (.object ..))
  have hupto : RefittedUpTo [1, 1] shelf reshelved :=
    .part _ _ _ _ 1 _ _ [1] rfl rfl (.cons (.object ..) .nil)
      (.part _ _ _ _ 1 _ _ [] rfl rfl (.cons (.object ..) .nil) (.here _ _ hitem))
  obtain ⟨haccepted, hsame⟩ := verdict_overlooks (.inr ⟨_, hverdict, hupto⟩)
  refine ⟨hverdict, hupto, ?_⟩
  cases hv : reshelved.verdict with
  | accepted => cases hverdict.symm.trans (haccepted.1 hv)
  | rejected r => exact ⟨r, rfl, (hsame _ r hverdict hv).2⟩

end InterfaceCheck.Ty
