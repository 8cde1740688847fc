import InterfaceCheck.Ty.Display
import InterfaceCheck.Proofs.Interned
import InterfaceCheck.Proofs.Syntax

namespace InterfaceCheck

/-- Whether the syntax can name a node: it has no union of less than two alternatives and no
intersection of a single part, and a colon ends the name of a member. -/
def Shape.Readable {α : Type} : Shape α → Prop
  | .union ts => 2 ≤ ts.length
  | .intersection ts => ts.length ≠ 1
  | .object ms => ∀ m ∈ ms, ':' ∉ m.name.toList
  | .param _ | .primitive _ | .array _ | .function _ _ => True

instance {α : Type} (s : Shape α) : Decidable s.Readable :=
  match s with
  | .union ts => inferInstanceAs (Decidable (2 ≤ ts.length))
  | .intersection ts => inferInstanceAs (Decidable (ts.length ≠ 1))
  | .object ms => inferInstanceAs (Decidable (∀ m ∈ ms, ':' ∉ m.name.toList))
  | .param _ | .primitive _ | .array _ | .function _ _ => .isTrue trivial

def Ty.Readable (t : Ty) : Prop := ∀ u ∈ t.nodes, u.shape.Readable

instance (t : Ty) : Decidable t.Readable := inferInstanceAs (Decidable (∀ u ∈ t.nodes, u.shape.Readable))

theorem Ty.readable_iff {t : Ty} : t.Readable ↔ t.shape.Readable ∧ ∀ c ∈ t.children, c.Readable :=
  forall_mem_nodes

def Binding.category : Binding → Category
  | arrow => .type
  | union => .union
  | intersection => .intersection
  | atom => .array

theorem join_replicate_succ (n : Nat) (s : String) :
    String.join (List.replicate (n + 1) s) = String.join (List.replicate n s) ++ s := by
  rw [List.replicate_succ', String.join_append, String.join_cons, String.join_nil, String.append_empty]

namespace Spells

variable {s : String} {t : Ty}

theorem ofAtom (h : Spells .atom s t) : Spells .array s t := by
  simpa using Spells.array 0 s t h

theorem ofArray (h : Spells .array s t) : Spells .intersection s t := by
  simpa using Spells.intersection [(s, t)] (by simp) (by simpa using h)

theorem ofIntersection (h : Spells .intersection s t) : Spells .union s t := by
  simpa using Spells.union [(s, t)] (by simp) (by simpa using h)

theorem brackets (h : Spells .array s t) : Spells .array (s ++ "[]") (Ty.array t) := by
  cases h with
  | array n s t elem =>
      rw [String.append_assoc, ← join_replicate_succ, ← Function.iterate_succ_apply' Ty.array]
      exact .array (n + 1) s t elem

theorem ofCategory {b : Binding} (h : Spells b.category s t) : Spells .type s t := by
  cases b with
  | arrow => exact h
  | union => exact .ofUnion s t h
  | intersection => exact .ofUnion s t h.ofIntersection
  | atom => exact .ofUnion s t h.ofArray.ofIntersection

theorem loosen {b place : Binding} (h : Spells b.category s t) (hle : place.rank ≤ b.rank) :
    Spells place.category s t := by
  cases place with
  | arrow => exact h.ofCategory
  | union =>
      cases b with
      | arrow => simp [Binding.rank] at hle
      | union => exact h
      | intersection => exact h.ofIntersection
      | atom => exact h.ofArray.ofIntersection
  | intersection =>
      cases b with
      | arrow | union => simp [Binding.rank] at hle
      | intersection => exact h
      | atom => exact h.ofArray
  | atom =>
      cases b with
      | arrow | union | intersection => simp [Binding.rank] at hle
      | atom => exact h

theorem inPlace {p : Phrase} (h : Spells p.binding.category p.text t) (place : Binding) :
    Spells place.category (p.inPlace place) t := by
  unfold Phrase.inPlace
  split
  · have hparens : Spells Binding.atom.category ("(" ++ p.text ++ ")") t :=
      (Spells.parens p.text t h.ofCategory).ofAtom
    exact hparens.loosen (by cases place <;> decide)
  · exact h.loosen (by omega)

end Spells

namespace Ty

def operand (place : Binding) (t : Ty) : String × Ty := (t.phrase.inPlace place, t)

theorem map_fst_operand (place : Binding) (ts : List Ty) :
    (ts.map (operand place)).map (·.1) = (ts.map phrase).map (Phrase.inPlace place) := by
  rw [List.map_map, List.map_map]
  rfl

theorem map_snd_operand (place : Binding) (ts : List Ty) : (ts.map (operand place)).map (·.2) = ts := by
  rw [List.map_map]
  exact List.map_id ts

theorem parametersText_operand (ps : List Ty) :
    parametersText (ps.map (operand .arrow)) =
      ", ".intercalate ((ps.map phrase).mapIdx Phrase.parameter) := by
  rw [parametersText, List.mapIdx_eq_zipIdx_map, List.mapIdx_eq_zipIdx_map, List.zipIdx_map,
    List.zipIdx_map, List.map_map, List.map_map]
  rfl

theorem membersText_operand (ms : List (Member Ty)) :
    membersText (ms.map (·.map (operand .arrow))) =
      "; ".intercalate ((ms.map (·.map phrase)).map Phrase.member) := by
  rw [membersText, List.map_map, List.map_map]
  rfl

theorem map_map_snd_operand (place : Binding) (ms : List (Member Ty)) :
    (ms.map (·.map (operand place))).map (·.map Prod.snd) = ms := by
  rw [List.map_map]
  exact List.map_id ms

theorem spells_phrase {t : Ty} (hi : t.Interned) (hr : t.Readable) :
    Spells t.phrase.binding.category t.phrase.text t := by
  induction t using ind with
  | step t ih =>
      have hplace (place : Binding) : ∀ c ∈ t.children, Spells place.category (c.phrase.inPlace place) c := by
        intro c hc
        have hc' := ih c hc (hi.children hc) ((readable_iff.1 hr).2 c hc)
        exact hc'.inPlace place
      have hshape := (readable_iff.1 hr).1
      obtain ⟨s, rfl⟩ : ∃ s, t = intern s := ⟨_, hi.eq_intern⟩
      rw [phrase_eq, shape_intern]
      cases s with
      | param n => exact (Spells.param n).ofAtom
      | primitive p => exact (Spells.primitive p).ofAtom
      | array e => exact (hplace .atom e List.mem_cons_self).brackets
      | function ps r =>
          have hps : ∀ x ∈ ps.map (operand .arrow), Spells .type x.1 x.2 :=
            List.forall_mem_map.2 fun c hc => hplace .arrow c (List.mem_append_left _ hc)
          have hresult := hplace .arrow r (List.mem_append_right _ (List.mem_singleton_self r))
          have h := Spells.function _ _ r hps hresult
          rw [parametersText_operand, map_snd_operand] at h
          exact h
      | object ms =>
          cases ms with
          | nil => exact Spells.emptyObject.ofAtom
          | cons m ms =>
              have htypes : ∀ x ∈ (m :: ms).map (·.map (operand .arrow)), Spells .type x.type.1 x.type.2 :=
                List.forall_mem_map.2 fun x hx => hplace .arrow x.type (List.mem_map_of_mem hx)
              have hnames : ∀ x ∈ (m :: ms).map (·.map (operand .arrow)), ':' ∉ x.name.toList :=
                List.forall_mem_map.2 hshape
              have h := (Spells.object _ (by simp) hnames htypes).ofAtom
              rw [membersText_operand, map_map_snd_operand] at h
              exact h
      | union ts =>
          have hts : ∀ x ∈ ts.map (operand .intersection), Spells .intersection x.1 x.2 :=
            List.forall_mem_map.2 (hplace .intersection)
          have hne : ts.map (operand .intersection) ≠ [] := by
            rintro hnil
            simp [List.map_eq_nil_iff.1 hnil, Shape.Readable] at hshape
          have h := Spells.union _ hne hts
          rw [map_fst_operand, map_snd_operand, chain_of_two_le _ hshape] at h
          exact h
      | intersection ts =>
          cases ts with
          | nil => exact Spells.emptyIntersection.ofAtom
          | cons t ts =>
              have hts : ∀ x ∈ (t :: ts).map (operand .atom), Spells .array x.1 x.2 :=
                List.forall_mem_map.2 (hplace .atom)
              have htwo : 2 ≤ (t :: ts).length := by
                simp [Shape.Readable] at hshape ⊢
                exact List.length_pos_iff.2 hshape
              have h := Spells.intersection _ (by simp) hts
              rw [map_fst_operand, map_snd_operand, chain_of_two_le _ htwo] at h
              exact h

theorem spells_display {t : Ty} (hi : t.Interned) (hr : t.Readable) : Spells .type t.display t :=
  (spells_phrase hi hr).ofCategory

/-- The text of a type means this type and no other. Readable types are therefore told apart by their
texts. -/
theorem display_reads_back {t : Ty} (hi : t.Interned) (hr : t.Readable) :
    (∀ u, Spells .type t.display u ↔ u = t) ∧
    ∀ u, u.Interned → u.Readable → u.display = t.display → Ty.same u t = true := by
  have ht := spells_display hi hr
  constructor
  · intro u
    constructor
    · intro hu
      exact hu.unique ht
    · rintro rfl
      exact ht
  · intro u hiu hru he
    have hu := spells_display hiu hru
    rw [he] at hu
    exact same_iff.2 (hu.unique ht)

def tangled : Ty :=
  function [union [function [] (param 7), array (union [primitive .null, param 10])], intersection []]
    (intersection
      [object [⟨"\x7d | (", array (array (primitive .any))⟩],
        intern (.union [emptyObject, intersection [param 1, param 1]])])

theorem tangled_reads_back :
    tangled.Interned ∧ tangled.Readable ∧
    tangled.display = "(arg0: (() => T7) | (null | T10)[], arg1: (empty intersection)) => " ++
      "\x7b \x7d | (: any[][] \x7d & (\x7b\x7d | T1 & T1)" ∧
    ∀ u, Spells .type tangled.display u ↔ u = tangled :=
  have hi : tangled.Interned := by decide
  have hr : tangled.Readable := by decide
  ⟨hi, hr, by decide, (display_reads_back hi hr).1⟩

end Ty

end InterfaceCheck
