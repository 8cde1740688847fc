import InterfaceCheck.Proofs.Literal
import InterfaceCheck.Ty.Dump
import InterfaceCheck.Ty.Traversal

namespace InterfaceCheck

/-- The text of `x` begins no text of another item, nor does one of these begin it. -/
def SetsApart {α : Type} (text : α → String) (x : α) : Prop :=
  ∀ y us vs, (text x).toList ++ us = (text y).toList ++ vs → x = y

def Kind.word : Kind → String
  | param => "TypeParam"
  | primitive => "Primitive"
  | array => "Array"
  | function => "Function"
  | object => "Object"
  | union => "Union"
  | intersection => "Intersection"

theorem Kind.word_cut {k l : Kind} {us vs : List Char} (h : k.word.toList ++ us = l.word.toList ++ vs) :
    k = l := by
  have hhead : k.word.toList.head? = l.word.toList.head? := by
    have hne (k : Kind) : k.word.toList ≠ [] := by cases k <;> decide
    rw [← List.head?_append_of_ne_nil _ (hne k), h, List.head?_append_of_ne_nil _ (hne l)]
  cases k <;> cases l <;> first | rfl | exact absurd hhead (by decide)

theorem Flags.dump_injective {f g : Flags} (h : f.dump = g.dump) : f = g := by
  have hlength := congrArg String.length h
  rcases f with ⟨_ | _, _ | _⟩ <;> rcases g with ⟨_ | _, _ | _⟩ <;>
    first | rfl | exact absurd hlength (by decide)

theorem Flags.forall_mem_dump (f : Flags) : ∀ c ∈ f.dump.toList, (c != ')') = true := by
  rw [← List.all_eq_true]
  rcases f with ⟨_ | _, _ | _⟩ <;> decide

theorem Primitive.forall_mem_name (p : Primitive) : ∀ c ∈ p.name.toList, (c != ')') = true := by
  rw [← List.all_eq_true]
  cases p <;> decide

namespace Shape

variable {α : Type} {text : α → String} {us vs : List Char}

theorem dumpList_cut {xs ys : List α} (hxs : ∀ x ∈ xs, SetsApart text x)
    (hopen : ∀ y us vs, (text y).toList ++ us ≠ ']' :: vs)
    (h : (dumpList (xs.map text)).toList ++ us = (dumpList (ys.map text)).toList ++ vs) :
    xs = ys ∧ us = vs := by
  have hno (z : α) (zs : List α) (us vs : List Char) :
      (", ".intercalate ((z :: zs).map text)).toList ++ us ≠ ']' :: vs := by
    obtain ⟨rest, hrest⟩ := prefix_intercalate ", " (text z) (zs.map text)
    rw [List.map_cons, ← hrest, List.append_assoc]
    exact hopen z _ _
  simp only [dumpList, String.toList_append, List.append_assoc] at h
  have h := List.append_cancel_left h
  cases xs with
  | nil =>
      cases ys with
      | nil => exact ⟨rfl, by simpa using h⟩
      | cons y ys => exact absurd h.symm (hno y ys _ _)
  | cons x xs =>
      cases ys with
      | nil => exact absurd h (hno x xs _ _)
      | cons y ys =>
          rw [String.toList_intercalate, String.toList_intercalate, List.map_map, List.map_map] at h
          have hcut : ∀ a ∈ x :: xs, ∀ b ∈ y :: ys, ∀ us vs, True → True →
              (text a).toList ++ us = (text b).toList ++ vs → a = b :=
            fun a ha b _ us vs _ _ he => hxs a ha b us vs he
          obtain ⟨hxys, hrest⟩ := intercalate_cut (by simp) (by simp) hcut (fun _ => trivial) trivial trivial
            (by simp) (by simp) h
          exact ⟨hxys, List.append_cancel_left hrest⟩

theorem setsApart_dumpMember {m : Member α} (h : SetsApart text m.type) :
    SetsApart (fun m => dumpMember (m.map text)) m := by
  intro n us vs he
  simp only [dumpMember, Member.map, String.toList_append, List.append_assoc] at he
  obtain ⟨hname, hrest⟩ := Text.literal_cut (List.append_cancel_left he)
  have htype : m.type = n.type := h n.type _ _ (List.append_cancel_left hrest)
  calc m = ⟨m.name, m.type⟩ := rfl
    _ = ⟨n.name, n.type⟩ := by rw [hname, htype]

theorem word_prefix (s : Shape String) : s.kind.word.toList <+: s.dump.toList := by
  cases s <;> simp [kind, Kind.word]

theorem kind_eq_of_dump {s s' : Shape String} (h : s.dump.toList ++ us = s'.dump.toList ++ vs) :
    s.kind = s'.kind := by
  obtain ⟨rest, hrest⟩ := s.word_prefix
  obtain ⟨rest', hrest'⟩ := s'.word_prefix
  rw [← hrest, ← hrest', List.append_assoc, List.append_assoc] at h
  exact Kind.word_cut h

theorem dump_cut {s s' : Shape α} (hs : ∀ c ∈ s.children, SetsApart text c)
    (hopen : ∀ y us vs, (text y).toList ++ us ≠ ']' :: vs)
    (h : (s.map text).dump.toList ++ us = (s'.map text).dump.toList ++ vs) : s = s' := by
  have hkind := kind_eq_of_dump h
  rw [kind_map, kind_map] at hkind
  cases s with
  | param n =>
      cases s' with
      | param n' =>
          simp only [map, dump_param, String.toList_append, List.append_assoc] at h
          obtain ⟨hn, _⟩ := repr_cut (List.append_cancel_left h) (by simp) (by simp)
          rw [UInt16.toNat_inj.1 hn]
      | primitive | array | function | object | union | intersection => cases hkind
  | primitive p =>
      cases s' with
      | primitive p' =>
          simp only [map, dump_primitive, String.toList_append, List.append_assoc] at h
          obtain ⟨hp, _⟩ := cut_unique (List.append_cancel_left h) p.forall_mem_name p'.forall_mem_name
            (by simp) (by simp)
          rw [Primitive.name_injective (String.toList_inj.1 hp)]
      | param | array | function | object | union | intersection => cases hkind
  | array e =>
      cases s' with
      | array e' =>
          simp only [map, dump_array, String.toList_append, List.append_assoc] at h
          rw [hs e List.mem_cons_self e' _ _ (List.append_cancel_left h)]
      | param | primitive | function | object | union | intersection => cases hkind
  | function ps r =>
      cases s' with
      | function ps' r' =>
          simp only [map, dump_function, String.toList_append, List.append_assoc] at h
          obtain ⟨hps, hrest⟩ := dumpList_cut (fun p hp => hs p (List.mem_append_left _ hp)) hopen
            (List.append_cancel_left h)
          have hr : r = r' :=
            hs r (List.mem_append_right _ (List.mem_singleton_self r)) r' _ _ (List.append_cancel_left hrest)
          rw [hps, hr]
      | param | primitive | array | object | union | intersection => cases hkind
  | object ms =>
      cases s' with
      | object ms' =>
          simp only [map, dump_object, String.toList_append, List.append_assoc, List.map_map] at h
          have hms : ∀ m ∈ ms, SetsApart (fun m => dumpMember (m.map text)) m := fun m hm =>
            setsApart_dumpMember (hs m.type (List.mem_map_of_mem hm))
          obtain ⟨hms, _⟩ := dumpList_cut hms (by simp [dumpMember]) (List.append_cancel_left h)
          rw [hms]
      | param | primitive | array | function | union | intersection => cases hkind
  | union ts =>
      cases s' with
      | union ts' =>
          simp only [map, dump_union, String.toList_append, List.append_assoc] at h
          exact congrArg union (dumpList_cut hs hopen (List.append_cancel_left h)).1
      | param | primitive | array | function | object | intersection => cases hkind
  | intersection ts =>
      cases s' with
      | intersection ts' =>
          simp only [map, dump_intersection, String.toList_append, List.append_assoc] at h
          exact congrArg intersection (dumpList_cut hs hopen (List.append_cancel_left h)).1
      | param | primitive | array | function | object | union => cases hkind

theorem infix_dumpList {xs : List String} {x : String} (h : x ∈ xs) :
    x.toList <:+: (dumpList xs).toList :=
  (infix_intercalate h).trans (infix_enclosed ..)

theorem infix_dump {s : Shape String} {c : String} (h : c ∈ s.children) : c.toList <:+: s.dump.toList := by
  cases s with
  | param | primitive => exact absurd h List.not_mem_nil
  | array e =>
      rw [List.mem_singleton.1 h]
      exact infix_enclosed ..
  | function ps r =>
      rcases List.mem_append.1 h with h | h
      · rw [dump_function, String.append_assoc, String.append_assoc]
        exact (infix_dumpList h).trans (infix_enclosed ..)
      · rw [List.mem_singleton.1 h]
        exact infix_enclosed ..
  | object ms =>
      obtain ⟨m, hm, rfl⟩ := List.mem_map.1 h
      have htype : m.type.toList <:+: (dumpMember m).toList := infix_enclosed ..
      exact (htype.trans (infix_dumpList (List.mem_map_of_mem hm))).trans (infix_enclosed ..)
  | union ts | intersection ts => exact (infix_dumpList h).trans (infix_enclosed ..)

end Shape

namespace Ty

theorem dump_ne_bracket (t : Ty) (us vs : List Char) : t.dump.toList ++ us ≠ ']' :: vs := by
  simp [dump_eq]

theorem setsApart_dump (t : Ty) : SetsApart dump t := by
  induction t using ind with
  | step t ih =>
      intro u us vs h
      simp only [dump_eq, String.toList_append, List.append_assoc] at h
      have h := List.append_cancel_left h
      have hshape : t.shape = u.shape := Shape.dump_cut ih dump_ne_bracket h
      rw [hshape] at h
      have h := List.append_cancel_left (List.append_cancel_left h)
      obtain ⟨hflags, _⟩ := cut_unique h t.flags.forall_mem_dump u.flags.forall_mem_dump (by simp) (by simp)
      rw [← mk_shape_flags t, ← mk_shape_flags u, hshape, Flags.dump_injective (String.toList_inj.1 hflags)]

theorem dump_inj {t u : Ty} : t.dump = u.dump ↔ t = u := by
  constructor
  · intro h
    exact setsApart_dump t u [] [] (by rw [h])
  · rintro rfl
    rfl

/-- The text before the flags of a type, which describes its node. -/
def kindText (t : Ty) : String := (t.shape.map dump).dump

theorem infix_dump {t v : Ty} (h : v ∈ t.nodes) : v.dump.toList <:+: t.dump.toList := by
  induction t using ind with
  | step t ih =>
      rw [nodes_eq, List.mem_cons, List.mem_flatMap] at h
      rcases h with rfl | ⟨c, hc, hv⟩
      · exact List.infix_refl _
      · have hchild : c.dump.toList <:+: t.kindText.toList :=
          Shape.infix_dump ((Shape.children_map ..).symm ▸ List.mem_map_of_mem hc)
        rw [dump_eq t, String.append_assoc, String.append_assoc]
        exact ((ih c hc hv).trans hchild).trans (infix_enclosed ..)

theorem shape_dump_inj {s s' : Shape Ty} (h : (s.map dump).dump = (s'.map dump).dump) : s = s' :=
  Shape.dump_cut (fun c _ => setsApart_dump c) dump_ne_bracket (by rw [h] : _ ++ [] = _ ++ [])

end Ty

end InterfaceCheck
