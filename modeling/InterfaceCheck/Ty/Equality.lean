import InterfaceCheck.Ty.Basic

namespace InterfaceCheck

namespace Shape

variable {α β : Type}

def testList (tests : List (α → Bool)) (xs : List α) : Bool :=
  tests.length == xs.length && (tests.zip xs).all fun p => p.1 p.2

def testMember (m : Member (α → Bool)) (n : Member α) : Bool := m.name == n.name && m.type n.type

def test : Shape (α → Bool) → Shape α → Bool
  | param m, param n => m == n
  | primitive p, primitive q => p == q
  | array e, array e' => e e'
  | function ps r, function ps' r' => testList ps ps' && r r'
  | object ms, object ns => testList (ms.map testMember) ns
  | union ts, union us => testList ts us
  | intersection ts, intersection us => testList ts us
  | _, _ => false

variable {g : α → α → Bool} {f : α → β}

theorem testList_map_iff {xs : List α} (h : ∀ x ∈ xs, ∀ y, g x y = true ↔ f x = f y) (ys : List α) :
    testList (xs.map g) ys = true ↔ xs.map f = ys.map f := by
  induction xs generalizing ys with
  | nil => cases ys <;> simp [testList]
  | cons x xs ih =>
      rw [List.forall_mem_cons] at h
      cases ys with
      | nil => simp [testList]
      | cons y ys =>
          have hrest := ih h.2 ys
          simp only [testList, Bool.and_eq_true] at hrest
          simp [testList, h.1, ← hrest, and_left_comm]

theorem testMember_map_iff {m : Member α} (h : ∀ d, g m.type d = true ↔ f m.type = f d)
    (n : Member α) : testMember (m.map g) n = true ↔ m.map f = n.map f := by
  rw [testMember, Bool.and_eq_true, beq_iff_eq, Member.map, Member.map, Member.map, h,
    Member.mk.injEq]

/-- If components pass their tests exactly when `f` does not tell them apart, then so do nodes. -/
theorem test_map_iff {s : Shape α} (h : ∀ c ∈ s.children, ∀ d, g c d = true ↔ f c = f d)
    (s' : Shape α) : (s.map g).test s' = true ↔ s.map f = s'.map f := by
  cases s with
  | param | primitive => cases s' <;> simp [map, test]
  | array e => cases s' <;> simp [map, test, h e (List.mem_singleton_self e)]
  | function ps r =>
      simp only [children, List.mem_append, List.mem_singleton] at h
      have hps := testList_map_iff fun p hp => h p (.inl hp)
      cases s' <;> simp [map, test, h r (.inr rfl), hps]
  | object ms =>
      have hms := testList_map_iff fun m hm => testMember_map_iff (h m.type (List.mem_map_of_mem hm))
      cases s' <;> simp [map, test, Function.comp_def, hms]
  | union ts | intersection ts =>
      have hts := testList_map_iff (show ∀ t ∈ ts, _ from h)
      cases s' <;> simp [map, test, hts]

end Shape

namespace Ty

mutual

/-- Compares two types from the root down. Two nodes are alike only if their flags pass `agree`, and
the flags are asked before the components. -/
def alike (agree : Flags → Flags → Bool) : Ty → Ty → Bool
  | ⟨s, f⟩, ⟨s', f'⟩ => agree f f' && alikeShape agree s s'
termination_by structural t => t

def alikeShape (agree : Flags → Flags → Bool) : Shape Ty → Shape Ty → Bool
  | .param m, .param n => m == n
  | .primitive p, .primitive q => p == q
  | .array a, .array b => alike agree a b
  | .function ps r, .function qs r' => alikeList agree ps qs && alike agree r r'
  | .object ms, .object ns => alikeMembers agree ms ns
  | .union ts, .union us => alikeList agree ts us
  | .intersection ts, .intersection us => alikeList agree ts us
  | _, _ => false
termination_by structural s => s

def alikeList (agree : Flags → Flags → Bool) : List Ty → List Ty → Bool
  | [], [] => true
  | t :: ts, u :: us => alike agree t u && alikeList agree ts us
  | _, _ => false
termination_by structural ts => ts

def alikeMembers (agree : Flags → Flags → Bool) : List (Member Ty) → List (Member Ty) → Bool
  | [], [] => true
  | ⟨m, t⟩ :: ms, ⟨n, u⟩ :: ns => m == n && alike agree t u && alikeMembers agree ms ns
  | _, _ => false
termination_by structural ms => ms

end

def same : Ty → Ty → Bool := alike (· == ·)

def sameTree : Ty → Ty → Bool := alike fun _ _ => true

def identical : Ty → Ty → Bool :=
  fold fun t below u => below.test u.shape && t.flags == u.flags

variable {agree : Flags → Flags → Bool}

theorem alikeList_eq (ts us : List Ty) :
    alikeList agree ts us = Shape.testList (ts.map (alike agree)) us := by
  induction ts generalizing us with
  | nil => cases us <;> rfl
  | cons t ts ih =>
      cases us with
      | nil => rfl
      | cons u us => simp [alikeList, ih, Shape.testList, Bool.and_left_comm]

theorem alikeMembers_eq (ms ns : List (Member Ty)) :
    alikeMembers agree ms ns =
      Shape.testList ((ms.map (·.map (alike agree))).map Shape.testMember) ns := by
  induction ms generalizing ns with
  | nil => cases ns <;> rfl
  | cons m ms ih =>
      rcases m with ⟨m, t⟩
      cases ns with
      | nil => rfl
      | cons n ns =>
          rcases n with ⟨n, u⟩
          simp [alikeMembers, ih, Shape.testList, Shape.testMember, Member.map, Bool.and_left_comm]

theorem alike_eq (t u : Ty) :
    alike agree t u = (agree t.flags u.flags && (t.shape.map (alike agree)).test u.shape) := by
  rcases t with ⟨s, f⟩
  rcases u with ⟨s', f'⟩
  have hshape : alikeShape agree s s' = (s.map (alike agree)).test s' := by
    cases s <;> cases s' <;>
      simp only [alikeShape, alikeList_eq, alikeMembers_eq, Shape.map, Shape.test]
  rw [alike, hshape]
  rfl

theorem identical_eq (t u : Ty) :
    identical t u = ((t.shape.map identical).test u.shape && t.flags == u.flags) := by
  rw [identical, fold_eq]

theorem eq_iff_test {g : Ty → Ty → Bool} {t : Ty} (h : ∀ c ∈ t.children, ∀ d, g c d = true ↔ c = d)
    (u : Ty) : t = u ↔ t.flags = u.flags ∧ (t.shape.map g).test u.shape = true := by
  have htest : (t.shape.map g).test u.shape = true ↔ t.shape.map id = u.shape.map id :=
    Shape.test_map_iff h u.shape
  rw [htest, Shape.map_id, Shape.map_id]
  rcases t with ⟨s, f⟩
  rcases u with ⟨s', f'⟩
  rw [mk.injEq, and_comm]
  rfl

theorem same_iff {t u : Ty} : same t u = true ↔ t = u := by
  induction t using ind generalizing u with
  | step t ih =>
      rw [eq_iff_test (fun c hc _ => ih c hc) u, same, alike_eq, Bool.and_eq_true, beq_iff_eq]

theorem identical_iff {t u : Ty} : identical t u = true ↔ t = u := by
  induction t using ind generalizing u with
  | step t ih =>
      rw [eq_iff_test (fun c hc _ => ih c hc) u, identical_eq, Bool.and_eq_true, beq_iff_eq, and_comm]

instance : DecidableEq Ty := fun _ _ => decidable_of_iff _ same_iff

end Ty

end InterfaceCheck
