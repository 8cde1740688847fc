import InterfaceCheck.Primitive

namespace InterfaceCheck

/-- What occurs in a type, the type itself included. -/
structure Flags where
  hasUnion : Bool
  hasParam : Bool
  deriving DecidableEq

structure Member (α : Type) where
  name : String
  type : α
  deriving DecidableEq

def Member.map {α β : Type} (f : α → β) (m : Member α) : Member β := ⟨m.name, f m.type⟩

/-- One level of a type, with `α` in the places of its components. -/
inductive Shape (α : Type) where
  | param (index : UInt16)
  | primitive (p : Primitive)
  | array (elem : α)
  | function (params : List α) (result : α)
  | object (members : List (Member α))
  | union (alternatives : List α)
  | intersection (parts : List α)

inductive Kind where
  | param
  | primitive
  | array
  | function
  | object
  | union
  | intersection
  deriving DecidableEq

namespace Shape

variable {α β : Type}

def kind : Shape α → Kind
  | param _ => .param
  | primitive _ => .primitive
  | array _ => .array
  | function _ _ => .function
  | object _ => .object
  | union _ => .union
  | intersection _ => .intersection

/-- The components from left to right: the parameters of a function stand before its result. -/
def children : Shape α → List α
  | param _ | primitive _ => []
  | array e => [e]
  | function ps r => ps ++ [r]
  | object ms => ms.map (·.type)
  | union ts | intersection ts => ts

def map (f : α → β) : Shape α → Shape β
  | param n => param n
  | primitive p => primitive p
  | array e => array (f e)
  | function ps r => function (ps.map f) (f r)
  | object ms => object (ms.map (·.map f))
  | union ts => union (ts.map f)
  | intersection ts => intersection (ts.map f)

@[simp] theorem kind_map (f : α → β) (s : Shape α) : (s.map f).kind = s.kind := by cases s <;> rfl

@[simp] theorem children_map (f : α → β) (s : Shape α) : (s.map f).children = s.children.map f := by
  cases s <;> simp [map, children, Member.map]

@[simp] theorem map_id (s : Shape α) : s.map id = s := by
  have hm : (·.map id : Member α → Member α) = id := rfl
  cases s <;> simp [map, hm]

theorem map_congr {f g : α → β} {s : Shape α} (h : ∀ c ∈ s.children, f c = g c) :
    s.map f = s.map g := by
  cases s with
  | param | primitive => rfl
  | array e => simpa [map, children] using h
  | function ps r =>
      simp only [children, List.mem_append, List.mem_singleton] at h
      simp only [map, h r (.inr rfl), List.map_congr_left fun c hc => h c (.inl hc)]
  | object ms =>
      have h' : ∀ m ∈ ms, m.map f = m.map g := fun m hm =>
        congrArg (Member.mk m.name) (h m.type (List.mem_map_of_mem hm))
      simp only [map, List.map_congr_left h']
  | union ts => exact congrArg union (List.map_congr_left h)
  | intersection ts => exact congrArg intersection (List.map_congr_left h)

end Shape

inductive Ty where
  | mk (shape : Shape Ty) (flags : Flags)

namespace Ty

def shape : Ty → Shape Ty
  | ⟨s, _⟩ => s

def flags : Ty → Flags
  | ⟨_, f⟩ => f

def kind (t : Ty) : Kind := t.shape.kind

def children (t : Ty) : List Ty := t.shape.children

@[simp] theorem mk_shape_flags (t : Ty) : Ty.mk t.shape t.flags = t := by cases t; rfl

end Ty

def Shape.flags (s : Shape Ty) : Flags where
  hasUnion := s.kind == .union || s.children.any (·.flags.hasUnion)
  hasParam := s.kind == .param || s.children.any (·.flags.hasParam)

namespace Ty

def intern (s : Shape Ty) : Ty := ⟨s, s.flags⟩

@[simp] theorem shape_intern (s : Shape Ty) : (intern s).shape = s := rfl

@[simp] theorem flags_intern (s : Shape Ty) : (intern s).flags = s.flags := rfl

theorem sizeOf_lt_of_mem_children {c t : Ty} (h : c ∈ t.children) : sizeOf c < sizeOf t := by
  rcases t with ⟨s, f⟩
  cases s with
  | param | primitive => simp [children, shape, Shape.children] at h
  | array e => simp_all [children, shape, Shape.children]; omega
  | function ps r =>
      simp only [children, shape, Shape.children, List.mem_append, List.mem_singleton] at h
      rcases h with h | rfl
      · have := List.sizeOf_lt_of_mem h
        simp; omega
      · simp; omega
  | object ms =>
      obtain ⟨m, hm, rfl⟩ := List.mem_map.1 h
      have := List.sizeOf_lt_of_mem hm
      cases m
      simp at this ⊢; omega
  | union ts | intersection ts =>
      have := List.sizeOf_lt_of_mem (show c ∈ ts from h)
      simp; omega

theorem ind {P : Ty → Prop} (step : ∀ t : Ty, (∀ c ∈ t.children, P c) → P t) (t : Ty) : P t :=
  step t fun c _ => ind step c
termination_by sizeOf t
decreasing_by exact sizeOf_lt_of_mem_children ‹_›

variable {β : Type}

mutual

/-- Computes a result bottom-up: `step` is given a type, and its shape with the results of the
components in their places. -/
def fold (step : Ty → Shape β → β) : Ty → β
  | ⟨s, f⟩ => step ⟨s, f⟩ (foldShape step s)
termination_by structural t => t

def foldShape (step : Ty → Shape β → β) : Shape Ty → Shape β
  | .param n => .param n
  | .primitive p => .primitive p
  | .array e => .array (fold step e)
  | .function ps r => .function (foldList step ps) (fold step r)
  | .object ms => .object (foldMembers step ms)
  | .union ts => .union (foldList step ts)
  | .intersection ts => .intersection (foldList step ts)
termination_by structural s => s

def foldList (step : Ty → Shape β → β) : List Ty → List β
  | [] => []
  | t :: ts => fold step t :: foldList step ts
termination_by structural ts => ts

def foldMembers (step : Ty → Shape β → β) : List (Member Ty) → List (Member β)
  | [] => []
  | ⟨n, t⟩ :: ms => ⟨n, fold step t⟩ :: foldMembers step ms
termination_by structural ms => ms

end

theorem foldList_eq_map (step : Ty → Shape β → β) (ts : List Ty) :
    foldList step ts = ts.map (fold step) := by
  induction ts with
  | nil => rfl
  | cons t ts ih => rw [foldList, ih, List.map_cons]

theorem foldMembers_eq_map (step : Ty → Shape β → β) (ms : List (Member Ty)) :
    foldMembers step ms = ms.map (·.map (fold step)) := by
  induction ms with
  | nil => rfl
  | cons m ms ih => rw [foldMembers, ih, List.map_cons]; rfl

theorem foldShape_eq_map (step : Ty → Shape β → β) (s : Shape Ty) :
    foldShape step s = s.map (fold step) := by
  cases s <;> simp only [foldShape, Shape.map, foldList_eq_map, foldMembers_eq_map]

theorem fold_eq (step : Ty → Shape β → β) (t : Ty) :
    t.fold step = step t (t.shape.map (fold step)) := by
  rcases t with ⟨s, f⟩
  rw [fold, foldShape_eq_map, shape]

end Ty

end InterfaceCheck
