import InterfaceCheck.Ty.Equality

namespace InterfaceCheck

def baseRule : String :=
  "An interface can only extend an object type or intersection of object types " ++
    "with statically known members"

inductive Offence where
  | union
  | primitive
  | typeParam
  | array
  | function
  | emptyIntersection
  deriving DecidableEq

def Offence.name : Offence → String
  | union => "union type"
  | primitive => "primitive type"
  | typeParam => "type parameter"
  | array => "array type"
  | function => "function type"
  | emptyIntersection => "empty intersection"

/-- The first node at fault. The path leads to it by the indices of intersection parts, and is empty
when the type itself is at fault. -/
structure Rejection where
  offending : Ty
  offence : Offence
  path : List Nat
  deriving DecidableEq

inductive Verdict where
  | accepted
  | rejected (r : Rejection)
  deriving DecidableEq

namespace Verdict

def isAccepted : Verdict → Bool
  | accepted => true
  | rejected _ => false

def rejection? : Verdict → Option Rejection
  | accepted => none
  | rejected r => some r

def toExcept : Verdict → Except Rejection Unit
  | accepted => .ok ()
  | rejected r => .error r

def ofExcept : Except Rejection Unit → Verdict
  | .ok _ => accepted
  | .error r => rejected r

@[simp] theorem ofExcept_toExcept (v : Verdict) : ofExcept v.toExcept = v := by cases v <;> rfl

def reject (t : Ty) (o : Offence) : Verdict := rejected ⟨t, o, []⟩

/-- The verdict on a part, as seen from the intersection that has it at index `i`. -/
def under (i : Nat) : Verdict → Verdict
  | accepted => accepted
  | rejected r => rejected { r with path := i :: r.path }

end Verdict

namespace Ty

mutual

def verdict : Ty → Verdict
  | ⟨.object _, _⟩ => .accepted
  | ⟨.intersection ts, f⟩ =>
    if ts.isEmpty then .reject ⟨.intersection ts, f⟩ .emptyIntersection else partsVerdict 0 ts
  | ⟨.union ts, f⟩ => .reject ⟨.union ts, f⟩ .union
  | ⟨.primitive p, f⟩ => .reject ⟨.primitive p, f⟩ .primitive
  | ⟨.param n, f⟩ => .reject ⟨.param n, f⟩ .typeParam
  | ⟨.array e, f⟩ => .reject ⟨.array e, f⟩ .array
  | ⟨.function ps r, f⟩ => .reject ⟨.function ps r, f⟩ .function
termination_by structural t => t

/-- The verdict on the parts of an intersection from index `i` on. The first rejected part decides. -/
def partsVerdict (i : Nat) : List Ty → Verdict
  | [] => .accepted
  | t :: ts =>
    match verdict t with
    | .accepted => partsVerdict (i + 1) ts
    | .rejected r => .under i (.rejected r)
termination_by structural ts => ts

end

end Ty

end InterfaceCheck
