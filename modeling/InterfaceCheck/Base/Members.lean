import InterfaceCheck.Base.Verdict

namespace InterfaceCheck.Ty

mutual

/-- The members of the objects in an intersection from left to right, a repeated name every time. -/
def gather : Ty → List (Member Ty)
  | ⟨.object ms, _⟩ => ms
  | ⟨.intersection ts, _⟩ => gatherAll ts
  | _ => []
termination_by structural t => t

def gatherAll : List Ty → List (Member Ty)
  | [] => []
  | t :: ts => gather t ++ gatherAll ts
termination_by structural ts => ts

end

theorem gatherAll_eq_flatMap (ts : List Ty) : gatherAll ts = ts.flatMap gather := by
  induction ts with
  | nil => rfl
  | cons t ts ih => rw [gatherAll, ih, List.flatMap_cons]

def baseMembers (t : Ty) : Except Rejection (List (Member Ty)) :=
  t.verdict.toExcept.map fun _ => t.gather

end InterfaceCheck.Ty
