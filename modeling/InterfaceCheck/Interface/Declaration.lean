import InterfaceCheck.Span
import InterfaceCheck.Ty.Build

namespace InterfaceCheck

structure Clause where
  type : Ty
  span : Span

structure Field where
  name : String
  type : Ty
  span : Span

structure Declaration where
  name : String
  span : Span
  bases : List Clause
  fields : List Field

structure Interface where
  name : String
  members : List (Member Ty)
  deriving DecidableEq

namespace Interface

def member? (i : Interface) (name : String) : Option (Member Ty) :=
  i.members.find? (·.name == name)

def asObject (i : Interface) : Ty := Ty.object i.members

end Interface

end InterfaceCheck
