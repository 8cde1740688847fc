import InterfaceCheck.Text.Literal
import InterfaceCheck.Ty.Basic

namespace InterfaceCheck

def Flags.dump : Flags → String
  | ⟨false, false⟩ => "0x0"
  | ⟨true, false⟩ => "HAS_UNION"
  | ⟨false, true⟩ => "HAS_TYPE_PARAM"
  | ⟨true, true⟩ => "HAS_UNION | HAS_TYPE_PARAM"

namespace Shape

def dumpList (items : List String) : String := "[" ++ ", ".intercalate items ++ "]"

def dumpMember (m : Member String) : String := "(" ++ Text.literal m.name ++ ", " ++ m.type ++ ")"

def dump : Shape String → String
  | param n => "TypeParam(" ++ n.toNat.repr ++ ")"
  | primitive p => "Primitive(" ++ p.name ++ ")"
  | array e => "Array(" ++ e ++ ")"
  | function ps r => "Function \x7b params: " ++ dumpList ps ++ ", ret: " ++ r ++ " \x7d"
  | object ms => "Object(" ++ dumpList (ms.map dumpMember) ++ ")"
  | union ts => "Union(" ++ dumpList ts ++ ")"
  | intersection ts => "Intersection(" ++ dumpList ts ++ ")"

@[simp] theorem dump_param (n : UInt16) : (param n).dump = "TypeParam(" ++ n.toNat.repr ++ ")" := rfl

@[simp] theorem dump_primitive (p : Primitive) : (primitive p).dump = "Primitive(" ++ p.name ++ ")" := rfl

@[simp] theorem dump_array (e : String) : (array e).dump = "Array(" ++ e ++ ")" := rfl

@[simp] theorem dump_function (ps : List String) (r : String) :
    (function ps r).dump = "Function \x7b params: " ++ dumpList ps ++ ", ret: " ++ r ++ " \x7d" :=
  rfl

@[simp] theorem dump_object (ms : List (Member String)) :
    (object ms).dump = "Object(" ++ dumpList (ms.map dumpMember) ++ ")" :=
  rfl

@[simp] theorem dump_union (ts : List String) : (union ts).dump = "Union(" ++ dumpList ts ++ ")" := rfl

@[simp] theorem dump_intersection (ts : List String) :
    (intersection ts).dump = "Intersection(" ++ dumpList ts ++ ")" :=
  rfl

end Shape

namespace Ty

def dump : Ty → String := fold fun t below =>
  "Ty(TyData \x7b kind: " ++ below.dump ++ ", flags: TypeFlags(" ++ t.flags.dump ++ ") \x7d)"

theorem dump_eq (t : Ty) :
    t.dump = "Ty(TyData \x7b kind: " ++ (t.shape.map dump).dump ++ ", flags: TypeFlags(" ++
      t.flags.dump ++ ") \x7d)" :=
  fold_eq _ t

end Ty

end InterfaceCheck
