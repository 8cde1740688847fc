import InterfaceCheck.Ty.Basic

namespace InterfaceCheck

/-- How tightly a written type holds together, from the loosest to the tightest. -/
inductive Binding where
  | arrow
  | union
  | intersection
  | atom
  deriving DecidableEq

def Binding.rank : Binding → Nat
  | arrow => 0
  | union => 1
  | intersection => 2
  | atom => 3

structure Phrase where
  binding : Binding
  text : String

def Phrase.inPlace (place : Binding) (p : Phrase) : String :=
  if p.binding.rank < place.rank then "(" ++ p.text ++ ")" else p.text

namespace Phrase

theorem infix_inPlace (p : Phrase) (place : Binding) : p.text.toList <:+: (p.inPlace place).toList := by
  unfold inPlace
  split
  · exact ⟨['('], [')'], by simp⟩
  · exact List.infix_refl _

/-- Parameters are written with their positions for names, since a type keeps no names for them. -/
def parameter (i : Nat) (p : Phrase) : String := "arg" ++ i.repr ++ ": " ++ p.inPlace .arrow

def member (m : Member Phrase) : String := m.name ++ ": " ++ m.type.inPlace .arrow

def ofShape : Shape Phrase → Phrase
  | .param n => ⟨.atom, "T" ++ n.toNat.repr⟩
  | .primitive p => ⟨.atom, p.keyword⟩
  | .array e => ⟨.atom, e.inPlace .atom ++ "[]"⟩
  | .function ps r =>
      ⟨.arrow, "(" ++ ", ".intercalate (ps.mapIdx parameter) ++ ") => " ++ r.inPlace .arrow⟩
  | .object [] => ⟨.atom, "\x7b\x7d"⟩
  | .object ms => ⟨.atom, "\x7b " ++ "; ".intercalate (ms.map member) ++ " \x7d"⟩
  | .union ts => ⟨.union, " | ".intercalate (ts.map (inPlace .intersection))⟩
  | .intersection [] => ⟨.atom, "(empty intersection)"⟩
  | .intersection ts => ⟨.intersection, " & ".intercalate (ts.map (inPlace .atom))⟩

end Phrase

namespace Ty

def phrase : Ty → Phrase := fold fun _ below => Phrase.ofShape below

def display (t : Ty) : String := t.phrase.text

theorem phrase_eq (t : Ty) : t.phrase = Phrase.ofShape (t.shape.map phrase) := fold_eq _ t

theorem inPlace_arrow (t : Ty) : t.phrase.inPlace .arrow = t.display := if_neg (Nat.not_lt_zero _)

end Ty

end InterfaceCheck
