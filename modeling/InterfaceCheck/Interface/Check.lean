import InterfaceCheck.Base.Members
import InterfaceCheck.Interface.Declaration
import InterfaceCheck.Interface.MemberTable
import InterfaceCheck.Interface.Problem
import InterfaceCheck.Ty.Display

namespace InterfaceCheck

structure Draft where
  members : MemberTable
  /-- Where the fields read so far were first declared. -/
  declared : Std.HashMap String Span
  problems : List Problem

namespace Draft

def empty : Draft := ⟨.empty, ∅, []⟩

/-- Takes over the members of a base. They replace inherited members of the same names. -/
def addBase (d : Draft) (c : Clause) : Draft :=
  match c.type.baseMembers with
  | .ok ms => { d with members := d.members.insertAll ms }
  | .error r =>
    { d with problems := d.problems ++
        [.invalidBase c.type.display r.offending.display r.offence r.path c.span] }

/-- Adds a field, which replaces an inherited member of its name. A second field of the same name is
left out. -/
def addField (d : Draft) (f : Field) : Draft :=
  match d.declared[f.name]? with
  | some first => { d with problems := d.problems ++ [.duplicateMember f.name f.span first] }
  | none =>
    { d with
      members := d.members.insert ⟨f.name, f.type⟩
      declared := d.declared.insert f.name f.span }

end Draft

namespace Declaration

def draft (d : Declaration) : Draft :=
  d.fields.foldl Draft.addField (d.bases.foldl Draft.addBase Draft.empty)

def check (d : Declaration) : Except (List CheckError) Interface :=
  let draft := d.draft
  if draft.problems.isEmpty then .ok ⟨d.name, draft.members.toList⟩
  else .error (draft.problems.map fun p => ⟨d.name, p⟩)

def hasValidBases (d : Declaration) : Bool := d.bases.all (·.type.verdict.isAccepted)

end Declaration

end InterfaceCheck
