import InterfaceCheck.Base.Verdict
import InterfaceCheck.Diagnostic

namespace InterfaceCheck

inductive Problem where
  /-- A type is extended that cannot be. Types are kept as they are displayed. -/
  | invalidBase (base offending : String) (offence : Offence) (path : List Nat) (span : Span)
  /-- A member has the name of an earlier one, whose first declaration is at `first`. -/
  | duplicateMember (name : String) (span first : Span)
  deriving DecidableEq

structure CheckError where
  interface : String
  problem : Problem
  deriving DecidableEq

def Offence.explanation : Offence → String
  | union => "a union type whose members differ per alternative"
  | primitive => "a primitive type which has no members"
  | typeParam => "a type parameter whose members are not known statically"
  | array => "an array type which has no members"
  | function => "a function type which has no members"
  | emptyIntersection => "an intersection with no parts"

namespace Problem

def span : Problem → Span
  | invalidBase _ _ _ _ span => span
  | duplicateMember _ span _ => span

def code : Problem → String
  | invalidBase .. => "E001"
  | duplicateMember .. => "E002"

def subject (base offending : String) (path : List Nat) : String :=
  "'" ++ offending ++ "'" ++
    if path.isEmpty then ""
    else " (part " ++ ".".intercalate (path.map Nat.repr) ++ " of '" ++ base ++ "')"

end Problem

namespace CheckError

def toDiagnostic (e : CheckError) : Diagnostic :=
  match e.problem with
  | .invalidBase base offending offence path span =>
    { message := baseRule
      span := span
      related := []
      help := some (Problem.subject base offending path ++ " is " ++ offence.explanation)
      code := some e.problem.code }
  | .duplicateMember name span first =>
    { message := "Duplicate member '" ++ name ++ "' in interface '" ++ e.interface ++ "'"
      span := span
      related := [⟨first, "'" ++ name ++ "' first declared here"⟩]
      help := some "Each member of an interface must have a unique name"
      code := some e.problem.code }

def display (e : CheckError) : String := e.toDiagnostic.display

end CheckError

end InterfaceCheck
