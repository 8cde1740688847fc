import InterfaceCheck.Span

namespace InterfaceCheck

structure Related where
  span : Span
  message : String
  deriving DecidableEq

structure Diagnostic where
  message : String
  span : Span
  related : List Related
  help : Option String
  code : Option String
  deriving DecidableEq

def Diagnostic.display (d : Diagnostic) : String :=
  "error: " ++ d.message ++ (d.code.elim "" fun c => " [" ++ c ++ "]") ++
    (d.help.elim "" fun h => "\nhelp: " ++ h)

end InterfaceCheck
