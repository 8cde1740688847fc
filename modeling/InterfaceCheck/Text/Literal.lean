import InterfaceCheck.Text.Combining
import InterfaceCheck.Text.Graphic
import InterfaceCheck.Text.Ignorable

namespace InterfaceCheck.Text

def isPlain (c : Char) : Bool := isGraphic c && !isCombining c && !isIgnorable c

def escapeChar (c : Char) : String :=
  match c with
  | '"' => "\\\""
  | '\\' => "\\\\"
  | '\n' => "\\n"
  | '\t' => "\\t"
  | '\r' => "\\r"
  | '\x00' => "\\0"
  | _ =>
    if isPlain c then String.singleton c
    else "\\u\x7b" ++ String.ofList (Nat.toDigits 16 c.toNat) ++ "\x7d"

def literal (s : String) : String := "\"" ++ String.join (s.toList.map escapeChar) ++ "\""

end InterfaceCheck.Text
