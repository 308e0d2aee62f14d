import AuthServer.Text.Numeral
import AuthServer.Text.Printable

/-!
Diagnostic texts: a text between double quotes in which everything that would not show is escaped.
-/

namespace AuthServer.Text

def quoteChar (char : Char) : String :=
  match char with
  | '\x00' => "\\0"
  | '\t' => "\\t"
  | '\r' => "\\r"
  | '\n' => "\\n"
  | '"' => "\\\""
  | '\\' => "\\\\"
  | _ =>
      if isPrintable char then String.singleton char
      else "\\u\x7b" ++ hexText char.toNat ++ "\x7d"

def quote (text : String) : String :=
  "\"" ++ String.join (text.toList.map quoteChar) ++ "\""

def quoteAll (texts : List String) : String :=
  "[" ++ ", ".intercalate (texts.map quote) ++ "]"

end AuthServer.Text
