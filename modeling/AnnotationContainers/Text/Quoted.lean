import AnnotationContainers.Text.Hidden

/-! # Quoted text

Text in double quotes as messages show it. Quotation marks and backslashes are escaped, some control
characters have a letter, and all other hidden characters are given by their code point.
-/

namespace AnnotationContainers.Text

private def codePointText (c : Char) : String :=
  "\\u\x7b" ++ String.ofList (Nat.toDigits 16 c.toNat) ++ "\x7d"

def quotedChar (c : Char) : String :=
  match c with
  | '\x00' => "\\0"
  | '\t' => "\\t"
  | '\r' => "\\r"
  | '\n' => "\\n"
  | '"' => "\\\""
  | '\\' => "\\\\"
  | c => if isHidden c then codePointText c else c.toString

/-- The text between double quotes, with every hidden character escaped. -/
def quoted (text : String) : String :=
  "\"" ++ String.join (text.toList.map quotedChar) ++ "\""

end AnnotationContainers.Text
