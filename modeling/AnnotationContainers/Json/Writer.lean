import AnnotationContainers.Double.Decimal
import AnnotationContainers.Json.Basic

/-! # Writing JSON text

Two layouts: compact, with no space between tokens, and pretty, with one field or item on a line
and two spaces for each level. Fields are written in the order in which the object lists them.
Reports are pretty; callers that exchange documents line by line write them compact.
-/

namespace AnnotationContainers

namespace Json

/-- Doubles are positional from `1e-5` up to `1e16` and have an exponent outside. -/
def numberLayout : DecimalLayout where
  lowest := -5
  highest := 15

private def hexDigits (n : Nat) : String :=
  String.ofList [Nat.digitChar (n / 16), Nat.digitChar (n % 16)]

private def escapeChar (c : Char) : String :=
  match c with
  | '"' => "\\\""
  | '\\' => "\\\\"
  | '\x08' => "\\b"
  | '\x0c' => "\\f"
  | '\n' => "\\n"
  | '\r' => "\\r"
  | '\t' => "\\t"
  | c => if c.toNat < 0x20 then "\\u00" ++ hexDigits c.toNat else c.toString

def quote (s : String) : String := "\"" ++ String.join (s.toList.map escapeChar) ++ "\""

def numberText : Number → String
  | .int n _ => toString n
  | .float x _ => numberLayout.doubleText x

mutual

def compact : Json → String
  | .null => "null"
  | .bool b => if b then "true" else "false"
  | .number n => numberText n
  | .string s => quote s
  | .array items => "[" ++ ",".intercalate (compactItems items) ++ "]"
  | .object fields => "\x7b" ++ ",".intercalate (compactFields fields) ++ "\x7d"

def compactItems : List Json → List String
  | [] => []
  | item :: rest => item.compact :: compactItems rest

def compactFields : List (String × Json) → List String
  | [] => []
  | (key, value) :: rest => (quote key ++ ":" ++ value.compact) :: compactFields rest

end

/-- Put the parts on lines of their own, one level deeper than the brackets. -/
private def block (level : Nat) (opening closing : String) : List String → String
  | [] => opening ++ closing
  | parts =>
    let indent (n : Nat) : String := "\n" ++ String.ofList (List.replicate (2 * n) ' ')
    let inner := indent (level + 1)
    opening ++ inner ++ ("," ++ inner).intercalate parts ++ indent level ++ closing

mutual

def prettyAt (level : Nat) : Json → String
  | .array items => block level "[" "]" (prettyItems (level + 1) items)
  | .object fields => block level "\x7b" "\x7d" (prettyFields (level + 1) fields)
  | .null => "null"
  | .bool b => if b then "true" else "false"
  | .number n => numberText n
  | .string s => quote s

def prettyItems (level : Nat) : List Json → List String
  | [] => []
  | item :: rest => item.prettyAt level :: prettyItems level rest

def prettyFields (level : Nat) : List (String × Json) → List String
  | [] => []
  | (key, value) :: rest => (quote key ++ ": " ++ value.prettyAt level) :: prettyFields level rest

end

def pretty (value : Json) : String := value.prettyAt 0

end Json

end AnnotationContainers
