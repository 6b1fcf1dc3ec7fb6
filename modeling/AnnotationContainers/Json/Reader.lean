import AnnotationContainers.Double.Scaling
import AnnotationContainers.Json.Basic

/-! # Reading JSON text

Strict JSON in two passes, each a fold: characters become tokens, and tokens become a value on a
stack of open arrays and objects. A repeated key replaces the field before it. Arrays and objects
may be nested `Json.depthLimit` deep.
-/

namespace AnnotationContainers

namespace Number

private def addDigit (n : Nat) (c : Char) : Nat := 10 * n + (c.toNat - '0'.toNat)

private def digitsValue (digits : List Char) : Nat := digits.foldl addDigit 0

/-- Append digits to `n` as long as 64 bits hold the result; the digits from there on are left. -/
private def appendDigits (n : Nat) : List Char → Nat × List Char
  | [] => (n, [])
  | c :: rest =>
    if addDigit n c < 0x10000000000000000 then appendDigits (addDigit n c) rest
    else (n, c :: rest)

/-- The decimal with these digits before and after the point. Digits are dropped from where 64 bits
no longer hold them; before the point the dropped ones still count as places. -/
private def decimalOf (whole fraction : List Char) : Decimal :=
  let (digits, droppedWhole) := appendDigits 0 whole
  let (digits, droppedFraction) := appendDigits digits fraction
  ⟨digits, droppedWhole.length + droppedFraction.length - fraction.length⟩

private def splitSign : List Char → Bool × List Char
  | '-' :: rest => (true, rest)
  | word => (false, word)

private def splitFraction : List Char → Option (List Char × List Char)
  | '.' :: rest =>
    let digits := rest.takeWhile Char.isDigit
    if digits.isEmpty then none else some (digits, rest.dropWhile Char.isDigit)
  | rest => some ([], rest)

private def exponentOf : List Char → Option Int
  | [] => some 0
  | mark :: rest =>
    let (negative, digits) := match rest with
      | '+' :: digits => (false, digits)
      | digits => splitSign digits
    if (mark = 'e' ∨ mark = 'E') ∧ !digits.isEmpty ∧ digits.all Char.isDigit then
      let magnitude : Int := digitsValue digits
      some (if negative then -magnitude else magnitude)
    else none

/-- The number written as `word`. Without fraction and exponent it is an integer if 64 bits hold
it, except that `-0` is the double with a sign. All else is a double, read from the digits that 64
bits hold by scaling; a number too large for a double is refused. -/
def ofWord? (word : List Char) : Option Number := do
  let (negative, rest) := splitSign word
  let whole := rest.takeWhile Char.isDigit
  let tail := rest.dropWhile Char.isDigit
  if whole.isEmpty ∨ (whole.head? = some '0' ∧ 1 < whole.length) then none
  else
    let (fraction, exponentPart) ← splitFraction tail
    let exponent ← exponentOf exponentPart
    let digits := digitsValue whole
    let value : Int := if negative then -digits else digits
    if range : -0x8000000000000000 ≤ value ∧ value < 0x10000000000000000 then
      if tail.isEmpty ∧ ¬ (negative ∧ digits = 0) then return .int value range
    let decimal := decimalOf whole fraction
    ofDouble? (Double.ofDecimal negative { decimal with exponent := decimal.exponent + exponent })

end Number

namespace Json

def depthLimit : Nat := 127

inductive Token where
  | openArray
  | closeArray
  | openObject
  | closeObject
  | comma
  | colon
  | null
  | bool (value : Bool)
  | number (value : Number)
  | string (value : String)

/-- The part of a token that has been read; characters are kept last first. -/
inductive Lexeme where
  | blank
  | word (done : List Char)
  | text (done : List Char)
  | escape (done : List Char)
  | hex (done : List Char) (high : Option Nat) (count code : Nat)
  | pairEscape (done : List Char) (high : Nat)
  | pairMark (done : List Char) (high : Nat)

def Token.ofWord? (word : List Char) : Option Token :=
  match String.ofList word with
  | "null" => some .null
  | "true" => some (.bool true)
  | "false" => some (.bool false)
  | _ => (Number.ofWord? word).map .number

def Token.value? : Token → Option Json
  | .null => some .null
  | .bool b => some (.bool b)
  | .number n => some (.number n)
  | .string s => some (.string s)
  | _ => none

private def hexValue? (c : Char) : Option Nat :=
  if c.isDigit then some (c.toNat - '0'.toNat)
  else if 'a' ≤ c ∧ c ≤ 'f' then some (c.toNat - 'a'.toNat + 10)
  else if 'A' ≤ c ∧ c ≤ 'F' then some (c.toNat - 'A'.toNat + 10)
  else none

/-- Go on after the escape of a UTF-16 unit. A high surrogate must be followed by the escape of a
low one, and a low one stands nowhere else. -/
private def afterUnit (done : List Char) (high : Option Nat) (unit : Nat) : Option Lexeme :=
  match high with
  | some first =>
    if 0xDC00 ≤ unit ∧ unit < 0xE000 then
      some (.text (Char.ofNat (0x10000 + (first - 0xD800) * 0x400 + (unit - 0xDC00)) :: done))
    else none
  | none =>
    if 0xD800 ≤ unit ∧ unit < 0xDC00 then some (.pairEscape done unit)
    else if 0xDC00 ≤ unit ∧ unit < 0xE000 then none
    else some (.text (Char.ofNat unit :: done))

private def escaped? : Char → Option Char
  | '"' => some '"'
  | '\\' => some '\\'
  | '/' => some '/'
  | 'b' => some '\x08'
  | 'f' => some '\x0c'
  | 'n' => some '\n'
  | 'r' => some '\r'
  | 't' => some '\t'
  | _ => none

/-- The tokens read so far, last first, and the part of the next one. -/
structure Lexer where
  tokens : List Token
  lexeme : Lexeme

namespace Lexer

def flush (l : Lexer) : Option (List Token) :=
  match l.lexeme with
  | .blank => some l.tokens
  | .word done => (Token.ofWord? done.reverse).map (· :: l.tokens)
  | _ => none

private def between (l : Lexer) (c : Char) : Option Lexer := do
  let one (token : Token) : Option Lexer := do return ⟨token :: (← l.flush), .blank⟩
  match c with
  | '[' => one .openArray
  | ']' => one .closeArray
  | '{' => one .openObject
  | '}' => one .closeObject
  | ',' => one .comma
  | ':' => one .colon
  | '"' => return ⟨← l.flush, .text []⟩
  | ' ' | '\t' | '\n' | '\r' => return ⟨← l.flush, .blank⟩
  | _ =>
    match l.lexeme with
    | .word done => return ⟨l.tokens, .word (c :: done)⟩
    | _ => return ⟨l.tokens, .word [c]⟩

def step (l : Lexer) (c : Char) : Option Lexer :=
  match l.lexeme with
  | .blank | .word _ => l.between c
  | .text done =>
    if c = '"' then some ⟨.string (String.ofList done.reverse) :: l.tokens, .blank⟩
    else if c = '\\' then some ⟨l.tokens, .escape done⟩
    else if c.toNat < 0x20 then none
    else some ⟨l.tokens, .text (c :: done)⟩
  | .escape done =>
    if c = 'u' then some ⟨l.tokens, .hex done none 0 0⟩
    else (escaped? c).map fun e => ⟨l.tokens, .text (e :: done)⟩
  | .hex done high count code => do
    let code := 16 * code + (← hexValue? c)
    if count < 3 then return ⟨l.tokens, .hex done high (count + 1) code⟩
    else return ⟨l.tokens, ← afterUnit done high code⟩
  | .pairEscape done high => if c = '\\' then some ⟨l.tokens, .pairMark done high⟩ else none
  | .pairMark done high => if c = 'u' then some ⟨l.tokens, .hex done (some high) 0 0⟩ else none

end Lexer

def tokens? (text : String) : Option (List Token) := do
  let last ← text.toList.foldlM Lexer.step ⟨[], .blank⟩
  return (← last.flush).reverse

/-- An array or object that is still open; items are kept last first, and an object waits for the
value of the field `name`. -/
inductive Frame where
  | array (items : List Json)
  | object (fields : List (String × Json)) (name : String)

inductive State where
  | value (stack : List Frame)
  | firstItem (stack : List Frame)
  | afterItem (items : List Json) (stack : List Frame)
  | firstKey (stack : List Frame)
  | key (fields : List (String × Json)) (stack : List Frame)
  | colon (fields : List (String × Json)) (name : String) (stack : List Frame)
  | afterField (fields : List (String × Json)) (stack : List Frame)
  | finished (value : Json)

namespace State

def complete (json : Json) : List Frame → State
  | [] => .finished json
  | .array items :: stack => .afterItem (json :: items) stack
  | .object fields name :: stack => .afterField (Entries.insert fields name json) stack

def start (stack : List Frame) : Token → Option State
  | .openArray => if stack.length < depthLimit then some (.firstItem stack) else none
  | .openObject => if stack.length < depthLimit then some (.firstKey stack) else none
  | token => token.value?.map (complete · stack)

def step : State → Token → Option State
  | .value stack, token => start stack token
  | .firstItem stack, .closeArray => some (complete (.array []) stack)
  | .firstItem stack, token => start (.array [] :: stack) token
  | .afterItem items stack, .comma => some (.value (.array items :: stack))
  | .afterItem items stack, .closeArray => some (complete (.array items.reverse) stack)
  | .firstKey stack, .closeObject => some (complete (.object []) stack)
  | .firstKey stack, .string name => some (.colon [] name stack)
  | .key fields stack, .string name => some (.colon fields name stack)
  | .colon fields name stack, .colon => some (.value (.object fields name :: stack))
  | .afterField fields stack, .comma => some (.key fields stack)
  | .afterField fields stack, .closeObject => some (complete (.object fields) stack)
  | _, _ => none

end State

/-- The value of a JSON text, or `none` if the text is not valid JSON. -/
def ofText? (text : String) : Option Json := do
  match ← (← tokens? text).foldlM State.step (.value []) with
  | .finished value => return value
  | _ => none

end Json

end AnnotationContainers
