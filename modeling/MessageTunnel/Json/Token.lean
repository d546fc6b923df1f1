import MessageTunnel.Text.Hex
import MessageTunnel.Text.Decimal
/-!
The tokens of JSON: how each is written, without any space, and a scanner that reads them back. A
string is written with the two-character escapes for its quote, backslash and common controls, and
with four hexadecimal digits for the other controls; every other character stands for itself.
-/
set_option autoImplicit false

namespace MessageTunnel.Json

/-- A number without sign, fraction and exponent is kept as its value, any other as it is
spelled. -/
inductive Number where
  | natural (n : Nat)
  | other (literal : String)
  deriving DecidableEq, Repr

inductive Token where
  | openObject
  | closeObject
  | openArray
  | closeArray
  | colon
  | comma
  | null
  | boolean (b : Bool)
  | number (n : Number)
  | string (s : String)
  deriving DecidableEq, Repr

def escapeChar (c : Char) : List Char :=
  if c = '"' then ['\\', '"']
  else if c = '\\' then ['\\', '\\']
  else if c = '\n' then ['\\', 'n']
  else if c = '\r' then ['\\', 'r']
  else if c = '\t' then ['\\', 't']
  else if c = Char.ofNat 8 then ['\\', 'b']
  else if c = Char.ofNat 12 then ['\\', 'f']
  else if c.toNat < 32 then '\\' :: 'u' :: '0' :: '0' :: Hex.ofByte (.ofNat c.toNat)
  else [c]

def escape (text : List Char) : List Char := text.flatMap escapeChar

def quote (text : List Char) : List Char := '"' :: escape text ++ ['"']

def Token.text : Token → List Char
  | .openObject => ['{']
  | .closeObject => ['}']
  | .openArray => ['[']
  | .closeArray => [']']
  | .colon => [':']
  | .comma => [',']
  | .null => "null".toList
  | .boolean b => (if b then "true" else "false").toList
  | .number (.natural n) => Decimal.digits n
  | .number (.other literal) => literal.toList
  | .string s => quote s.toList

/-- The pieces in which a token is written, one after the other: those of a string are its quotes, each
escape, and the runs of characters between escapes. -/
def Token.pieces : Token → List (List Char)
  | .string s =>
    let alone (c : Char) : Bool := escapeChar c == [c]
    [['"']] ++ (s.toList.splitBy fun a b => alone a && alone b).map escape ++ [['"']]
  | t => [t.text]

def isWordChar (c : Char) : Bool := c.isAlphanum || c == '+' || c == '-' || c == '.'

def isExponent : List Char → Bool
  | [] => true
  | e :: '+' :: ds | e :: '-' :: ds => (e == 'e' || e == 'E') && Decimal.isDigits ds
  | e :: ds => (e == 'e' || e == 'E') && Decimal.isDigits ds

def isTail : List Char → Bool
  | '.' :: rest =>
    !(rest.takeWhile Char.isDigit).isEmpty && isExponent (rest.dropWhile Char.isDigit)
  | rest => isExponent rest

def isUnsigned (word : List Char) : Bool :=
  Decimal.isCanonical (word.takeWhile Char.isDigit) && isTail (word.dropWhile Char.isDigit)

def isNumber : List Char → Bool
  | '-' :: rest => isUnsigned rest
  | word => isUnsigned word

def Token.ofWord (word : List Char) : Option Token :=
  if word = "null".toList then some .null
  else if word = "true".toList then some (.boolean true)
  else if word = "false".toList then some (.boolean false)
  else if Decimal.isCanonical word then some (.number (.natural (Decimal.ofDigits word)))
  else if isNumber word then some (.number (.other (String.ofList word)))
  else none

def Token.ofMark (c : Char) : Option Token :=
  match c with
  | '{' => some .openObject
  | '}' => some .closeObject
  | '[' => some .openArray
  | ']' => some .closeArray
  | ':' => some .colon
  | ',' => some .comma
  | _ => none

def isSpace (c : Char) : Bool := c == ' ' || c == '\n' || c == '\r' || c == '\t'

/-- Where the scanner stands. What it has of a word or string is kept in reverse. -/
inductive Mode where
  | between
  | word (acc : List Char)
  | text (acc : List Char)
  | escaped (acc : List Char)
  /-- inside the digits of a code unit, which may follow a high surrogate -/
  | digits (acc : List Char) (high : Option Nat) (owed value : Nat)
  /-- after a high surrogate, before the backslash of the low one -/
  | paired (acc : List Char) (high : Nat)
  | pairedEscape (acc : List Char) (high : Nat)

def unescape : Char → Option Char
  | '"' => some '"'
  | '\\' => some '\\'
  | '/' => some '/'
  | 'n' => some '\n'
  | 'r' => some '\r'
  | 't' => some '\t'
  | 'b' => some (Char.ofNat 8)
  | 'f' => some (Char.ofNat 12)
  | _ => none

/-- What a complete code unit leaves the scanner in. A low surrogate needs its high one before it.
-/
def Mode.afterUnit (acc : List Char) (high : Option Nat) (unit : Nat) : Option Mode :=
  match high with
  | none =>
    if 0xD800 ≤ unit ∧ unit < 0xDC00 then some (.paired acc unit)
    else if 0xDC00 ≤ unit ∧ unit < 0xE000 then none
    else some (.text (Char.ofNat unit :: acc))
  | some h =>
    if 0xDC00 ≤ unit ∧ unit < 0xE000 then
      some (.text (Char.ofNat (0x10000 + (h - 0xD800) * 1024 + (unit - 0xDC00)) :: acc))
    else none

def Mode.begin (c : Char) : Option (List Token × Mode) :=
  if isSpace c then some ([], .between)
  else if c = '"' then some ([], .text [])
  else if isWordChar c then some ([], .word [c])
  else (Token.ofMark c).map fun t => ([t], .between)

/-- Reads one character: the tokens it completes, and where the scanner stands after it. -/
def Mode.read : Mode → Char → Option (List Token × Mode)
  | .between, c => Mode.begin c
  | .word acc, c =>
    if isWordChar c then some ([], .word (c :: acc))
    else do
      let t ← Token.ofWord acc.reverse
      let (ts, mode) ← Mode.begin c
      return (t :: ts, mode)
  | .text acc, c =>
    if c = '"' then some ([.string (String.ofList acc.reverse)], .between)
    else if c = '\\' then some ([], .escaped acc)
    else if c.toNat < 32 then none
    else some ([], .text (c :: acc))
  | .escaped acc, c =>
    if c = 'u' then some ([], .digits acc none 4 0)
    else (unescape c).map fun d => ([], .text (d :: acc))
  | .digits acc high owed value, c => do
    let v ← Hex.value c
    let value := value * 16 + v
    if owed ≤ 1 then (Mode.afterUnit acc high value).map fun mode => ([], mode)
    else return ([], .digits acc high (owed - 1) value)
  | .paired acc high, c => if c = '\\' then some ([], .pairedEscape acc high) else none
  | .pairedEscape acc high, c => if c = 'u' then some ([], .digits acc (some high) 4 0) else none

def Mode.finish : Mode → Option (List Token)
  | .between => some []
  | .word acc => (Token.ofWord acc.reverse).map fun t => [t]
  | _ => none

structure Scanner where
  mode : Mode
  tokens : List Token

def Scanner.read (s : Scanner) (c : Char) : Option Scanner :=
  (s.mode.read c).map fun (ts, mode) => ⟨mode, ts.reverse ++ s.tokens⟩

def scan (text : List Char) : Option (List Token) := do
  let s ← text.foldlM Scanner.read ⟨.between, []⟩
  let last ← s.mode.finish
  return s.tokens.reverse ++ last

end MessageTunnel.Json
