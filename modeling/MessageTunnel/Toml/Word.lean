import MessageTunnel.Text.Hex
import MessageTunnel.Toml.Value
set_option autoImplicit false

namespace MessageTunnel.Toml.Word

/-- Digits with single underscores between them, without the underscores. -/
def ungroup (isDigit : Char → Bool) : List Char → Option (List Char)
  | [] => none
  | [c] => if isDigit c then some [c] else none
  | c :: '_' :: rest => if isDigit c then (ungroup isDigit rest).map (c :: ·) else none
  | c :: rest => if isDigit c then (ungroup isDigit rest).map (c :: ·) else none

def decimalDigits : List Char → Option (List Char) := ungroup Char.isDigit

def canonicalDigits (word : List Char) : Option (List Char) :=
  (decimalDigits word).filter Decimal.isCanonical

def splitSign : List Char → Bool × List Char
  | '-' :: rest => (true, rest)
  | '+' :: rest => (false, rest)
  | word => (false, word)

def signed (negative : Bool) (n : Nat) : Int := if negative then -(n : Int) else n

def bounded (n : Int) : Option Toml :=
  if -0x8000000000000000 ≤ n ∧ n < 0x8000000000000000 then some (.integer n) else none

def inBase (base : Nat) (word : List Char) : Option Toml := do
  let isDigit (c : Char) : Bool := (Hex.value c).any (· < base)
  let ds ← ungroup isDigit word
  bounded (ds.foldl (fun n c => n * base + (Hex.value c).getD 0) 0)

def integer? (word : List Char) : Option Toml :=
  match word with
  | '0' :: 'x' :: rest => inBase 16 rest
  | '0' :: 'o' :: rest => inBase 8 rest
  | '0' :: 'b' :: rest => inBase 2 rest
  | _ => do
    let (negative, digits) := splitSign word
    bounded (signed negative (Decimal.ofDigits (← canonicalDigits digits)))

def isGroupChar (c : Char) : Bool := c.isDigit || c == '_'

def exponent? : List Char → Option Int
  | [] => some 0
  | e :: rest =>
    if e = 'e' ∨ e = 'E' then do
      let (negative, digits) := splitSign rest
      return signed negative (Decimal.ofDigits (← decimalDigits digits))
    else none

def fraction? : List Char → Option (List Char × List Char)
  | '.' :: rest =>
    (decimalDigits (rest.takeWhile isGroupChar)).map (·, rest.dropWhile isGroupChar)
  | rest => some ([], rest)

/-- A number with a point or an exponent. One that is too large is refused, unless it is negative.
-/
def float? (word : List Char) : Option Toml := do
  let (negative, rest) := splitSign word
  if rest = "inf".toList then return .float (.infinite negative)
  if rest = "nan".toList then return .float .nan
  let whole ← canonicalDigits (rest.takeWhile isGroupChar)
  let rest := rest.dropWhile isGroupChar
  if rest.isEmpty then none
  let (places, rest) ← fraction? rest
  let power ← exponent? rest
  let x := Binary64.ofDecimal negative (Decimal.ofDigits (whole ++ places)) (power - places.length)
  if x = .infinite false then none
  return .float x

def fixed (count : Nat) (word : List Char) : Option (Nat × List Char) :=
  let ds := word.take count
  if ds.length = count ∧ ds.all Char.isDigit then some (Decimal.ofDigits ds, word.drop count)
  else none

def after (c : Char) : List Char → Option (List Char)
  | d :: rest => if c = d then some rest else none
  | [] => none

def isLeapYear (year : Nat) : Bool := year % 4 == 0 && (year % 100 != 0 || year % 400 == 0)

def daysIn (year month : Nat) : Nat :=
  if month = 2 then if isLeapYear year then 29 else 28
  else if month ∈ [4, 6, 9, 11] then 30
  else 31

def dayEnd? (word : List Char) : Option (List Char) := do
  let (year, word) ← fixed 4 word
  let (month, word) ← fixed 2 (← after '-' word)
  let (day, word) ← fixed 2 (← after '-' word)
  if 1 ≤ month ∧ month ≤ 12 ∧ 1 ≤ day ∧ day ≤ daysIn year month then some word else none

/-- What follows a time of day. A leap second is admitted. -/
def timeEnd? (word : List Char) : Option (List Char) := do
  let (hour, word) ← fixed 2 word
  let (minute, word) ← fixed 2 (← after ':' word)
  let (second, word) ← fixed 2 (← after ':' word)
  if 23 < hour ∨ 59 < minute ∨ 60 < second then none
  match word with
  | '.' :: rest =>
    if (rest.takeWhile Char.isDigit).isEmpty then none else some (rest.dropWhile Char.isDigit)
  | _ => some word

def isOffset : List Char → Bool
  | [] => true
  | ['Z'] | ['z'] => true
  | sign :: rest =>
    (sign == '+' || sign == '-') &&
      (do let (hour, rest) ← fixed 2 rest
          let (minute, rest) ← fixed 2 (← after ':' rest)
          return decide (hour ≤ 23 ∧ minute ≤ 59) && rest.isEmpty).getD false

def isTime (word : List Char) : Bool := ((timeEnd? word).map isOffset).getD false

def isDate (word : List Char) : Bool :=
  match dayEnd? word with
  | some [] => true
  | some (mark :: rest) => (mark == 'T' || mark == 't') && isTime rest
  | none => timeEnd? word == some []

def date? (word : List Char) : Option Toml :=
  if isDate word then some (.date (String.ofList word)) else none

def isDay (word : List Char) : Bool := dayEnd? word == some []

def read (word : List Char) : Option Toml :=
  if word = "true".toList then some (.boolean true)
  else if word = "false".toList then some (.boolean false)
  else (date? word).or ((integer? word).or (float? word))

end MessageTunnel.Toml.Word
