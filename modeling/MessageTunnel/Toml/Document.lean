import MessageTunnel.Toml.Table
import MessageTunnel.Toml.Text
import MessageTunnel.Toml.Word
set_option autoImplicit false

namespace MessageTunnel.Toml

abbrev Reader (α : Type) := List Char → Option (α × List Char)

/-- Arrays and tables can be nested so deep. -/
def maxNesting : Nat := 79

def maxParts : Nat := 79

def skipBlanks (cs : List Char) : List Char := cs.dropWhile isBlank

def skipComment : List Char → List Char
  | '#' :: rest => rest.dropWhile isPlain
  | cs => cs

def lineEnd? (cs : List Char) : Option (List Char) :=
  match skipComment (skipBlanks cs) with
  | [] => some []
  | cs => newline? cs

def skipGap : Nat → List Char → List Char
  | 0, cs => cs
  | fuel + 1, cs =>
    match skipLines cs with
    | '#' :: rest => skipGap fuel (rest.dropWhile isPlain)
    | cs => cs

def gap (cs : List Char) : List Char := skipGap cs.length cs

def isBare (c : Char) : Bool := c.isAlphanum || c == '_' || c == '-'

def keyPart : Reader String
  | '"' :: rest => (basic rest).map fun (s, rest) => (String.ofList s, rest)
  | '\'' :: rest => (literal rest).map fun (s, rest) => (String.ofList s, rest)
  | cs =>
    let bare := cs.takeWhile isBare
    if bare.isEmpty then none else some (String.ofList bare, cs.dropWhile isBare)

def keyParts : Nat → Reader (List String)
  | 0, _ => none
  | fuel + 1, cs => do
    let (part, cs) ← keyPart (skipBlanks cs)
    match skipBlanks cs with
    | '.' :: rest =>
      let (parts, rest) ← keyParts fuel rest
      return (part :: parts, rest)
    | cs => return ([part], cs)

def key : Reader (List String) := keyParts maxParts

def isWordChar (c : Char) : Bool :=
  c.isAlphanum || c == '_' || c == '-' || c == '+' || c == '.' || c == ':'

def word : Reader Toml := fun cs => do
  let w := cs.takeWhile isWordChar
  let rest := cs.dropWhile isWordChar
  match rest with
  | ' ' :: more =>
    let time := more.takeWhile isWordChar
    if Word.isDay w ∧ (time.head?.map Char.isDigit).getD false then
      if Word.isTime time then
        return (.date (String.ofList (w ++ ' ' :: time)), more.dropWhile isWordChar)
      else none
    else return (← Word.read w, rest)
  | _ => return (← Word.read w, rest)

/-- The rest of an array. A comma may follow the last item. -/
def items (item : Reader Toml) : Nat → Reader (List Toml)
  | 0, _ => none
  | fuel + 1, cs =>
    match gap cs with
    | ']' :: rest => some ([], rest)
    | cs => do
      let (v, cs) ← item cs
      match gap cs with
      | ']' :: rest => return ([v], rest)
      | ',' :: rest =>
        let (vs, rest) ← items item fuel rest
        return (v :: vs, rest)
      | _ => none

def pair (item : Reader Toml) : Reader (List String × Toml) := fun cs => do
  let (path, cs) ← key cs
  match cs with
  | '=' :: cs =>
    let (v, cs) ← item (skipBlanks cs)
    return ((path, v), skipBlanks cs)
  | _ => none

def pairs (item : Reader Toml) : Nat → Reader (List (List String × Toml))
  | 0, _ => none
  | fuel + 1, cs => do
    let (p, cs) ← pair item cs
    match cs with
    | '\x7d' :: rest => return ([p], rest)
    | ',' :: rest =>
      let (ps, rest) ← pairs item fuel rest
      return (p :: ps, rest)
    | _ => none

def braces (item : Reader Toml) : Reader Toml := fun cs => do
  let (ps, rest) ← match skipBlanks cs with
    | '\x7d' :: rest => some ([], rest)
    | cs => pairs item cs.length cs
  return (← ofBraces ps, rest)

def value : Nat → Reader Toml
  | nesting, cs =>
    match cs with
    | '"' :: _ | '\'' :: _ => (text cs).map fun (s, rest) => (.string (String.ofList s), rest)
    | '[' :: rest =>
      match nesting with
      | 0 => none
      | n + 1 => (items (value n) rest.length rest).map fun (vs, rest) => (.array vs, rest)
    | '\x7b' :: rest =>
      match nesting with
      | 0 => none
      | n + 1 => braces (value n) rest
    | _ => word cs

def after? : List Char → List Char → Option (List Char)
  | [], cs => some cs
  | m :: marks, c :: cs => if m = c then after? marks cs else none
  | _ :: _, [] => none

def header (close : List Char) (cs : List Char) : Option (List String × List Char) := do
  let (path, cs) ← key cs
  return (path, ← lineEnd? (← after? close cs))

def entry : Reader Statement := fun cs => do
  let (path, cs) ← key cs
  let (v, cs) ← value maxNesting (skipBlanks (← after? ['='] cs))
  return (.entry path v, ← lineEnd? cs)

def statements : Nat → List Char → Option (List Statement)
  | 0, _ => none
  | fuel + 1, cs =>
    match skipBlanks cs with
    | [] => some []
    | '#' :: rest => do statements fuel (← lineEnd? ('#' :: rest))
    | '\n' :: rest => statements fuel rest
    | '\r' :: rest => do statements fuel (← newline? ('\r' :: rest))
    | '[' :: '[' :: rest => do
      let (path, rest) ← header [']', ']'] rest
      return .nextHeader path :: (← statements fuel rest)
    | '[' :: rest => do
      let (path, rest) ← header [']'] rest
      return .header path :: (← statements fuel rest)
    | cs => do
      let (s, rest) ← entry cs
      return s :: (← statements fuel rest)

def skipMark : List Char → List Char
  | c :: rest => if c.toNat = 0xFEFF then rest else c :: rest
  | [] => []

def parse (document : String) : Option Entries := do
  let cs := skipMark document.toList
  ofStatements (← statements (cs.length + 1) cs)

end MessageTunnel.Toml
