import MessageTunnel.Json.Token
/-!
JSON values, their tokens in compact form, and a reader of tokens that keeps what it is inside of on
a stack.
-/
set_option autoImplicit false

namespace MessageTunnel

inductive Json where
  | null
  | boolean (b : Bool)
  | number (n : Json.Number)
  | string (s : String)
  | array (items : List Json)
  | object (members : List (String × Json))
  deriving Repr

namespace Json

def natural (n : Nat) : Json := .number (.natural n)

def ofOption {α : Type} (f : α → Json) : Option α → Json
  | none => .null
  | some a => f a

mutual

def tokens : Json → List Token
  | .null => [.null]
  | .boolean b => [.boolean b]
  | .number n => [.number n]
  | .string s => [.string s]
  | .array [] => [.openArray, .closeArray]
  | .array (v :: rest) => .openArray :: v.tokens ++ itemTokens rest
  | .object [] => [.openObject, .closeObject]
  | .object ((k, v) :: rest) => .openObject :: .string k :: .colon :: v.tokens ++ memberTokens rest

def itemTokens : List Json → List Token
  | [] => [.closeArray]
  | v :: rest => .comma :: v.tokens ++ itemTokens rest

def memberTokens : List (String × Json) → List Token
  | [] => [.closeObject]
  | (k, v) :: rest => .comma :: .string k :: .colon :: v.tokens ++ memberTokens rest

end

def render (v : Json) : List Char := v.tokens.flatMap Token.text

def pieces (v : Json) : List (List Char) := v.tokens.flatMap Token.pieces

/-- An array or object that is open, with what it holds so far in reverse. -/
inductive Frame where
  | array (items : List Json)
  | object (members : List (String × Json)) (key : String)

inductive Reader where
  | value (stack : List Frame)
  /-- a first item, or the end of the array -/
  | first (stack : List Frame)
  | firstKey (stack : List Frame)
  | key (members : List (String × Json)) (stack : List Frame)
  | colon (members : List (String × Json)) (key : String) (stack : List Frame)
  | after (stack : List Frame)
  | done (v : Json)

def Reader.complete (v : Json) : List Frame → Reader
  | [] => .done v
  | .array items :: rest => .after (.array (v :: items) :: rest)
  | .object members k :: rest => .after (.object ((k, v) :: members) k :: rest)

def Reader.open (stack : List Frame) : Token → Option Reader
  | .null => some (.complete .null stack)
  | .boolean b => some (.complete (.boolean b) stack)
  | .number n => some (.complete (.number n) stack)
  | .string s => some (.complete (.string s) stack)
  | .openArray => some (.first stack)
  | .openObject => some (.firstKey stack)
  | _ => none

def Reader.read : Reader → Token → Option Reader
  | .value stack, t => Reader.open stack t
  | .first stack, .closeArray => some (.complete (.array []) stack)
  | .first stack, t => Reader.open (.array [] :: stack) t
  | .firstKey stack, .closeObject => some (.complete (.object []) stack)
  | .firstKey stack, .string k => some (.colon [] k stack)
  | .key members stack, .string k => some (.colon members k stack)
  | .colon members k stack, .colon => some (.value (.object members k :: stack))
  | .after (.array items :: stack), .comma => some (.value (.array items :: stack))
  | .after (.array items :: stack), .closeArray => some (.complete (.array items.reverse) stack)
  | .after (.object members _ :: stack), .comma => some (.key members stack)
  | .after (.object members _ :: stack), .closeObject =>
    some (.complete (.object members.reverse) stack)
  | _, _ => none

def ofTokens (ts : List Token) : Option Json := do
  match ← ts.foldlM Reader.read (.value []) with
  | .done v => some v
  | _ => none

def parse (text : List Char) : Option Json := (scan text).bind ofTokens

/-- The member of an object with a given key; of two with one key, the last. -/
def get? (v : Json) (key : String) : Option Json :=
  match v with
  | .object members => members.reverse.lookup key
  | _ => none

end Json

end MessageTunnel
