import MessageTunnel.Decimal.Binary64
import MessageTunnel.Json.Value
import MessageTunnel.Text.Quoted
import MessageTunnel.Toml.Value
set_option autoImplicit false

namespace MessageTunnel.Settings

/-- The look of a value whose parts are values of a format. -/
inductive Shape (α : Type) where
  | null
  | boolean (b : Bool)
  | integer (n : Int)
  | fraction (digits : String)
  | text (s : String)
  | sequence (items : List α)
  | map (entries : List (String × α))

class Format (α : Type) where
  shape : α → Shape α

export Format (shape)

/-- The key under which a date is found: a date looks like a map. -/
def dateKey : String := "$__toml_private_datetime"

instance : Format Toml where
  shape
    | .string s => .text s
    | .integer n => .integer n
    | .float x => .fraction x.text
    | .boolean b => .boolean b
    | .date text => .map [(dateKey, .string text)]
    | .array items => .sequence items
    | .table _ entries => .map entries
    | .tables items => .sequence (items.map (.table .header))

/-- A number of more than 64 bits looks like one with a fraction. -/
instance : Format Json where
  shape
    | .null => .null
    | .boolean b => .boolean b
    | .number (.natural n) => if n < UInt64.size then .integer n else .fraction (Decimal.text n)
    | .number (.other literal) =>
      let digits := literal.toList.drop 1
      let n := Decimal.ofDigits digits
      if Decimal.isDigits digits ∧ n ≤ 0x8000000000000000 ∧ n ≠ 0 then .integer (-(n : Int))
      else .fraction literal
    | .string s => .text s
    | .array items => .sequence items
    | .object members => .map members

def Shape.name {α : Type} : Shape α → String
  | null => "unit value"
  | boolean b => if b then "boolean `true`" else "boolean `false`"
  | integer n =>
    "integer `" ++ (if n < 0 then "-" else "") ++ Decimal.text n.natAbs ++ "`"
  | fraction digits => "floating point `" ++ digits ++ "`"
  | text s => "string " ++ Quoted.quote s
  | sequence _ => "sequence"
  | map _ => "map"

inductive Mismatch where
  | invalidType (found expected : String)
  | invalidValue (found expected : String)
  | unknownVariant (name : String)
  | duplicateField (key : String)
  | tooLong
  deriving DecidableEq, Repr

def Mismatch.message : Mismatch → String
  | invalidType found expected => "invalid type: " ++ found ++ ", expected " ++ expected
  | invalidValue found expected => "invalid value: " ++ found ++ ", expected " ++ expected
  | unknownVariant name =>
    "unknown variant `" ++ name ++ "`, expected one of `newreno`, `cubic`, `bbr`"
  | duplicateField key => "duplicate field `" ++ key ++ "`"
  | tooLong => "too many values"

end MessageTunnel.Settings
