import MessageTunnel.Decimal.Binary64
set_option autoImplicit false

namespace MessageTunnel

inductive Toml.Origin where
  | header
  /-- by a header of a table inside it -/
  | outerHeader
  | dots
  /-- between braces: nothing can be added -/
  | braces
  deriving DecidableEq, Repr

inductive Toml where
  | string (s : String)
  | integer (n : Int)
  | float (x : Binary64)
  | boolean (b : Bool)
  /-- a date, a time of day or both, as it is spelled -/
  | date (text : String)
  | array (items : List Toml)
  | table (origin : Toml.Origin) (entries : List (String × Toml))
  | tables (items : List (List (String × Toml)))
  deriving Repr

end MessageTunnel
