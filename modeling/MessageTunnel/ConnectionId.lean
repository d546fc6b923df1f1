import MessageTunnel.Text.Hex
import MessageTunnel.Text.Decimal
set_option autoImplicit false

namespace MessageTunnel

structure ConnectionId where
  bytes : List UInt8
  deriving DecidableEq, Repr

namespace ConnectionId

/-- A number as eight bytes, the most significant one first. -/
def ofNumber (n : UInt64) : ConnectionId :=
  ⟨(List.range 8).reverse.map fun i => UInt8.ofNat (n.toNat / Nat.pow 256 i % 256)⟩

def hex (id : ConnectionId) : String := String.ofList (Hex.encode id.bytes)

def ofHex? (text : String) : Option ConnectionId := (Hex.decode text.toList).map .mk

def listing (id : ConnectionId) : String :=
  "ConnectionId([" ++ ", ".intercalate (id.bytes.map fun b => Decimal.text b.toNat) ++ "])"

theorem ofHex?_hex (id : ConnectionId) : ofHex? id.hex = some id := by
  simp [ofHex?, hex, Hex.decode_encode]

theorem hex_injective {a b : ConnectionId} (h : a.hex = b.hex) : a = b := by
  have := ofHex?_hex a
  rw [h, ofHex?_hex] at this
  exact (Option.some.inj this).symm

end ConnectionId

end MessageTunnel
