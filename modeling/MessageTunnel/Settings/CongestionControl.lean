import MessageTunnel.Text.Blank
set_option autoImplicit false

namespace MessageTunnel

inductive CongestionControl where
  | newReno
  | cubic
  | bbr
  deriving DecidableEq, Repr

namespace CongestionControl

def all : List CongestionControl := [newReno, cubic, bbr]

def name : CongestionControl → String
  | newReno => "newreno"
  | cubic => "cubic"
  | bbr => "bbr"

def lower (c : Char) : Char := if 'A' ≤ c ∧ c ≤ 'Z' then Char.ofNat (c.toNat + 32) else c

/-- Reads a name in any case, with any blank around it. -/
def ofText? (text : String) : Option CongestionControl :=
  let folded := (Blank.trim text.toList).map lower
  all.find? fun c => c.name.toList == folded

def ofName? (name : String) : Option CongestionControl := all.find? fun c => c.name == name

theorem ofName?_name (c : CongestionControl) : ofName? c.name = some c := by cases c <;> rfl

end CongestionControl

end MessageTunnel
