set_option autoImplicit false

namespace MessageTunnel.Decimal

def digits (n : Nat) : List Char := Nat.toDigits 10 n

def ofDigits (ds : List Char) : Nat := Nat.ofDigitChars 10 ds 0

def text (n : Nat) : String := String.ofList (digits n)

def isDigits (ds : List Char) : Bool := !ds.isEmpty && ds.all Char.isDigit

/-- The one way to write a number without a leading zero. -/
def isCanonical (ds : List Char) : Bool := isDigits ds && (ds == ['0'] || ds.head? != some '0')

theorem ofDigits_digits (n : Nat) : ofDigits (digits n) = n :=
  Nat.ofDigitChars_toDigits (by decide) (by decide)

theorem isDigit_of_mem_digits {n : Nat} {c : Char} (h : c ∈ digits n) : c.isDigit = true :=
  Nat.isDigit_of_mem_toDigits (by decide) (by decide) h

def bounded (bound : Nat) (ds : List Char) : Option Nat :=
  if isDigits ds ∧ ofDigits ds < bound then some (ofDigits ds) else none

end MessageTunnel.Decimal
