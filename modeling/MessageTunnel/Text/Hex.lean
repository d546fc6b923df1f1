set_option autoImplicit false

namespace MessageTunnel.Hex

def ofByte (b : UInt8) : List Char :=
  [Nat.digitChar (b.toNat / 16), Nat.digitChar (b.toNat % 16)]

def encode (bytes : List UInt8) : List Char := bytes.flatMap ofByte

def value (c : Char) : Option Nat :=
  if '0' ≤ c ∧ c ≤ '9' then some (c.toNat - 48)
  else if 'a' ≤ c ∧ c ≤ 'f' then some (c.toNat - 87)
  else if 'A' ≤ c ∧ c ≤ 'F' then some (c.toNat - 55)
  else none

def number (digits : List Char) : Option Nat :=
  digits.foldlM (fun n c => (value c).map (n * 16 + ·)) 0

def decode : List Char → Option (List UInt8)
  | [] => some []
  | [_] => none
  | h :: l :: rest => do
    let high ← value h
    let low ← value l
    let bytes ← decode rest
    return UInt8.ofNat (high * 16 + low) :: bytes

theorem length_encode (bytes : List UInt8) : (encode bytes).length = 2 * bytes.length := by
  induction bytes with
  | nil => rfl
  | cons b rest ih => simp only [encode, List.flatMap_cons, List.length_append] at ih ⊢
                      simp [ofByte, ih]; omega

theorem value_digitChar {n : Nat} (h : n < 16) : value n.digitChar = some n := by
  have : ∀ m : Fin 16, value (Nat.digitChar m) = some m.val := by decide
  exact this ⟨n, h⟩

theorem decode_encode (bytes : List UInt8) : decode (encode bytes) = some bytes := by
  induction bytes with
  | nil => rfl
  | cons b rest ih =>
    have hb : b.toNat < 256 := b.toNat_lt
    have back : UInt8.ofNat (b.toNat / 16 * 16 + b.toNat % 16) = b := by
      rw [show b.toNat / 16 * 16 + b.toNat % 16 = b.toNat by omega]; exact UInt8.ofNat_toNat
    simp only [encode, List.flatMap_cons, ofByte, List.cons_append, List.nil_append, decode]
    rw [value_digitChar (by omega), value_digitChar (by omega)]
    simp only [encode] at ih
    simp only [bind, Option.bind, pure, ih, back]

end MessageTunnel.Hex
