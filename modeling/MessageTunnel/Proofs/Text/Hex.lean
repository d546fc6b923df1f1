import Mathlib.Tactic.Ring
import MessageTunnel.Text.Hex
set_option autoImplicit false

namespace MessageTunnel.Hex

def digit (d : Fin 16) : Char := Nat.digitChar d

def halves (bytes : List UInt8) : List (Fin 16) :=
  bytes.flatMap fun b => [⟨b.toNat / 16, Nat.div_lt_of_lt_mul b.toNat_lt⟩,
    ⟨b.toNat % 16, Nat.mod_lt _ (by decide)⟩]

/-- What digits stand for, the highest one first. -/
def placeValue : List (Fin 16) → Nat
  | [] => 0
  | d :: rest => d.val * 16 ^ rest.length + placeValue rest

def lowerDigits : List Char := "0123456789abcdef".toList

variable {bytes : List UInt8}

theorem encode_eq_map (bytes : List UInt8) : encode bytes = (halves bytes).map digit := by
  rw [encode, halves, List.map_flatMap]
  rfl

theorem mem_encode {c : Char} (mem : c ∈ encode bytes) : c ∈ lowerDigits := by
  have all : ∀ d, digit d ∈ lowerDigits := by decide +kernel
  rw [encode_eq_map] at mem
  obtain ⟨d, -, rfl⟩ := List.mem_map.1 mem
  exact all d

theorem getElem?_encode {i : Nat} {b : UInt8} (there : bytes[i]? = some b) :
    (encode bytes)[2 * i]? = some (Nat.digitChar (b.toNat / 16)) ∧
      (encode bytes)[2 * i + 1]? = some (Nat.digitChar (b.toNat % 16)) := by
  induction bytes generalizing i with
  | nil => simp at there
  | cons first rest ih =>
    have whole : encode (first :: rest) = ofByte first ++ encode rest := List.flatMap_cons
    cases i with
    | zero =>
      obtain rfl : first = b := by simpa using there
      simp [whole, ofByte]
    | succ i =>
      have later := ih (i := i) (by simpa using there)
      simpa [whole, ofByte, Nat.mul_add] using later

theorem placeValue_lt (digits : List (Fin 16)) : placeValue digits < 16 ^ digits.length := by
  induction digits with
  | nil => simp [placeValue]
  | cons d rest ih =>
    have less : (d.val + 1) * 16 ^ rest.length ≤ 16 * 16 ^ rest.length :=
      Nat.mul_le_mul_right _ d.isLt
    rw [Nat.add_mul] at less
    simp only [placeValue, List.length_cons, Nat.pow_succ]
    omega

theorem number_map (digits : List (Fin 16)) :
    number (digits.map digit) = some (placeValue digits) := by
  -- The induction is on the digits to come, behind any that have been read.
  suffices h : ∀ n, (digits.map digit).foldlM (fun n c => (value c).map (n * 16 + ·)) n =
      some (n * 16 ^ digits.length + placeValue digits) by
    simpa [number] using h 0
  induction digits with
  | nil => simp [placeValue]
  | cons d rest ih =>
    intro n
    have read : value (digit d) = some d.val := value_digitChar d.isLt
    rw [List.map_cons, List.foldlM_cons, read]
    simp only [Option.map_some, Option.bind_eq_bind, Option.bind_some, ih, placeValue,
      List.length_cons]
    rw [Nat.add_mul, Nat.mul_assoc, Nat.add_assoc, Nat.pow_succ']

theorem digit_lt_digit_iff : ∀ {d d' : Fin 16}, digit d < digit d' ↔ d.val < d'.val := by
  decide +kernel

theorem digit_eq_digit_iff : ∀ {d d' : Fin 16}, digit d = digit d' ↔ d.val = d'.val := by
  decide +kernel

theorem map_lt_map_iff {digits digits' : List (Fin 16)} (same : digits.length = digits'.length) :
    digits.map digit < digits'.map digit ↔ placeValue digits < placeValue digits' := by
  induction digits generalizing digits' with
  | nil =>
    obtain rfl := List.length_eq_zero_iff.1 same.symm
    simp [placeValue]
  | cons d rest ih =>
    obtain ⟨d', rest', rfl⟩ := List.exists_cons_of_length_eq_add_one same.symm
    have same : rest.length = rest'.length := by simpa using same
    have small := placeValue_lt rest
    have small' := placeValue_lt rest'
    rw [← same] at small'
    simp only [List.map_cons, List.cons_lt_cons_iff, digit_lt_digit_iff, digit_eq_digit_iff,
      ih same, placeValue, ← same]
    generalize 16 ^ rest.length = place at small small'
    obtain less | equal | greater := Nat.lt_trichotomy d.val d'.val
    · have step : (d.val + 1) * place ≤ d'.val * place := Nat.mul_le_mul_right _ less
      rw [Nat.add_mul] at step
      omega
    · rw [equal]
      omega
    · have step : (d'.val + 1) * place ≤ d.val * place := Nat.mul_le_mul_right _ greater
      rw [Nat.add_mul] at step
      omega

theorem length_halves (bytes : List UInt8) : (halves bytes).length = 2 * bytes.length := by
  rw [← length_encode, encode_eq_map, List.length_map]

theorem placeValue_halves_cons (b : UInt8) (bytes : List UInt8) :
    placeValue (halves (b :: bytes)) =
      256 ^ bytes.length * b.toNat + placeValue (halves bytes) := by
  have square : 16 ^ (2 * bytes.length) = 256 ^ bytes.length := Nat.pow_mul 16 2 _
  have whole : halves (b :: bytes) = ⟨b.toNat / 16, Nat.div_lt_of_lt_mul b.toNat_lt⟩ ::
      ⟨b.toNat % 16, Nat.mod_lt _ (by decide)⟩ :: halves bytes := List.flatMap_cons
  rw [whole]
  simp only [placeValue, List.length_cons, length_halves, Nat.pow_succ, square]
  generalize 256 ^ bytes.length = place
  calc b.toNat / 16 * (place * 16) + (b.toNat % 16 * place + placeValue (halves bytes))
      = place * (16 * (b.toNat / 16) + b.toNat % 16) + placeValue (halves bytes) := by ring
    _ = place * b.toNat + placeValue (halves bytes) := by rw [Nat.div_add_mod]

theorem number_encode (bytes : List UInt8) :
    number (encode bytes) = some (placeValue (halves bytes)) := by
  rw [encode_eq_map, number_map]

theorem encode_lt_encode_iff {bytes' : List UInt8} (same : bytes.length = bytes'.length) :
    encode bytes < encode bytes' ↔ placeValue (halves bytes) < placeValue (halves bytes') := by
  rw [encode_eq_map, encode_eq_map]
  exact map_lt_map_iff (by rw [length_halves, length_halves, same])

end MessageTunnel.Hex
