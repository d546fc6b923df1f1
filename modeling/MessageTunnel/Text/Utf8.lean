/-!
Text as bytes. `encode` writes scalar values in one to four bytes. `scan` reads any bytes at all and
marks each ill-formed part, a longest beginning of some scalar value's form, by `none`; a strict
reading refuses a mark, a lossy one puts U+FFFD in its place. The main statement is that scanning
what was written gives the text back.
-/
set_option autoImplicit false

namespace MessageTunnel.Utf8

def encodeChar (c : Char) : List UInt8 :=
  let n := c.toNat
  if n < 0x80 then [.ofNat n]
  else if n < 0x800 then [.ofNat (0xC0 + n / 64), .ofNat (0x80 + n % 64)]
  else if n < 0x10000 then
    [.ofNat (0xE0 + n / 4096), .ofNat (0x80 + n / 64 % 64), .ofNat (0x80 + n % 64)]
  else
    [.ofNat (0xF0 + n / 262144), .ofNat (0x80 + n / 4096 % 64), .ofNat (0x80 + n / 64 % 64),
      .ofNat (0x80 + n % 64)]

def encode (text : List Char) : List UInt8 := text.flatMap encodeChar

/-- A scalar value of which the first bytes are read: how many are owed, between which bounds the
next one has to lie, and the value so far. -/
structure Open where
  owed : Nat
  low : Nat
  high : Nat
  value : Nat

/-- What a first byte above 0x7F opens. The bounds keep out long forms and surrogates. -/
def lead (b : Nat) : Option Open :=
  if 0xC2 ≤ b ∧ b ≤ 0xDF then some ⟨1, 0x80, 0xBF, b - 0xC0⟩
  else if b = 0xE0 then some ⟨2, 0xA0, 0xBF, 0⟩
  else if b = 0xED then some ⟨2, 0x80, 0x9F, 0xD⟩
  else if 0xE1 ≤ b ∧ b ≤ 0xEF then some ⟨2, 0x80, 0xBF, b - 0xE0⟩
  else if b = 0xF0 then some ⟨3, 0x90, 0xBF, 0⟩
  else if b = 0xF4 then some ⟨3, 0x80, 0x8F, 4⟩
  else if 0xF1 ≤ b ∧ b ≤ 0xF3 then some ⟨3, 0x80, 0xBF, b - 0xF0⟩
  else none

def first (b : Nat) : List (Option Char) × Option Open :=
  if b < 0x80 then ([some (Char.ofNat b)], none)
  else match lead b with
    | some o => ([], some o)
    | none => ([none], none)

/-- Reads a byte. One that cannot go on with an open value ends that value as ill-formed and is then
read as a first byte. -/
def step : Option Open → Nat → List (Option Char) × Option Open
  | none, b => first b
  | some o, b =>
    if o.low ≤ b ∧ b ≤ o.high then
      let value := o.value * 64 + (b - 0x80)
      if o.owed ≤ 1 then ([some (Char.ofNat value)], none)
      else ([], some ⟨o.owed - 1, 0x80, 0xBF, value⟩)
    else (none :: (first b).1, (first b).2)

def scan : Option Open → List UInt8 → List (Option Char)
  | none, [] => []
  | some _, [] => [none]
  | state, b :: rest => (step state b.toNat).1 ++ scan (step state b.toNat).2 rest

def decode (bytes : List UInt8) : Option (List Char) := (scan none bytes).mapM id

def decodeLossy (bytes : List UInt8) : List Char :=
  (scan none bytes).map (·.getD (Char.ofNat 0xFFFD))

theorem toNat_ofNat_of_lt {n : Nat} (h : n < 256) : (UInt8.ofNat n).toNat = n := by
  simp [UInt8.toNat_ofNat', Nat.mod_eq_of_lt h]

theorem scan_lead {b : UInt8} {o : Open} (high : 0x80 ≤ b.toNat) (h : lead b.toNat = some o)
    (rest : List UInt8) : scan none (b :: rest) = scan (some o) rest := by
  simp only [scan, step, first, h]
  rw [if_neg (by omega)]
  rfl

theorem scan_more {b : UInt8} {k low high value : Nat} (h : low ≤ b.toNat ∧ b.toNat ≤ high)
    (rest : List UInt8) :
    scan (some ⟨k + 2, low, high, value⟩) (b :: rest) =
      scan (some ⟨k + 1, 0x80, 0xBF, value * 64 + (b.toNat - 0x80)⟩) rest := by
  simp only [scan, step, if_pos h]
  rw [if_neg (by omega)]
  rfl

theorem scan_last {b : UInt8} {low high value : Nat} (h : low ≤ b.toNat ∧ b.toNat ≤ high)
    (rest : List UInt8) :
    scan (some ⟨1, low, high, value⟩) (b :: rest) =
      some (Char.ofNat (value * 64 + (b.toNat - 0x80))) :: scan none rest := by
  simp only [scan, step, if_pos h, if_pos (Nat.le_refl 1)]
  rfl

/-- What a three-byte form opens: its bounds admit exactly the second byte of a scalar value. -/
theorem lead_three {n : Nat} (low : 0x800 ≤ n) (high : n < 0x10000)
    (hv : n < 0xD800 ∨ 0xDFFF < n) :
    ∃ l h, lead (0xE0 + n / 4096) = some ⟨2, l, h, n / 4096⟩ ∧
      l ≤ 0x80 + n / 64 % 64 ∧ 0x80 + n / 64 % 64 ≤ h := by
  unfold lead
  rw [if_neg (by omega)]
  by_cases hE0 : n / 4096 = 0
  · exact ⟨0xA0, 0xBF, by rw [if_pos (by omega), hE0], by omega, by omega⟩
  · rw [if_neg (by omega)]
    by_cases hED : n / 4096 = 0xD
    · exact ⟨0x80, 0x9F, by rw [if_pos (by omega), hED], by omega, by omega⟩
    · refine ⟨0x80, 0xBF, ?_, by omega, by omega⟩
      rw [if_neg (by omega), if_pos (by omega), Nat.add_sub_cancel_left]

theorem lead_four {n : Nat} (low : 0x10000 ≤ n) (high : n < 0x110000) :
    ∃ l h, lead (0xF0 + n / 262144) = some ⟨3, l, h, n / 262144⟩ ∧
      l ≤ 0x80 + n / 4096 % 64 ∧ 0x80 + n / 4096 % 64 ≤ h := by
  unfold lead
  rw [if_neg (by omega), if_neg (by omega), if_neg (by omega), if_neg (by omega)]
  by_cases hF0 : n / 262144 = 0
  · exact ⟨0x90, 0xBF, by rw [if_pos (by omega), hF0], by omega, by omega⟩
  · rw [if_neg (by omega)]
    by_cases hF4 : n / 262144 = 4
    · exact ⟨0x80, 0x8F, by rw [if_pos (by omega), hF4], by omega, by omega⟩
    · refine ⟨0x80, 0xBF, ?_, by omega, by omega⟩
      rw [if_neg (by omega), if_pos (by omega), Nat.add_sub_cancel_left]

theorem scan_encodeChar (c : Char) (rest : List UInt8) :
    scan none (encodeChar c ++ rest) = some c :: scan none rest := by
  have hv : c.toNat < 0xD800 ∨ (0xDFFF < c.toNat ∧ c.toNat < 0x110000) := c.valid
  have back := Char.ofNat_toNat c
  generalize hn : c.toNat = n at hv back
  have tail (k : Nat) : (UInt8.ofNat (0x80 + k % 64)).toNat = 0x80 + k % 64 :=
    toNat_ofNat_of_lt (by omega)
  simp only [encodeChar, hn]
  split
  · simp [scan, step, first, toNat_ofNat_of_lt (show n < 256 by omega), *]
  split
  · have hl : (UInt8.ofNat (0xC0 + n / 64)).toNat = 0xC0 + n / 64 :=
      toNat_ofNat_of_lt (by omega)
    have opened : lead (UInt8.ofNat (0xC0 + n / 64)).toNat = some ⟨1, 0x80, 0xBF, n / 64⟩ := by
      rw [hl, lead, if_pos (by omega), Nat.add_sub_cancel_left]
    rw [List.cons_append, List.cons_append, List.nil_append, scan_lead (by omega) opened,
      scan_last (by rw [tail]; omega), tail]
    simp only [show n / 64 * 64 + (0x80 + n % 64 - 0x80) = n by omega, back]
  split
  · have hl : (UInt8.ofNat (0xE0 + n / 4096)).toNat = 0xE0 + n / 4096 :=
      toNat_ofNat_of_lt (by omega)
    obtain ⟨l, h, opened, hlow, hhigh⟩ :=
      lead_three (show 0x800 ≤ n by omega) (by omega) (by omega)
    rw [← hl] at opened
    rw [List.cons_append, List.cons_append, List.cons_append, List.nil_append,
      scan_lead (by omega) opened, scan_more (by rw [tail]; exact ⟨hlow, hhigh⟩),
      scan_last (by rw [tail]; omega), tail, tail]
    simp only [show (n / 4096 * 64 + (0x80 + n / 64 % 64 - 0x80)) * 64 + (0x80 + n % 64 - 0x80) = n
      by omega, back]
  · have hl : (UInt8.ofNat (0xF0 + n / 262144)).toNat = 0xF0 + n / 262144 :=
      toNat_ofNat_of_lt (by omega)
    obtain ⟨l, h, opened, hlow, hhigh⟩ := lead_four (show 0x10000 ≤ n by omega) (by omega)
    rw [← hl] at opened
    rw [List.cons_append, List.cons_append, List.cons_append, List.cons_append, List.nil_append,
      scan_lead (by omega) opened, scan_more (by rw [tail]; exact ⟨hlow, hhigh⟩),
      scan_more (by rw [tail]; omega), scan_last (by rw [tail]; omega),
      tail, tail, tail]
    simp only [show ((n / 262144 * 64 + (0x80 + n / 4096 % 64 - 0x80)) * 64
      + (0x80 + n / 64 % 64 - 0x80)) * 64 + (0x80 + n % 64 - 0x80) = n by omega, back]

theorem scan_encode (text : List Char) : scan none (encode text) = text.map some := by
  induction text with
  | nil => rfl
  | cons c rest ih => simpa [encode, scan_encodeChar] using ih

theorem decodeLossy_encode (text : List Char) : decodeLossy (encode text) = text := by
  simp [decodeLossy, scan_encode, Function.comp_def]

end MessageTunnel.Utf8
