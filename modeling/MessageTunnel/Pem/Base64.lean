set_option autoImplicit false

namespace MessageTunnel.Base64

inductive Error where
  | invalidCharacter (b : UInt8)
  | prematurePadding
  | invalidTrailingPadding
  deriving DecidableEq, Repr

def ofDigit (d : Nat) : UInt8 :=
  if d < 26 then .ofNat (65 + d)
  else if d < 52 then .ofNat (71 + d)
  else if d < 62 then .ofNat (d - 4)
  else if d = 62 then 43
  else 47

def digit? (b : UInt8) : Option Nat :=
  let n := b.toNat
  if 65 ≤ n ∧ n ≤ 90 then some (n - 65)
  else if 97 ≤ n ∧ n ≤ 122 then some (n - 71)
  else if 48 ≤ n ∧ n ≤ 57 then some (n + 4)
  else if n = 43 then some 62
  else if n = 47 then some 63
  else none

def pad : UInt8 := 61

def isBlank (b : UInt8) : Bool := (9 ≤ b.toNat && b.toNat ≤ 13) || b.toNat == 32

def encode : List UInt8 → List UInt8
  | a :: b :: c :: rest =>
    let n := a.toNat * 65536 + b.toNat * 256 + c.toNat
    ofDigit (n / 262144) :: ofDigit (n / 4096 % 64) :: ofDigit (n / 64 % 64) ::
      ofDigit (n % 64) :: encode rest
  | [a, b] =>
    let n := a.toNat * 1024 + b.toNat * 4
    [ofDigit (n / 4096), ofDigit (n / 64 % 64), ofDigit (n % 64), pad]
  | [a] =>
    let n := a.toNat * 16
    [ofDigit (n / 64), ofDigit (n % 64), pad, pad]
  | [] => []

/-- Digits of which every one is a number, or nothing where padding stands. -/
abbrev Block := List (Option Nat)

def hasPadding (block : Block) : Bool := block.any (·.isNone)

/-- The three bytes of four digits. Padding counts as zero. -/
def quad (block : Block) : List UInt8 :=
  let n := block.foldl (fun n d => n * 64 + d.getD 0) 0
  [.ofNat (n / 65536), .ofNat (n / 256 % 256), .ofNat (n % 256)]

/-- A reader in the middle of some digits: what is decoded, and the last digits, eight at most. -/
structure Reader where
  decoded : List UInt8
  block : Block

def Reader.add (r : Reader) (d : Option Nat) : Except Error Reader :=
  if r.block.length < 8 then .ok { r with block := r.block ++ [d] }
  else if hasPadding r.block then .error .prematurePadding
  else .ok ⟨r.decoded ++ quad (r.block.take 4) ++ quad (r.block.drop 4), [d]⟩

def Reader.read (r : Reader) (b : UInt8) : Except Error Reader :=
  if isBlank b then .ok r
  else if b = pad then r.add none
  else match digit? b with
    | some d => r.add (some d)
    | none => .error (.invalidCharacter b)

def lastBytes (block : Block) : Except Error (List UInt8) :=
  match block with
  | [] => .ok []
  | [some _, some _, some _, some _] => .ok (quad block)
  | [some a, some b, some c, none] | [some a, some b, some c] =>
    .ok ((quad [some a, some b, some c, none]).take 2)
  | [some a, some b, none, none] | [some a, some b] =>
    .ok ((quad [some a, some b, none, none]).take 1)
  | _ => .error .invalidTrailingPadding

def Reader.finish (r : Reader) : Except Error (List UInt8) := do
  if r.block.length ≤ 4 then return r.decoded ++ (← lastBytes r.block)
  if hasPadding (r.block.take 4) then throw .prematurePadding
  return r.decoded ++ quad (r.block.take 4) ++ (← lastBytes (r.block.drop 4))

def decode (text : List UInt8) : Except Error (List UInt8) := do
  (← text.foldlM Reader.read ⟨[], []⟩).finish

end MessageTunnel.Base64
