import MessageTunnel.Text.Decimal
set_option autoImplicit false

namespace MessageTunnel

/-- A finite number is `mantissa * 2 ^ exponent`, with a mantissa below `2 ^ 53` that is at least
`2 ^ 52` unless the exponent is the least one. -/
inductive Binary64 where
  | finite (negative : Bool) (mantissa : Nat) (exponent : Int)
  | infinite (negative : Bool)
  | nan
  deriving DecidableEq, Repr

namespace Binary64

def leastExponent : Int := -1074

def leastNormal : Nat := 0x10000000000000

def greatestExponent : Int := 971

/-- A quotient rounded to the nearest number; of two that are as near, the even one. -/
def roundHalfEven (num den : Nat) : Nat :=
  let q := num / den
  let r := num % den
  if 2 * r < den then q else if den < 2 * r then q + 1 else if q % 2 = 0 then q else q + 1

def scaleDown (base num den : Nat) (e : Int) : Nat × Nat :=
  match e with
  | .ofNat k => (num, den * Nat.pow base k)
  | .negSucc k => (num * Nat.pow base (k + 1), den)

def nearest (negative : Bool) (num den : Nat) : Binary64 :=
  let guess : Int := (Nat.log2 num : Int) - (Nat.log2 den : Int) - 53
  let fits (e : Int) : Bool :=
    let (n, d) := scaleDown 2 num den e
    n / d < 2 * leastNormal
  let e := max (if fits guess then guess else guess + 1) leastExponent
  let (n, d) := scaleDown 2 num den e
  let m := roundHalfEven n d
  let (m, e) := if m = 2 * leastNormal then (leastNormal, e + 1) else (m, e)
  if greatestExponent < e then infinite negative else finite negative m e

def ofDecimal (negative : Bool) (digits : Nat) (power : Int) : Binary64 :=
  if digits = 0 then finite negative 0 leastExponent
  else
    let magnitude : Int := (Decimal.digits digits).length + power
    if 310 < magnitude then infinite negative
    else if magnitude < -330 then finite negative 0 leastExponent
    else
      let (num, den) := scaleDown 10 digits 1 (-power)
      nearest negative num den

def ofQuotient (num den : Nat) : Binary64 :=
  if num = 0 then finite false 0 leastExponent else nearest false num den

/-- An operation on two numbers without a sign: the number nearest to what it makes of them as
quotients. -/
def combine (f : Nat × Nat → Nat × Nat → Nat × Nat) : Binary64 → Binary64 → Binary64
  | finite _ m e, finite _ m' e' =>
    let (num, den) := f (scaleDown 2 m 1 (-e)) (scaleDown 2 m' 1 (-e'))
    ofQuotient num den
  | _, _ => infinite false

def sum : Binary64 → Binary64 → Binary64 :=
  combine fun (n, d) (n', d') => (n * d' + n' * d, d * d')

def product : Binary64 → Binary64 → Binary64 := combine fun (n, d) (n', d') => (n * n', d * d')

/-- The ends of the interval of numbers that round to `m * 2 ^ e`, in quarters of `2 ^ e`. Below a
power of two the neighbour is half as far. -/
def interval (m : Nat) (e : Int) : Nat × Nat :=
  (if m = leastNormal ∧ leastExponent < e then 4 * m - 1 else 4 * m - 2, 4 * m + 2)

/-- The multiple of a power of ten that lies nearest to `m * 2 ^ e`, among the two next to it, and
that rounds to it. -/
def onGrid (m : Nat) (e power : Int) (quarters : Nat × Nat) : Option Nat :=
  let value (q : Nat) : Nat × Nat :=
    let (n, d) := scaleDown 2 q 4 (-e)
    scaleDown 10 n d power
  let (n, d) := value (4 * m)
  let (low, _) := value quarters.1
  let (high, _) := value quarters.2
  let inside (c : Nat) : Bool :=
    if m % 2 = 0 then low ≤ c * d && c * d ≤ high else low < c * d && c * d < high
  let below := n / d
  let above := below + 1
  match inside below && below != 0, inside above with
  | true, true => some (if n - below * d ≤ above * d - n then below else above)
  | true, false => some below
  | false, true => some above
  | false, false => none

def firstPower (m : Nat) (e : Int) : Int :=
  let powers := (List.range 640).map fun (i : Nat) => (309 : Int) - i
  (powers.find? fun p =>
    let (n, d) := scaleDown 2 m 1 (-e)
    let (n, d) := scaleDown 10 n d p
    d ≤ n).getD (-324)

/-- The shortest digits that are nearest to the number, and the power of ten of the last one. The
coarsest grid is that of the power of ten above the number, which may be nearest to it. -/
def shortest (m : Nat) (e : Int) : Nat × Int :=
  let coarsest := firstPower m e + 1
  let found := (List.range 19).findSome? fun (i : Nat) =>
    let power := coarsest - i
    (onGrid m e power (interval m e)).map fun c => (c, power)
  found.getD (m, 0)

def positional (digits : Nat) (power : Int) : List Char :=
  let ds := Decimal.digits digits
  match power with
  | .ofNat k => ds ++ List.replicate k '0' ++ ['.', '0']
  | .negSucc k =>
    let places := k + 1
    let ds := List.replicate (places + 1 - ds.length) '0' ++ ds
    ds.take (ds.length - places) ++ ['.'] ++ ds.drop (ds.length - places)

def signed (n : Int) : List Char := (if n < 0 then ['-'] else []) ++ Decimal.digits n.natAbs

def scientific (digits : Nat) (power : Int) : List Char :=
  let ds := Decimal.digits digits
  ds.take 1 ++ (if ds.length = 1 then [] else '.' :: ds.drop 1) ++
    'e' :: signed (power + ds.length - 1)

def laidOut (digits : Nat) (power : Int) : List Char :=
  let point := power + (Decimal.digits digits).length
  if -5 < point ∧ point ≤ 16 then positional digits power else scientific digits power

def compact (mantissa : Nat) (exponent : Int) : List Char :=
  if mantissa = 0 then ['0', '.', '0']
  else
    let found := shortest mantissa exponent
    laidOut found.1 found.2

def text : Binary64 → String
  | nan => "NaN"
  | infinite negative => if negative then "-inf" else "inf"
  | finite negative mantissa exponent =>
    let digits :=
      if mantissa = 0 then ['0', '.', '0']
      else
        let (ds, power) := shortest mantissa exponent
        positional ds power
    String.ofList (if negative then '-' :: digits else digits)

end Binary64

end MessageTunnel
