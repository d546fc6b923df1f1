import MessageTunnel.Text.Decimal
import MessageTunnel.Text.Hex
set_option autoImplicit false

namespace MessageTunnel.Quic

inductive IpAddress where
  | v4 (a b c d : UInt8)
  /-- eight groups of sixteen bits, and a zone, zero being none -/
  | v6 (groups : List Nat) (zone : Nat)
  deriving DecidableEq, Repr

namespace IpAddress

def loopback : IpAddress := v4 127 0 0 1

def isV6 : IpAddress → Bool
  | v4 .. => false
  | v6 .. => true

def isUnspecified : IpAddress → Bool
  | v4 a b c d => a == 0 && b == 0 && c == 0 && d == 0
  | v6 groups _ => groups.all (· == 0)

def octet? (digits : List Char) : Option UInt8 :=
  if Decimal.isCanonical digits ∧ digits.length ≤ 3 ∧ Decimal.ofDigits digits < 256 then
    some (UInt8.ofNat (Decimal.ofDigits digits))
  else none

def ofV4Text? (text : List Char) : Option IpAddress :=
  match text.splitOn '.' with
  | [a, b, c, d] => do return v4 (← octet? a) (← octet? b) (← octet? c) (← octet? d)
  | _ => none

def group? (digits : List Char) : Option Nat :=
  if digits.isEmpty ∨ 4 < digits.length then none else Hex.number digits

def groups? (parts : List (List Char)) : Option (List Nat) :=
  match parts.reverse with
  | [] => some []
  | last :: before =>
    match ofV4Text? last with
    | some (v4 a b c d) => do
      let groups ← before.reverse.mapM group?
      return groups ++ [a.toNat * 256 + b.toNat, c.toNat * 256 + d.toNat]
    | _ => parts.mapM group?

def splitDouble : List Char → Option (List Char × List Char)
  | ':' :: ':' :: rest => some ([], rest)
  | c :: rest => (splitDouble rest).map fun (before, after) => (c :: before, after)
  | [] => none

def parts (text : List Char) : List (List Char) := if text.isEmpty then [] else text.splitOn ':'

def ofV6Groups? (text : List Char) : Option (List Nat) :=
  match splitDouble text with
  | none => (groups? (parts text)).filter (·.length = 8)
  | some (before, after) => do
    let front ← (parts before).mapM group?
    let back ← groups? (parts after)
    if front.length + back.length < 8 then
      return front ++ List.replicate (8 - front.length - back.length) 0 ++ back
    else none

def ofV6Text? (text : List Char) : Option IpAddress := (ofV6Groups? text).map (v6 · 0)

def ofText? (text : List Char) : Option IpAddress := (ofV4Text? text).or (ofV6Text? text)

/-- The longest run of zeros, by its first group and its length; of two as long, the first. -/
def longestRun (groups : List Nat) : Nat × Nat :=
  let runAt (i : Nat) : Nat := ((groups.drop i).takeWhile (· == 0)).length
  (List.range groups.length).foldl (fun (at_, length) i =>
    if length < runAt i then (i, runAt i) else (at_, length)) (0, 0)

def joinGroups (groups : List Nat) : String :=
  ":".intercalate (groups.map fun g => String.ofList (Nat.toDigits 16 g))

def text : IpAddress → String
  | v4 a b c d => ".".intercalate ([a, b, c, d].map fun n => Decimal.text n.toNat)
  | v6 groups zone =>
    let (at_, length) := longestRun groups
    let body :=
      match groups with
      | [0, 0, 0, 0, 0, 0xFFFF, high, low] =>
        "::ffff:" ++
          ".".intercalate ([high / 256, high % 256, low / 256, low % 256].map Decimal.text)
      | _ =>
        if length < 2 then joinGroups groups
        else joinGroups (groups.take at_) ++ "::" ++ joinGroups (groups.drop (at_ + length))
    body ++ (if zone = 0 then "" else "%" ++ Decimal.text zone)

end IpAddress

structure SocketAddress where
  ip : IpAddress
  port : UInt16
  deriving DecidableEq, Repr

namespace SocketAddress

def text (a : SocketAddress) : String :=
  (if a.ip.isV6 then "[" ++ a.ip.text ++ "]" else a.ip.text) ++ ":" ++
    Decimal.text a.port.toNat

def splitLast (mark : Char) (text : List Char) : Option (List Char × List Char) :=
  let reversed := text.reverse
  match reversed.dropWhile (· ≠ mark) with
  | _ :: before => some (before.reverse, (reversed.takeWhile (· ≠ mark)).reverse)
  | [] => none

def port? (digits : List Char) : Option UInt16 :=
  (Decimal.bounded 65536 digits).map UInt16.ofNat

def bracketed? (text : List Char) : Option IpAddress :=
  match splitLast '%' text with
  | none => IpAddress.ofV6Text? text
  | some (ip, zone) => do
    let groups ← IpAddress.ofV6Groups? ip
    return .v6 groups (← Decimal.bounded UInt32.size zone)

def ofText? (text : String) : Option SocketAddress := do
  let (host, port) ← splitLast ':' text.toList
  let port ← port? port
  match host with
  | '[' :: inside =>
    if inside.getLast? = some ']' then return ⟨← bracketed? inside.dropLast, port⟩ else none
  | host => return ⟨← IpAddress.ofV4Text? host, port⟩

end SocketAddress

end MessageTunnel.Quic
