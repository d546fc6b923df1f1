import MessageTunnel.Pem.Base64
import MessageTunnel.Text.Decimal
/-!
PEM files: sections of bytes in base 64 between marked lines. Lines outside of sections mean
nothing. A section with a label that is not known is skipped, whatever it holds.
-/
set_option autoImplicit false

namespace MessageTunnel.Pem

abbrev Line := List UInt8

inductive Error where
  | illegalStart (line : Line)
  | missingEnd (label : Line)
  | base64 (e : Base64.Error)
  deriving DecidableEq, Repr

def listing (bytes : Line) : String :=
  "[" ++ ", ".intercalate (bytes.map fun b => Decimal.text b.toNat) ++ "]"

def Error.message : Error → String
  | illegalStart line => "illegal section start: " ++ listing line
  | missingEnd label => "missing section end marker: " ++ listing label
  | base64 (.invalidCharacter b) =>
    "base64 decode error: InvalidCharacter(" ++ Decimal.text b.toNat ++ ")"
  | base64 .prematurePadding => "base64 decode error: PrematurePadding"
  | base64 .invalidTrailingPadding => "base64 decode error: InvalidTrailingPadding"

def ascii (text : String) : Line := text.toList.map fun c => UInt8.ofNat c.toNat

def beginMark : Line := ascii "-----BEGIN "

def dashes : Line := ascii "-----"

def endMark (label : Line) : Line := ascii "-----END " ++ label ++ dashes

def certificateLabel : Line := ascii "CERTIFICATE"

def knownLabels : List Line :=
  ["CERTIFICATE", "PUBLIC KEY", "RSA PRIVATE KEY", "PRIVATE KEY", "EC PRIVATE KEY", "X509 CRL",
    "CERTIFICATE REQUEST", "ECHCONFIG"].map ascii

def lines (content : Line) : List Line :=
  match content with
  | [] => [[]]
  | b :: rest =>
    if b = 10 ∨ b = 13 then [] :: lines rest
    else match lines rest with
      | line :: more => (b :: line) :: more
      | [] => [[b]]

/-- How many dashes a reversed line begins with, not counting spaces between them, and what follows
the last of these dashes. -/
def trailingDashes : Line → Nat × Line → Nat × Line
  | [], found => found
  | b :: rest, (count, after) =>
    if b = 45 then trailingDashes rest (count + 1, rest)
    else if b = 32 then trailingDashes rest (count, after)
    else (count, after)

/-- The label of a line that begins a section. The line has to end with five dashes. -/
def label? (line : Line) : Option Line :=
  match trailingDashes line.reverse (0, line.reverse) with
  | (5, before) => some (before.reverse.drop beginMark.length)
  | _ => none

structure Section where
  label : Line
  content : List UInt8
  deriving DecidableEq, Repr

/-- A reader of lines: the sections that are complete, the label of the one that is open, and its
text so far. -/
structure Reader where
  sections : List Section
  opened : Option Line
  text : Line

/-- Reads a line. One that begins a section does so even inside another, whose text it keeps. -/
def Reader.read (r : Reader) (line : Line) : Except Error Reader :=
  if beginMark.isPrefixOf line then
    match label? line with
    | some label => .ok { r with opened := some label }
    | none => .error (.illegalStart line)
  else match r.opened with
    | none => .ok r
    | some label =>
      if (endMark label).isPrefixOf line then
        if knownLabels.contains label then
          match Base64.decode r.text with
          | .ok content => .ok ⟨r.sections ++ [⟨label, content⟩], none, []⟩
          | .error e => .error (.base64 e)
        else .ok { r with opened := none, text := [] }
      else .ok { r with text := r.text ++ line }

def sections (content : Line) : Except Error (List Section) := do
  let r ← (lines content).foldlM Reader.read ⟨[], none, []⟩
  match r.opened with
  | some label => throw (.missingEnd label)
  | none => return r.sections

end MessageTunnel.Pem
