import MessageTunnel.Text.Hex
set_option autoImplicit false

namespace MessageTunnel.Toml

def isPlain (c : Char) : Bool := c == '\t' || (' ' ≤ c && c != Char.ofNat 127)

def isBlank (c : Char) : Bool := c == ' ' || c == '\t'

def scalar? (digits : List Char) : Option Char := do
  let n ← Hex.number digits
  if n.isValidChar then some (Char.ofNat n) else none

def escape? : List Char → Option (Char × List Char)
  | 'b' :: rest => some (Char.ofNat 8, rest)
  | 't' :: rest => some ('\t', rest)
  | 'n' :: rest => some ('\n', rest)
  | 'f' :: rest => some (Char.ofNat 12, rest)
  | 'r' :: rest => some ('\r', rest)
  | '"' :: rest => some ('"', rest)
  | '\\' :: rest => some ('\\', rest)
  | 'u' :: rest => if rest.length < 4 then none else (scalar? (rest.take 4)).map (·, rest.drop 4)
  | 'U' :: rest => if rest.length < 8 then none else (scalar? (rest.take 8)).map (·, rest.drop 8)
  | _ => none

theorem length_escape? {cs : List Char} {c : Char} {rest : List Char}
    (h : escape? cs = some (c, rest)) : rest.length < cs.length := by
  unfold escape? at h
  split at h
  all_goals first
    | (simp only [Option.some.injEq, Prod.mk.injEq] at h; obtain ⟨_, rfl⟩ := h; simp)
    | (split at h
       · simp at h
       · simp only [Option.map_eq_some_iff, Prod.mk.injEq] at h
         obtain ⟨_, _, _, rfl⟩ := h
         simp only [List.length_drop, List.length_cons]
         omega)
    | simp at h

def newline? : List Char → Option (List Char)
  | '\n' :: rest => some rest
  | '\r' :: '\n' :: rest => some rest
  | _ => none

def skipLines : List Char → List Char
  | '\r' :: '\n' :: rest => skipLines rest
  | c :: rest => if c = '\n' ∨ isBlank c then skipLines rest else c :: rest
  | [] => []

theorem length_skipLines (cs : List Char) : (skipLines cs).length ≤ cs.length := by
  fun_induction skipLines cs <;> simp_all <;> omega

def basic (cs : List Char) : Option (List Char × List Char) :=
  match cs with
  | [] => none
  | '"' :: rest => some ([], rest)
  | '\\' :: rest =>
    match _h : escape? rest with
    | some (c, rest') => (basic rest').map fun (s, rest) => (c :: s, rest)
    | none => none
  | c :: rest => if isPlain c then (basic rest).map fun (s, rest) => (c :: s, rest) else none
termination_by cs.length
decreasing_by
  · have := length_escape? _h
    simp only [List.length_cons]
    omega
  · simp

def literal : List Char → Option (List Char × List Char)
  | [] => none
  | '\'' :: rest => some ([], rest)
  | c :: rest => if isPlain c then (literal rest).map fun (s, rest) => (c :: s, rest) else none

/-- The end of a string of several lines: three quotes, with up to two that belong to the string
before them. -/
def closing (quote : Char) (cs : List Char) : Option (List Char × List Char) :=
  let quotes := (cs.takeWhile (· = quote)).take 5
  if quotes.length < 3 then none
  else some (quotes.drop 3, cs.drop quotes.length)

def continuation? (cs : List Char) : Option (List Char) :=
  (newline? (cs.dropWhile isBlank)).map skipLines

theorem length_newline? {cs rest : List Char} (h : newline? cs = some rest) :
    rest.length < cs.length := by
  unfold newline? at h
  split at h
  · obtain rfl := Option.some.inj h
    simp
  · obtain rfl := Option.some.inj h
    simp only [List.length_cons]
    omega
  · contradiction

theorem length_continuation? {cs rest : List Char} (h : continuation? cs = some rest) :
    rest.length < cs.length := by
  simp only [continuation?, Option.map_eq_some_iff] at h
  obtain ⟨r, hr, rfl⟩ := h
  have h₁ := length_skipLines r
  have h₂ := length_newline? hr
  have h₃ := (List.dropWhile_suffix isBlank (l := cs)).length_le
  omega

def basicLines (cs : List Char) : Option (List Char × List Char) :=
  match closing '"' cs with
  | some found => some found
  | none =>
    match cs with
    | [] => none
    | '\\' :: rest =>
      match _h : continuation? rest with
      | some rest' => basicLines rest'
      | none =>
        match _h : escape? rest with
        | some (c, rest') => (basicLines rest').map fun (s, rest) => (c :: s, rest)
        | none => none
    | '\r' :: '\n' :: rest => (basicLines rest).map fun (s, rest) => ('\n' :: s, rest)
    | c :: rest =>
      if isPlain c ∨ c = '\n' then (basicLines rest).map fun (s, rest) => (c :: s, rest) else none
termination_by cs.length
decreasing_by
  · have := length_continuation? _h
    simp only [List.length_cons]
    omega
  · have := length_escape? _h
    simp only [List.length_cons]
    omega
  · simp only [List.length_cons]
    omega
  · simp

def literalLines (cs : List Char) : Option (List Char × List Char) :=
  match closing '\'' cs with
  | some found => some found
  | none =>
    match cs with
    | [] => none
    | '\r' :: '\n' :: rest => (literalLines rest).map fun (s, rest) => ('\n' :: s, rest)
    | c :: rest =>
      if isPlain c ∨ c = '\n' then (literalLines rest).map fun (s, rest) => (c :: s, rest)
      else none
termination_by cs.length
decreasing_by
  · simp only [List.length_cons]
    omega
  · simp

def skipFirst (cs : List Char) : List Char := (newline? cs).getD cs

def text : List Char → Option (List Char × List Char)
  | '"' :: '"' :: '"' :: rest => basicLines (skipFirst rest)
  | '\'' :: '\'' :: '\'' :: rest => literalLines (skipFirst rest)
  | '"' :: rest => basic rest
  | '\'' :: rest => literal rest
  | _ => none

end MessageTunnel.Toml
