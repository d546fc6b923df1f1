import Mathlib.Data.List.Chain
import Mathlib.Tactic.SplitIfs
import MessageTunnel.Json.Token
/-!
Tokens that are written one after the other are read back as they were. A mark and a string end by
themselves, whatever follows; a word ends where the next character cannot go on with it, so two
words must not stand side by side. No control character is ever written.
-/
set_option autoImplicit false

namespace MessageTunnel

namespace Decimal

theorem digits_step (n : Nat) :
    digits n = (if n < 10 then [] else digits (n / 10)) ++ [(n % 10).digitChar] := by
  unfold digits
  split
  · rename_i small
    rw [Nat.toDigits_of_lt_base small, Nat.mod_eq_of_lt small, List.nil_append]
  · rename_i large
    exact Nat.toDigits_of_base_le (by decide) (Nat.not_lt.1 large)

theorem digits_ne_nil (n : Nat) : digits n ≠ [] := Nat.toDigits_ne_nil

theorem head?_digits {n : Nat} (positive : 0 < n) : (digits n).head? ≠ some '0' := by
  induction n using Nat.strongRecOn with
  | _ n ih =>
    rw [digits_step]
    split
    · rename_i small
      have : ∀ m : Fin 10, 0 < m.val → m.val.digitChar ≠ '0' := by decide
      simpa [Nat.mod_eq_of_lt small] using this ⟨n, small⟩ positive
    · have before := ih (n / 10) (by omega) (by omega)
      cases here : digits (n / 10) with
      | nil => exact absurd here (digits_ne_nil _)
      | cons c rest => simpa [here] using before

theorem isDigits_padded (zeros n : Nat) :
    isDigits (List.replicate zeros '0' ++ digits n) = true := by
  have all : (digits n).all Char.isDigit = true :=
    List.all_eq_true.2 fun c => isDigit_of_mem_digits
  simp [isDigits, digits_ne_nil, all]

theorem isDigits_digits (n : Nat) : isDigits (digits n) = true := isDigits_padded 0 n

theorem isCanonical_digits (n : Nat) : isCanonical (digits n) = true := by
  rw [isCanonical, isDigits_digits, Bool.true_and, Bool.or_eq_true]
  cases Nat.eq_zero_or_pos n with
  | inl zero => exact .inl (by rw [zero]; decide)
  | inr positive => exact .inr (by simpa using head?_digits positive)

end Decimal

namespace Hex

theorem ofByte_ofNat {n : Nat} (small : n < 256) :
    ofByte (.ofNat n) = [(n / 16).digitChar, (n % 16).digitChar] := by
  rw [ofByte, UInt8.toNat_ofNat', Nat.mod_eq_of_lt small]

end Hex

namespace Json

def Scanner.run (s : Scanner) (text : List Char) : Option (List Token) := do
  let s ← text.foldlM Scanner.read s
  let last ← s.mode.finish
  return s.tokens.reverse ++ last

variable {c : Char} {acc text rest : List Char} {before : List Token} {t : Token}

theorem scan_eq (text : List Char) : scan text = Scanner.run ⟨.between, []⟩ text := rfl

theorem Scanner.run_cons {s u : Scanner} (h : s.read c = some u) (rest : List Char) :
    s.run (c :: rest) = u.run rest := by
  simp [run, h]

theorem Scanner.run_nil (before : List Token) :
    run ⟨.between, before⟩ [] = some before.reverse := by
  simp [run, Mode.finish]

theorem run_digits (low : c.toNat < 32) :
    Scanner.run ⟨.digits acc none 4 0, before⟩ ('0' :: '0' :: Hex.ofByte (.ofNat c.toNat) ++ rest) =
      Scanner.run ⟨.text (c :: acc), before⟩ rest := by
  rw [Hex.ofByte_ofNat (by omega)]
  have value : c.toNat / 16 * 16 + c.toNat % 16 = c.toNat := by omega
  have last : Mode.afterUnit acc none c.toNat = some (.text (c :: acc)) := by
    rw [Mode.afterUnit, if_neg (by omega), if_neg (by omega), Char.ofNat_toNat]
  have zero : Hex.value '0' = some 0 := by decide
  have high := Hex.value_digitChar (show c.toNat / 16 < 16 by omega)
  have lower := Hex.value_digitChar (show c.toNat % 16 < 16 by omega)
  simp only [List.cons_append, List.nil_append]
  rw [Scanner.run_cons (u := ⟨.digits acc none 3 0, before⟩)
      (by simp [Scanner.read, Mode.read, zero]),
    Scanner.run_cons (u := ⟨.digits acc none 2 0, before⟩)
      (by simp [Scanner.read, Mode.read, zero]),
    Scanner.run_cons (u := ⟨.digits acc none 1 (c.toNat / 16), before⟩)
      (by simp [Scanner.read, Mode.read, high]),
    Scanner.run_cons (u := ⟨.text (c :: acc), before⟩)
      (by simp [Scanner.read, Mode.read, lower, value, last])]

inductive Escaped (c : Char) : List Char → Prop where
  | short (d : Char) (known : unescape d = some c) (notUnit : d ≠ 'u') : Escaped c ['\\', d]
  | unit (low : c.toNat < 32) :
    Escaped c ('\\' :: 'u' :: '0' :: '0' :: Hex.ofByte (.ofNat c.toNat))
  | plain (high : 32 ≤ c.toNat) (notQuote : c ≠ '"') (notBackslash : c ≠ '\\') : Escaped c [c]

theorem escapeChar_escaped (c : Char) : Escaped c (escapeChar c) := by
  have short {d e : Char} (known : unescape e = some d) (notUnit : e ≠ 'u') (same : c = d) :
      Escaped c ['\\', e] := .short e (same ▸ known) notUnit
  unfold escapeChar
  split_ifs with quote backslash feed return_ tab backspace form low
  · exact short rfl (by decide) quote
  · exact short rfl (by decide) backslash
  · exact short rfl (by decide) feed
  · exact short rfl (by decide) return_
  · exact short rfl (by decide) tab
  · exact short rfl (by decide) backspace
  · exact short rfl (by decide) form
  · exact .unit low
  · exact .plain (Nat.not_lt.1 low) quote backslash

theorem run_escaped {d : Char} (known : unescape d = some c) (short : d ≠ 'u') :
    Scanner.run ⟨.text acc, before⟩ ('\\' :: d :: rest) =
      Scanner.run ⟨.text (c :: acc), before⟩ rest := by
  rw [Scanner.run_cons (u := ⟨.escaped acc, before⟩) (by simp [Scanner.read, Mode.read]),
    Scanner.run_cons (by simp [Scanner.read, Mode.read, known, short]; rfl)]

theorem run_escapeChar (c : Char) (rest : List Char) :
    Scanner.run ⟨.text acc, before⟩ (escapeChar c ++ rest) =
      Scanner.run ⟨.text (c :: acc), before⟩ rest := by
  have form := escapeChar_escaped c
  generalize escapeChar c = spelled at form ⊢
  cases form with
  | short d known notUnit => exact run_escaped known notUnit
  | unit low =>
    exact (Scanner.run_cons (u := ⟨.escaped acc, before⟩) rfl _).trans
      ((Scanner.run_cons (u := ⟨.digits acc none 4 0, before⟩) rfl _).trans (run_digits low))
  | plain high notQuote notBackslash =>
    refine Scanner.run_cons ?_ rest
    simp [Scanner.read, Mode.read, notQuote, notBackslash, Nat.not_lt.2 high]

theorem run_escape (text : List Char) :
    Scanner.run ⟨.text acc, before⟩ (escape text ++ '"' :: rest) =
      Scanner.run ⟨.between, .string (String.ofList (acc.reverse ++ text)) :: before⟩ rest := by
  induction text generalizing acc with
  | nil =>
    rw [escape, List.flatMap_nil, List.nil_append, List.append_nil]
    exact Scanner.run_cons (by simp [Scanner.read, Mode.read]) rest
  | cons c text ih =>
    have next := @ih (c :: acc)
    rw [List.reverse_cons, List.append_assoc] at next
    rw [escape, List.flatMap_cons, List.append_assoc, run_escapeChar]
    exact next

def Token.isWord : Token → Bool
  | .null | .boolean _ | .number _ => true
  | _ => false

/-- A number that is kept as it is spelled has to be spelled as numbers are. -/
def Token.isReadable : Token → Bool
  | .number (.other literal) =>
    literal.toList.all isWordChar && Token.ofWord literal.toList == some (.number (.other literal))
  | _ => true

theorem isWordChar_of_isDigit (h : c.isDigit = true) : isWordChar c = true := by
  simp [isWordChar, Char.isAlphanum, h]

theorem Token.ofWord_digits (n : Nat) :
    Token.ofWord (Decimal.digits n) = some (.number (.natural n)) := by
  have word (w : List Char) (letter : w.all Char.isDigit = false) : Decimal.digits n ≠ w := by
    rintro rfl
    have := Decimal.isDigits_digits n
    simp [Decimal.isDigits, letter] at this
  rw [ofWord, if_neg (word _ (by decide)), if_neg (word _ (by decide)), if_neg (word _ (by decide)),
    if_pos (Decimal.isCanonical_digits n), Decimal.ofDigits_digits]

theorem Token.ofWord_nil : Token.ofWord [] = none := by decide

theorem Token.ofWord_text (word : t.isWord = true) (readable : t.isReadable = true) :
    t.text.all isWordChar = true ∧ Token.ofWord t.text = some t := by
  cases t with
  | null => decide
  | boolean b => cases b <;> decide
  | number n =>
    cases n with
    | natural n =>
      refine ⟨?_, ofWord_digits n⟩
      simp only [Token.text, List.all_eq_true]
      exact fun c here => isWordChar_of_isDigit (Decimal.isDigit_of_mem_digits here)
    | other literal =>
      simpa [Token.isReadable, Token.text] using readable
  | _ => simp [Token.isWord] at word

theorem isSpace_of_isWordChar (h : isWordChar c = true) : isSpace c = false := by
  cases space : isSpace c with
  | false => rfl
  | true =>
    simp only [isSpace, Bool.or_eq_true, beq_iff_eq] at space
    rcases space with ((rfl | rfl) | rfl) | rfl <;> exact absurd h (by decide)

def Stops (rest : List Char) : Prop := ∀ c ∈ rest.head?, isWordChar c = false

theorem run_wordChars (chars : text.all isWordChar = true) :
    Scanner.run ⟨.word acc, before⟩ (text ++ rest) =
      Scanner.run ⟨.word (text.reverse ++ acc), before⟩ rest := by
  induction text generalizing acc with
  | nil => rfl
  | cons c text ih =>
    rw [List.all_cons, Bool.and_eq_true] at chars
    rw [List.cons_append, Scanner.run_cons (u := ⟨.word (c :: acc), before⟩)
      (by simp [Scanner.read, Mode.read, chars.1]), ih chars.2, List.reverse_cons,
      List.append_assoc, List.singleton_append]

theorem run_wordEnd (word : Token.ofWord acc.reverse = some t) (stops : Stops rest) :
    Scanner.run ⟨.word acc, before⟩ rest = Scanner.run ⟨.between, t :: before⟩ rest := by
  cases rest with
  | nil => simp [Scanner.run, Mode.finish, word]
  | cons c rest =>
    have ends : isWordChar c = false := stops c rfl
    have same : Scanner.read ⟨.word acc, before⟩ c = Scanner.read ⟨.between, t :: before⟩ c := by
      simp only [Scanner.read, Mode.read, ends, word]
      cases Mode.begin c <;> simp
    simp only [Scanner.run, List.foldlM_cons, same]

theorem run_word (word : t.isWord = true) (readable : t.isReadable = true) (stops : Stops rest) :
    Scanner.run ⟨.between, before⟩ (t.text ++ rest) = Scanner.run ⟨.between, t :: before⟩ rest := by
  obtain ⟨chars, known⟩ := Token.ofWord_text word readable
  cases spelled : t.text with
  | nil => simp [spelled, Token.ofWord_nil] at known
  | cons c text =>
    rw [spelled] at chars known
    rw [List.all_cons, Bool.and_eq_true] at chars
    have first : Scanner.read ⟨.between, before⟩ c = some ⟨.word [c], before⟩ := by
      have notSpace : isSpace c = false := isSpace_of_isWordChar chars.1
      have notQuote : c ≠ '"' := by rintro rfl; exact absurd chars.1 (by decide)
      simp [Scanner.read, Mode.read, Mode.begin, notSpace, notQuote, chars.1]
    rw [List.cons_append, Scanner.run_cons first, run_wordChars chars.2]
    exact run_wordEnd (by simpa using known) stops

theorem run_string (s : String) :
    Scanner.run ⟨.between, before⟩ ((Token.string s).text ++ rest) =
      Scanner.run ⟨.between, .string s :: before⟩ rest := by
  rw [Token.text, quote, List.append_assoc, List.cons_append, List.singleton_append,
    Scanner.run_cons (u := ⟨.text [], before⟩) rfl, run_escape, List.reverse_nil, List.nil_append,
    String.ofList_toList]

theorem run_token (readable : t.isReadable = true) (stops : t.isWord = true → Stops rest) :
    Scanner.run ⟨.between, before⟩ (t.text ++ rest) = Scanner.run ⟨.between, t :: before⟩ rest := by
  cases t with
  | null | boolean _ | number _ => exact run_word rfl readable (stops rfl)
  | string s => exact run_string s
  | openObject | closeObject | openArray | closeArray | colon | comma =>
    exact Scanner.run_cons rfl rest

theorem stops_text (notWord : t.isWord = false) (rest : List Char) : Stops (t.text ++ rest) := by
  cases t with
  | null | boolean _ | number _ => simp [Token.isWord] at notWord
  | string s => simp [Stops, Token.text, quote]; decide
  | openObject | closeObject | openArray | closeArray | colon | comma =>
    simp [Stops, Token.text]; decide

def Spaced (ts : List Token) : Prop := ts.IsChain fun t u => t.isWord = true → u.isWord = false

theorem run_tokens {ts : List Token} (spaced : Spaced ts)
    (readable : ∀ t ∈ ts, t.isReadable = true) (before : List Token) :
    Scanner.run ⟨.between, before⟩ (ts.flatMap Token.text) = some (before.reverse ++ ts) := by
  induction ts generalizing before with
  | nil => simpa using Scanner.run_nil before
  | cons t rest ih =>
    have stops : t.isWord = true → Stops (rest.flatMap Token.text) := by
      intro word
      cases rest with
      | nil => simp [Stops]
      | cons u rest =>
        rw [List.flatMap_cons]
        exact stops_text ((List.isChain_cons_cons.1 spaced).1 word) _
    rw [List.flatMap_cons, run_token (readable t List.mem_cons_self) stops,
      ih spaced.tail fun u here => readable u (List.mem_cons_of_mem t here)]
    simp

theorem scan_tokens {ts : List Token} (spaced : Spaced ts)
    (readable : ∀ t ∈ ts, t.isReadable = true) : scan (ts.flatMap Token.text) = some ts := by
  rw [scan_eq, run_tokens spaced readable]
  rfl

def isPrintable (c : Char) : Bool := 32 ≤ c.toNat

theorem isPrintable_of_controls {P : Char → Prop} (controls : ∀ n : Fin 32, ¬ P (Char.ofNat n))
    (h : P c) : isPrintable c = true := by
  refine decide_eq_true (Nat.not_lt.1 fun low => controls ⟨c.toNat, low⟩ ?_)
  rwa [Char.ofNat_toNat]

theorem isPrintable_of_isWordChar (h : isWordChar c = true) : isPrintable c = true :=
  isPrintable_of_controls (P := fun c => isWordChar c = true) (by decide) h

theorem Escaped.printable (h : Escaped c text) : text.all isPrintable = true := by
  cases h with
  | short d known notUnit =>
    have shown : isPrintable d = true :=
      isPrintable_of_controls (P := fun d => (unescape d).isSome = true) (by decide)
        (by simp [known])
    have backslash : isPrintable '\\' = true := by decide
    simp [backslash, shown]
  | unit low =>
    have digit : ∀ n : Fin 16, isPrintable n.val.digitChar = true := by decide
    have high := digit ⟨c.toNat / 16, by omega⟩
    have lower := digit ⟨c.toNat % 16, by omega⟩
    rw [Hex.ofByte_ofNat (by omega)]
    simp [high, lower]; decide
  | plain high notQuote notBackslash => simpa [isPrintable] using high

theorem printable_escape (text : List Char) : (escape text).all isPrintable = true := by
  rw [escape, List.all_flatMap, List.all_eq_true]
  exact fun c _ => (escapeChar_escaped c).printable

theorem Token.printable_text (readable : t.isReadable = true) :
    t.text.all isPrintable = true := by
  have word (h : t.isWord = true) : t.text.all isPrintable = true := by
    have chars := List.all_eq_true.1 (ofWord_text h readable).1
    exact List.all_eq_true.2 fun c here => isPrintable_of_isWordChar (chars c here)
  cases t with
  | null | boolean _ | number _ => exact word rfl
  | string s =>
    rw [Token.text, quote, List.all_append, List.all_cons, printable_escape]
    decide
  | openObject | closeObject | openArray | closeArray | colon | comma => decide

end Json

end MessageTunnel
