import Mathlib.Tactic.SplitIfs
import MessageTunnel.Text.Utf8
set_option autoImplicit false

namespace MessageTunnel.Utf8

variable {bytes : List UInt8} {text : List Char}

theorem toNat_char_ofNat {n : Nat} (valid : n.isValidChar) : (Char.ofNat n).toNat = n := by
  rw [Char.ofNat, dif_pos valid]
  rfl

theorem eq_ofNat_of_toNat {b : UInt8} {n : Nat} (h : b.toNat = n) : b = UInt8.ofNat n := by
  rw [← h, UInt8.ofNat_toNat]

theorem decode_encode (text : List Char) : decode (encode text) = some text := by
  rw [decode, scan_encode, List.mapM_map]
  exact (List.mapM_pure (m := Option) (f := fun c : Char => c)).trans (by simp)

theorem mem_encode {b : UInt8} (mem : b ∈ encode text) :
    0x80 ≤ b.toNat ∨ ∃ c ∈ text, c.toNat = b.toNat := by
  obtain ⟨c, here, mem⟩ := List.mem_flatMap.1 mem
  have valid : c.toNat < 0x110000 := by
    obtain low | ⟨-, high⟩ := c.valid
    · exact Nat.lt_trans low (by decide)
    · exact high
  simp only [encodeChar] at mem
  split_ifs at mem
  · obtain rfl := List.mem_singleton.1 mem
    exact .inr ⟨c, here, (toNat_ofNat_of_lt (by omega)).symm⟩
  all_goals
    left
    simp only [List.mem_cons, List.not_mem_nil, or_false] at mem
    rcases mem with rfl | rfl | rfl | rfl <;> rw [toNat_ofNat_of_lt (by omega)] <;> omega

theorem scan_open_one {low high value : Nat}
    (h : scan (some ⟨1, low, high, value⟩) bytes = text.map some) :
    ∃ b rest text', bytes = b :: rest ∧ text = Char.ofNat (value * 64 + (b.toNat - 0x80)) :: text' ∧
      (low ≤ b.toNat ∧ b.toNat ≤ high) ∧ scan none rest = text'.map some := by
  cases bytes with
  | nil => cases text <;> simp [scan] at h
  | cons b rest =>
    by_cases within : low ≤ b.toNat ∧ b.toNat ≤ high
    · rw [scan_last within] at h
      cases text with
      | nil => simp at h
      | cons c text' =>
        obtain ⟨hc, hrest⟩ := by simpa using h
        exact ⟨b, rest, text', rfl, by rw [hc], within, hrest⟩
    · cases text <;> simp [scan, step, within] at h

theorem scan_open_more {k low high value : Nat}
    (h : scan (some ⟨k + 2, low, high, value⟩) bytes = text.map some) :
    ∃ b rest, bytes = b :: rest ∧ (low ≤ b.toNat ∧ b.toNat ≤ high) ∧
      scan (some ⟨k + 1, 0x80, 0xBF, value * 64 + (b.toNat - 0x80)⟩) rest = text.map some := by
  cases bytes with
  | nil => cases text <;> simp [scan] at h
  | cons b rest =>
    by_cases within : low ≤ b.toNat ∧ b.toNat ≤ high
    · rw [scan_more within] at h
      exact ⟨b, rest, rfl, within, h⟩
    · cases text <;> simp [scan, step, within] at h

theorem encodeChar_one {b : UInt8} (h : b.toNat < 0x80) : encodeChar (Char.ofNat b.toNat) = [b] := by
  have hn := toNat_char_ofNat (n := b.toNat) (.inl (by omega))
  simp only [encodeChar, hn, if_pos h, UInt8.ofNat_toNat]

theorem encodeChar_two {b₀ b₁ : UInt8} {n : Nat} (h₀ : 0xC2 ≤ b₀.toNat ∧ b₀.toNat ≤ 0xDF)
    (h₁ : 0x80 ≤ b₁.toNat ∧ b₁.toNat ≤ 0xBF)
    (hn : n = (b₀.toNat - 0xC0) * 64 + (b₁.toNat - 0x80)) :
    encodeChar (Char.ofNat n) = [b₀, b₁] := by
  have value := toNat_char_ofNat (n := n) (.inl (by omega))
  simp only [encodeChar, value, if_neg (show ¬ n < 0x80 by omega), if_pos (show n < 0x800 by omega)]
  rw [← eq_ofNat_of_toNat (b := b₀) (by omega), ← eq_ofNat_of_toNat (b := b₁) (by omega)]

theorem encodeChar_three {b₀ b₁ b₂ : UInt8} {n high : Nat} (h₀ : b₀.toNat = 0xE0 + high)
    (h₁ : 0x80 ≤ b₁.toNat ∧ b₁.toNat ≤ 0xBF) (h₂ : 0x80 ≤ b₂.toNat ∧ b₂.toNat ≤ 0xBF)
    (hn : n = (high * 64 + (b₁.toNat - 0x80)) * 64 + (b₂.toNat - 0x80)) (long : 0x800 ≤ n)
    (plane : n < 0x10000) (valid : n < 0xD800 ∨ 0xDFFF < n) :
    encodeChar (Char.ofNat n) = [b₀, b₁, b₂] := by
  have value := toNat_char_ofNat (n := n) (valid.imp_right fun h => ⟨h, by omega⟩)
  simp only [encodeChar, value, if_neg (show ¬ n < 0x80 by omega),
    if_neg (show ¬ n < 0x800 by omega), if_pos plane]
  rw [← eq_ofNat_of_toNat (b := b₀) (by omega), ← eq_ofNat_of_toNat (b := b₁) (by omega),
    ← eq_ofNat_of_toNat (b := b₂) (by omega)]

theorem encodeChar_four {b₀ b₁ b₂ b₃ : UInt8} {n high : Nat} (h₀ : b₀.toNat = 0xF0 + high)
    (h₁ : 0x80 ≤ b₁.toNat ∧ b₁.toNat ≤ 0xBF) (h₂ : 0x80 ≤ b₂.toNat ∧ b₂.toNat ≤ 0xBF)
    (h₃ : 0x80 ≤ b₃.toNat ∧ b₃.toNat ≤ 0xBF)
    (hn : n = ((high * 64 + (b₁.toNat - 0x80)) * 64 + (b₂.toNat - 0x80)) * 64 + (b₃.toNat - 0x80))
    (long : 0x10000 ≤ n) (valid : n < 0x110000) :
    encodeChar (Char.ofNat n) = [b₀, b₁, b₂, b₃] := by
  have value := toNat_char_ofNat (n := n) (.inr ⟨by omega, valid⟩)
  simp only [encodeChar, value, if_neg (show ¬ n < 0x80 by omega),
    if_neg (show ¬ n < 0x800 by omega), if_neg (show ¬ n < 0x10000 by omega)]
  rw [← eq_ofNat_of_toNat (b := b₀) (by omega), ← eq_ofNat_of_toNat (b := b₁) (by omega),
    ← eq_ofNat_of_toNat (b := b₂) (by omega), ← eq_ofNat_of_toNat (b := b₃) (by omega)]

def Begins (bytes : List UInt8) (text : List Char) : Prop :=
  ∃ c rest text', bytes = encodeChar c ++ rest ∧ text = c :: text' ∧ scan none rest = text'.map some

theorem begins_two {b : UInt8} (lead : 0xC2 ≤ b.toNat ∧ b.toNat ≤ 0xDF)
    (h : scan (some ⟨1, 0x80, 0xBF, b.toNat - 0xC0⟩) bytes = text.map some) :
    Begins (b :: bytes) text := by
  obtain ⟨b₁, rest, text', rfl, rfl, h₁, hrest⟩ := scan_open_one h
  exact ⟨_, rest, text', by rw [encodeChar_two lead h₁ rfl]; rfl, rfl, hrest⟩

/-- The bounds of the second byte keep out the forms that are too long and the surrogates. -/
theorem begins_three {b : UInt8} {low high value : Nat} (lead : b.toNat = 0xE0 + value)
    (bounds : 0x80 ≤ low ∧ high ≤ 0xBF) (plane : value ≤ 0xF) (long : value = 0 → 0xA0 ≤ low)
    (valid : value = 0xD → high ≤ 0x9F)
    (h : scan (some ⟨2, low, high, value⟩) bytes = text.map some) : Begins (b :: bytes) text := by
  obtain ⟨b₁, rest₁, rfl, h₁, h⟩ := scan_open_more h
  obtain ⟨b₂, rest, text', rfl, rfl, h₂, hrest⟩ := scan_open_one h
  have more : 0x80 ≤ b₁.toNat ∧ b₁.toNat ≤ 0xBF := by omega
  have written := encodeChar_three lead more h₂ rfl (by omega) (by omega) (by omega)
  exact ⟨_, rest, text', by rw [written]; rfl, rfl, hrest⟩

theorem begins_four {b : UInt8} {low high value : Nat} (lead : b.toNat = 0xF0 + value)
    (bounds : 0x80 ≤ low ∧ high ≤ 0xBF) (last : value ≤ 4) (long : value = 0 → 0x90 ≤ low)
    (valid : value = 4 → high ≤ 0x8F)
    (h : scan (some ⟨3, low, high, value⟩) bytes = text.map some) : Begins (b :: bytes) text := by
  obtain ⟨b₁, rest₁, rfl, h₁, h⟩ := scan_open_more h
  obtain ⟨b₂, rest₂, rfl, h₂, h⟩ := scan_open_more h
  obtain ⟨b₃, rest, text', rfl, rfl, h₃, hrest⟩ := scan_open_one h
  have more : 0x80 ≤ b₁.toNat ∧ b₁.toNat ≤ 0xBF := by omega
  have written := encodeChar_four lead more h₂ h₃ rfl (by omega) (by omega)
  exact ⟨_, rest, text', by rw [written]; rfl, rfl, hrest⟩

theorem begins_of_scan {b : UInt8} (h : scan none (b :: bytes) = text.map some) :
    Begins (b :: bytes) text := by
  by_cases ascii : b.toNat < 0x80
  · simp only [scan, step, first, if_pos ascii] at h
    cases text with
    | nil => simp at h
    | cons c text' =>
      obtain ⟨hc, hrest⟩ := by simpa using h
      exact ⟨c, bytes, text', by rw [← hc, encodeChar_one ascii]; rfl, rfl, hrest⟩
  · cases opened : lead b.toNat with
    | none => cases text <;> simp [scan, step, first, ascii, opened] at h
    | some o =>
      rw [scan_lead (by omega) opened] at h
      -- The cases are the first bytes that open a longer form.
      unfold lead at opened
      split at opened
      · obtain rfl := Option.some.inj opened
        exact begins_two ‹_› h
      split at opened
      · obtain rfl := Option.some.inj opened
        exact begins_three ‹_› (by omega) (by omega) (by omega) (by omega) h
      split at opened
      · obtain rfl := Option.some.inj opened
        exact begins_three ‹_› (by omega) (by omega) (by omega) (by omega) h
      split at opened
      · obtain rfl := Option.some.inj opened
        exact begins_three (by omega) (by omega) (by omega) (by omega) (by omega) h
      split at opened
      · obtain rfl := Option.some.inj opened
        exact begins_four ‹_› (by omega) (by omega) (by omega) (by omega) h
      split at opened
      · obtain rfl := Option.some.inj opened
        exact begins_four ‹_› (by omega) (by omega) (by omega) (by omega) h
      split at opened
      · obtain rfl := Option.some.inj opened
        exact begins_four (by omega) (by omega) (by omega) (by omega) (by omega) h
      · simp at opened

theorem scan_eq_iff : scan none bytes = text.map some ↔ bytes = encode text := by
  refine ⟨fun h => ?_, fun h => by rw [h, scan_encode]⟩
  induction text generalizing bytes with
  | nil =>
    cases bytes with
    | nil => rfl
    | cons b rest =>
      obtain ⟨c, rest, text', -, none, -⟩ := begins_of_scan h
      simp at none
  | cons c text' ih =>
    cases bytes with
    | nil => simp [scan] at h
    | cons b rest =>
      obtain ⟨c', rest', text'', written, same, h⟩ := begins_of_scan h
      obtain ⟨rfl, rfl⟩ := List.cons.inj same
      rw [written, ih h]
      rfl

theorem decode_eq_some_iff : decode bytes = some text ↔ bytes = encode text := by
  refine ⟨fun h => ?_, fun h => by rw [h, decode_encode]⟩
  refine scan_eq_iff.1 ?_
  rw [decode] at h
  generalize scan none bytes = marks at h
  induction marks generalizing text with
  | nil =>
    obtain rfl : [] = text := by simpa using h
    rfl
  | cons mark rest ih =>
    rw [List.mapM_cons] at h
    cases mark with
    | none => simp at h
    | some c =>
      obtain ⟨text', later, rfl⟩ : ∃ text', rest.mapM id = some text' ∧ c :: text' = text := by
        simpa [Option.bind_eq_some_iff] using h
      rw [List.map_cons, ih later]

/-- A lossy reading gives a text without replacements of no other bytes than its own. -/
theorem decodeLossy_eq_iff (plain : Char.ofNat 0xFFFD ∉ text) :
    decodeLossy bytes = text ↔ bytes = encode text := by
  refine ⟨fun h => ?_, fun h => by rw [h, decodeLossy_encode]⟩
  refine scan_eq_iff.1 ?_
  rw [← h, decodeLossy, List.map_map]
  refine (List.map_id _).symm.trans (List.map_congr_left fun mark mem => ?_)
  cases mark with
  | none =>
    have replaced : Char.ofNat 0xFFFD ∈ decodeLossy bytes := List.mem_map.2 ⟨none, mem, rfl⟩
    exact absurd (h ▸ replaced) plain
  | some c => rfl

end MessageTunnel.Utf8
