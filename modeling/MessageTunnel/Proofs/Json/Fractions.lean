import MessageTunnel.Decimal.Binary64
import MessageTunnel.Proofs.Json.Scanning
set_option autoImplicit false

namespace MessageTunnel

namespace Json

variable {word whole rest places : List Char} {mark : Char}

/-- A number that goes on after its whole part. -/
inductive IsFraction : List Char → Prop where
  | mk {whole rest : List Char} {mark : Char} (canonical : Decimal.isCanonical whole = true)
      (marked : mark.isDigit = false) (tail : isTail (mark :: rest) = true)
      (chars : (mark :: rest).all isWordChar = true) : IsFraction (whole ++ mark :: rest)

theorem isDigits_of_isCanonical (canonical : Decimal.isCanonical whole = true) :
    whole ≠ [] ∧ ∀ c ∈ whole, c.isDigit = true := by
  rw [Decimal.isCanonical, Decimal.isDigits, Bool.and_eq_true, Bool.and_eq_true,
    List.all_eq_true] at canonical
  exact ⟨by simpa using canonical.1.1, canonical.1.2⟩

theorem takeWhile_isDigit (rest : List Char) (digits : ∀ c ∈ places, c.isDigit = true)
    (stops : ∀ c ∈ rest.head?, c.isDigit = false) :
    (places ++ rest).takeWhile Char.isDigit = places ∧
      (places ++ rest).dropWhile Char.isDigit = rest := by
  rw [List.takeWhile_append_of_pos digits, List.dropWhile_append_of_pos digits]
  cases rest with
  | nil => simp
  | cons c rest => simp [stops c rfl]

theorem isUnsigned_append (canonical : Decimal.isCanonical whole = true)
    (marked : mark.isDigit = false) (tail : isTail (mark :: rest) = true) :
    isUnsigned (whole ++ mark :: rest) = true := by
  obtain ⟨taken, left⟩ := takeWhile_isDigit (mark :: rest)
    (isDigits_of_isCanonical canonical).2 (by simpa using marked)
  rw [isUnsigned, taken, left, canonical, tail]
  rfl

theorem IsFraction.ofWord_eq (h : IsFraction word) :
    Token.ofWord word = some (.number (.other (String.ofList word))) := by
  obtain ⟨canonical, marked, tail, -⟩ := h
  rename_i whole rest mark
  have unsigned := isUnsigned_append canonical marked tail
  obtain ⟨some_, digits⟩ := isDigits_of_isCanonical canonical
  obtain ⟨c, whole, rfl⟩ := List.exists_cons_of_ne_nil some_
  have digit : c.isDigit = true := digits c List.mem_cons_self
  have other (w : List Char) (letter : w.head?.any Char.isDigit = false) :
      c :: whole ++ mark :: rest ≠ w := by
    rintro rfl
    simp [digit] at letter
  have notCanonical : ¬ Decimal.isCanonical (c :: whole ++ mark :: rest) = true := by
    intro canonical
    have := (isDigits_of_isCanonical canonical).2 mark (by simp)
    simp [marked] at this
  have number : isNumber (c :: whole ++ mark :: rest) = true := by
    rw [List.cons_append] at unsigned ⊢
    rw [isNumber.eq_2]
    · exact unsigned
    · rintro rest same
      obtain ⟨rfl, -⟩ := List.cons.inj same
      exact absurd digit (by decide)
  rw [Token.ofWord, if_neg (other _ (by decide)), if_neg (other _ (by decide)),
    if_neg (other _ (by decide)), if_neg notCanonical, if_pos number]

theorem IsFraction.isReadable (h : IsFraction word) :
    (Token.number (.other (String.ofList word))).isReadable = true := by
  have chars : word.all isWordChar = true := by
    obtain ⟨canonical, -, -, chars⟩ := h
    rw [List.all_append, chars, Bool.and_true, List.all_eq_true]
    exact fun c mem => isWordChar_of_isDigit ((isDigits_of_isCanonical canonical).2 c mem)
  rw [Token.isReadable, String.toList_ofList, chars, h.ofWord_eq]
  simp

theorem isFraction_point (canonical : Decimal.isCanonical whole = true) (some_ : places ≠ [])
    (digits : ∀ c ∈ places, c.isDigit = true) : IsFraction (whole ++ '.' :: places) := by
  refine .mk canonical (by decide) ?_ ?_
  · obtain ⟨taken, left⟩ := takeWhile_isDigit [] digits (by simp)
    rw [List.append_nil] at taken left
    simp [isTail, taken, left, some_, isExponent]
  · rw [List.all_cons, List.all_eq_true.2 fun c mem => isWordChar_of_isDigit (digits c mem)]
    rfl

theorem exists_digits (n : Nat) : ∃ first others,
    Decimal.digits n = first :: others ∧ ∀ c ∈ first :: others, c.isDigit = true := by
  obtain ⟨first, others, here⟩ := List.exists_cons_of_ne_nil (Decimal.digits_ne_nil n)
  exact ⟨first, others, here, here ▸ fun c mem => Decimal.isDigit_of_mem_digits mem⟩

theorem exists_digits_of_pos {n : Nat} (positive : 0 < n) : ∃ first others,
    Decimal.digits n = first :: others ∧ first ≠ '0' ∧ ∀ c ∈ first :: others, c.isDigit = true := by
  obtain ⟨first, others, here, digits⟩ := exists_digits n
  have leads := Decimal.head?_digits positive
  rw [here] at leads
  exact ⟨first, others, here, by simpa using leads, digits⟩

theorem isExponent_signed (n : Int) : isExponent ('e' :: Binary64.signed n) = true := by
  have digits := Decimal.isDigits_digits n.natAbs
  unfold Binary64.signed
  split
  · simpa [isExponent] using digits
  · obtain ⟨c, rest, here, each⟩ := exists_digits n.natAbs
    have other {sign : Char} (noDigit : sign.isDigit = false) (rest' : List Char) :
        c :: rest ≠ sign :: rest' := by
      rintro same
      have digit := each c List.mem_cons_self
      simp [(List.cons.inj same).1, noDigit] at digit
    rw [here] at digits
    rw [here, List.nil_append, isExponent.eq_4 _ _ (other (by decide)) (other (by decide))]
    simpa using digits

theorem isWordChar_signed (n : Int) : (Binary64.signed n).all isWordChar = true := by
  have digits : (Decimal.digits n.natAbs).all isWordChar = true :=
    List.all_eq_true.2 fun c mem => isWordChar_of_isDigit (Decimal.isDigit_of_mem_digits mem)
  rw [Binary64.signed, List.all_append, digits]
  split <;> rfl

theorem isFraction_exponent (canonical : Decimal.isCanonical whole = true) (n : Int) :
    IsFraction (whole ++ 'e' :: Binary64.signed n) := by
  refine .mk canonical (by decide) ?_ ?_
  · rw [isTail.eq_2 _ (by simp)]
    exact isExponent_signed n
  · rw [List.all_cons, isWordChar_signed]
    rfl

theorem isFraction_pointExponent (canonical : Decimal.isCanonical whole = true)
    (some_ : places ≠ []) (digits : ∀ c ∈ places, c.isDigit = true) (n : Int) :
    IsFraction (whole ++ '.' :: (places ++ 'e' :: Binary64.signed n)) := by
  refine .mk canonical (by decide) ?_ ?_
  · obtain ⟨taken, left⟩ := takeWhile_isDigit ('e' :: Binary64.signed n) digits (by simp)
    rw [isTail, taken, left, isExponent_signed]
    simp [some_]
  · have exponent : ('e' :: Binary64.signed n).all isWordChar = true := by
      rw [List.all_cons, isWordChar_signed]
      rfl
    rw [List.all_cons, List.all_append, exponent,
      List.all_eq_true.2 fun c mem => isWordChar_of_isDigit (digits c mem)]
    rfl

theorem isCanonical_singleton {first : Char} (digit : first.isDigit = true) :
    Decimal.isCanonical [first] = true := by
  by_cases zero : first = '0' <;> simp [Decimal.isCanonical, Decimal.isDigits, digit, zero]

theorem isFraction_scientific (digits : Nat) (power : Int) :
    IsFraction (Binary64.scientific digits power) := by
  unfold Binary64.scientific
  dsimp only
  generalize power + _ - 1 = exponent
  obtain ⟨first, places, here, each⟩ := exists_digits digits
  have canonical := isCanonical_singleton (each first List.mem_cons_self)
  rw [here]
  cases places with
  | nil => exact isFraction_exponent canonical exponent
  | cons second places =>
    exact isFraction_pointExponent canonical (by simp)
      (fun c mem => each c (List.mem_cons_of_mem _ mem)) exponent

theorem isCanonical_of_head {first : Char} (digits : ∀ c ∈ first :: rest, c.isDigit = true)
    (leads : first ≠ '0') : Decimal.isCanonical (first :: rest) = true := by
  rw [Decimal.isCanonical, Decimal.isDigits, List.all_eq_true.2 digits]
  simp [leads]

theorem isCanonical_before_point {n : Nat} (positive : 0 < n) (places : Nat) {ds : List Char}
    (padded : List.replicate (places + 1 - (Decimal.digits n).length) '0' ++ Decimal.digits n = ds) :
    Decimal.isCanonical (ds.take (ds.length - places)) = true ∧ places < ds.length := by
  obtain ⟨first, others, here, leads, digits⟩ := exists_digits_of_pos positive
  rw [here] at padded
  by_cases enough : places < (first :: others).length
  · rw [Nat.sub_eq_zero_of_le enough, List.replicate_zero, List.nil_append] at padded
    subst padded
    obtain ⟨k, before⟩ := Nat.exists_eq_add_of_lt enough
    refine ⟨?_, enough⟩
    rw [before, Nat.add_assoc, Nat.add_sub_cancel_left, List.take_succ_cons]
    exact isCanonical_of_head
      (fun c mem => digits c (List.cons_subset_cons _ (List.take_subset _ _) mem)) leads
  · obtain ⟨k, zeros⟩ := Nat.exists_eq_add_of_le (Nat.le_of_not_lt enough)
    have missing : places + 1 - (first :: others).length = k + 1 := by omega
    rw [missing] at padded
    have length : ds.length = places + 1 := by
      rw [← padded, List.length_append, List.length_replicate]
      omega
    refine ⟨?_, by omega⟩
    rw [length, Nat.add_sub_cancel_left, ← padded]
    rfl

theorem isFraction_positional {digits : Nat} (positive : 0 < digits) (power : Int) :
    IsFraction (Binary64.positional digits power) := by
  obtain ⟨first, others, here, leads, each⟩ := exists_digits_of_pos positive
  unfold Binary64.positional
  split
  next zeros =>
    have whole : Decimal.isCanonical (first :: (others ++ List.replicate zeros '0')) = true := by
      refine isCanonical_of_head (fun c mem => ?_) leads
      rw [← List.cons_append] at mem
      obtain digit | zero := List.mem_append.1 mem
      · exact each c digit
      · rw [List.eq_of_mem_replicate zero]
        rfl
    have tail : ∀ c ∈ ['0'], c.isDigit = true := by simp
    have fraction := isFraction_point whole (by simp) tail
    rw [here]
    simpa using fraction
  next less =>
    dsimp only
    generalize padded : List.replicate (less + 1 + 1 - (Decimal.digits digits).length) '0' ++
      Decimal.digits digits = ds
    obtain ⟨canonical, long⟩ := isCanonical_before_point positive (less + 1) padded
    rw [List.append_assoc, List.singleton_append]
    refine isFraction_point canonical ?_ fun c mem => ?_
    · rw [Ne, List.drop_eq_nil_iff]
      omega
    · have mem := padded ▸ List.mem_of_mem_drop mem
      obtain zero | digit := List.mem_append.1 mem
      · rw [List.eq_of_mem_replicate zero]
        rfl
      · exact Decimal.isDigit_of_mem_digits digit

end Json

namespace Binary64

theorem onGrid_pos {e power : Int} {m c : Nat} {quarters : Nat × Nat}
    (found : onGrid m e power quarters = some c) : 0 < c := by
  unfold onGrid at found
  dsimp only at found
  split at found
  next inside _ =>
    rw [Bool.and_eq_true, bne_iff_ne] at inside
    obtain rfl := Option.some.inj found
    split
    · exact Nat.pos_of_ne_zero inside.2
    · exact Nat.succ_pos _
  next inside _ =>
    rw [Bool.and_eq_true, bne_iff_ne] at inside
    obtain rfl := Option.some.inj found
    exact Nat.pos_of_ne_zero inside.2
  next =>
    obtain rfl := Option.some.inj found
    exact Nat.succ_pos _
  next => simp at found

theorem isFraction_laidOut {digits : Nat} (positive : 0 < digits) (power : Int) :
    Json.IsFraction (laidOut digits power) := by
  unfold laidOut
  dsimp only
  split
  · exact Json.isFraction_positional positive power
  · exact Json.isFraction_scientific digits power

theorem shortest_pos {m : Nat} (positive : 0 < m) (e : Int) : 0 < (shortest m e).1 := by
  have pos (coarsest : Int) : 0 < (((List.range 19).findSome? fun (i : Nat) =>
      (onGrid m e (coarsest - i) (interval m e)).map fun c => (c, coarsest - i)).getD (m, 0)).1 := by
    cases found : (List.range 19).findSome? fun (i : Nat) =>
        (onGrid m e (coarsest - i) (interval m e)).map fun c => (c, coarsest - i) with
    | none => exact positive
    | some x =>
      obtain ⟨i, -, here⟩ := List.exists_of_findSome?_eq_some found
      obtain ⟨c, grid, rfl⟩ := Option.map_eq_some_iff.1 here
      exact onGrid_pos grid
  unfold shortest
  exact pos _

theorem isFraction_compact (m : Nat) (e : Int) : Json.IsFraction (compact m e) := by
  rw [compact]
  split
  · have zero : ∀ c ∈ ['0'], c.isDigit = true := by simp
    exact Json.isFraction_point (by decide : Decimal.isCanonical ['0'] = true) (by simp) zero
  · rename_i some_
    exact isFraction_laidOut (shortest_pos (Nat.pos_of_ne_zero some_) e) _

end Binary64

end MessageTunnel
