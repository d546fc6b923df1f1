import Mathlib.Data.List.Forall2
import Mathlib.Data.List.TakeWhile
import MessageTunnel.Settings.Load
set_option autoImplicit false

namespace MessageTunnel

variable {before word after text : List Char}

namespace Blank

theorem trimLeft_surround (blank : ∀ x ∈ before, isBlank x = true)
    (start : ∀ x ∈ word.head?, isBlank x = false) : trimLeft (before ++ word) = word := by
  rw [trimLeft, List.dropWhile_append_of_pos blank]
  cases word with
  | nil => rfl
  | cons x rest => exact List.dropWhile_cons_of_neg (by simp [start x rfl])

theorem trim_surround (blank : ∀ x ∈ before, isBlank x = true)
    (blank' : ∀ x ∈ after, isBlank x = true) (solid : ∀ x ∈ word, isBlank x = false)
    (some : word ≠ []) : trim (before ++ word ++ after) = word := by
  have left : trimLeft (before ++ (word ++ after)) = word ++ after := by
    refine trimLeft_surround blank fun x head => solid x ?_
    rw [List.head?_append_of_ne_nil _ some] at head
    exact List.mem_of_mem_head? head
  have right : trimLeft (after.reverse ++ word.reverse) = word.reverse := by
    refine trimLeft_surround (by simpa using blank') fun x head => solid x ?_
    exact List.mem_reverse.1 (List.mem_of_mem_head? head)
  rw [trim, List.append_assoc, left, trimRight, List.reverse_append, right, List.reverse_reverse]

theorem exists_trimLeft (text : List Char) :
    ∃ before, text = before ++ trimLeft text ∧ ∀ x ∈ before, isBlank x = true :=
  ⟨text.takeWhile isBlank, List.takeWhile_append_dropWhile.symm,
    fun _ mem => List.mem_takeWhile_imp mem⟩

theorem exists_trim (text : List Char) : ∃ before after, text = before ++ trim text ++ after ∧
    (∀ x ∈ before, isBlank x = true) ∧ ∀ x ∈ after, isBlank x = true := by
  obtain ⟨before, whole, blank⟩ := exists_trimLeft text
  obtain ⟨after, rest, blank'⟩ := exists_trimLeft (trimLeft text).reverse
  refine ⟨before, after.reverse, ?_, blank, by simpa using blank'⟩
  have kept : trimLeft text = trim text ++ after.reverse := by
    rw [trim, trimRight, ← List.reverse_append, ← rest, List.reverse_reverse]
  rw [List.append_assoc, ← kept, ← whole]

end Blank

namespace CongestionControl

def InEitherCase (letter written : Char) : Prop := written = letter ∨ written = letter.toUpper

def IsNamedBy (c : CongestionControl) (text : String) : Prop :=
  ∃ before word after, text.toList = before ++ word ++ after ∧
    (∀ x ∈ before, Blank.isBlank x = true) ∧ (∀ x ∈ after, Blank.isBlank x = true) ∧
      List.Forall₂ InEitherCase c.name.toList word

def letters : List Char := "newrocubi".toList

theorem mem_letters {c : CongestionControl} {letter : Char} (mem : letter ∈ c.name.toList) :
    letter ∈ letters := by
  have all : ∀ c : CongestionControl, c.name.toList ⊆ letters := by
    intro c
    cases c <;> decide +kernel
  exact all c mem

theorem InEitherCase.plain {letter written : Char} (mem : letter ∈ letters)
    (same : InEitherCase letter written) :
    lower written = letter ∧ Blank.isBlank written = false ∧ written.toNat < 128 := by
  have small : letters.all fun x => lower x = x ∧ Blank.isBlank x = false ∧ x.toNat < 128 := by
    decide +kernel
  have capital : letters.all fun x => lower x.toUpper = x ∧ Blank.isBlank x.toUpper = false ∧
      x.toUpper.toNat < 128 := by decide +kernel
  obtain rfl | rfl := same
  · exact of_decide_eq_true (List.all_eq_true.1 small _ mem)
  · exact of_decide_eq_true (List.all_eq_true.1 capital _ mem)

theorem inEitherCase_lower (x : Char) : InEitherCase (lower x) x := by
  unfold lower
  split
  next capital =>
    have back : ∀ n : Fin 26, Char.ofNat (65 + n.val) =
        (Char.ofNat ((Char.ofNat (65 + n.val)).toNat + 32)).toUpper := by decide +kernel
    have low : 65 ≤ x.toNat := capital.1
    have high : x.toNat ≤ 90 := capital.2
    have here := back ⟨x.toNat - 65, by omega⟩
    rw [show 65 + (x.toNat - 65) = x.toNat by omega, Char.ofNat_toNat] at here
    exact .inr here
  next => exact .inl rfl

theorem map_lower_eq_iff {c : CongestionControl} :
    word.map lower = c.name.toList ↔ List.Forall₂ InEitherCase c.name.toList word := by
  constructor
  · intro same
    rw [← same, List.forall₂_map_left_iff, List.forall₂_same]
    exact fun x _ => inEitherCase_lower x
  · intro same
    have inside : ∀ x ∈ c.name.toList, x ∈ letters := fun _ => mem_letters
    generalize c.name.toList = name at same inside
    induction same with
    | nil => rfl
    | @cons letter written _ _ same _ ih =>
      rw [List.map_cons, (same.plain (inside _ List.mem_cons_self)).1,
        ih fun x mem => inside x (List.mem_cons_of_mem _ mem)]

theorem find?_name (c : CongestionControl) :
    all.find? (fun other => other.name.toList == c.name.toList) = some c := by
  cases c <;> decide +kernel

theorem plain_of_mem {c : CongestionControl} {x : Char}
    (same : List.Forall₂ InEitherCase c.name.toList word) (mem : x ∈ word) :
    Blank.isBlank x = false ∧ x.toNat < 128 := by
  obtain ⟨i, less, rfl⟩ := List.getElem_of_mem mem
  have less' : i < c.name.toList.length := same.length_eq ▸ less
  have here : InEitherCase c.name.toList[i] word[i] := same.get less' less
  exact (here.plain (mem_letters (List.getElem_mem less'))).2

theorem ne_nil_of_named {c : CongestionControl}
    (same : List.Forall₂ InEitherCase c.name.toList word) : word ≠ [] := by
  have some : c.name.toList ≠ [] := by cases c <;> decide +kernel
  rintro rfl
  exact some (List.forall₂_nil_right_iff.1 same)

theorem ofText?_eq_some_iff {c : CongestionControl} {text : String} :
    ofText? text = some c ↔ c.IsNamedBy text := by
  constructor
  · intro found
    have folded : c.name.toList = (Blank.trim text.toList).map lower := by
      simpa using List.find?_some found
    obtain ⟨before, after, whole, blank, blank'⟩ := Blank.exists_trim text.toList
    exact ⟨before, _, after, whole, blank, blank', map_lower_eq_iff.1 folded.symm⟩
  · rintro ⟨before, word, after, whole, blank, blank', same⟩
    have solid : ∀ x ∈ word, Blank.isBlank x = false := fun x mem => (plain_of_mem same mem).1
    rw [ofText?, whole, Blank.trim_surround blank blank' solid (ne_nil_of_named same),
      map_lower_eq_iff.2 same]
    exact find?_name c

theorem isNamedBy_name (c : CongestionControl) : c.IsNamedBy c.name :=
  ⟨[], c.name.toList, [], by simp, by simp, by simp,
    List.forall₂_same.2 fun _ _ => .inl rfl⟩

variable {c c' : CongestionControl} {text : String}

theorem IsNamedBy.unique (named : c.IsNamedBy text) (named' : c'.IsNamedBy text) : c = c' :=
  Option.some.inj ((ofText?_eq_some_iff.2 named).symm.trans (ofText?_eq_some_iff.2 named'))

theorem IsNamedBy.plain {x : Char} (named : c.IsNamedBy text) (mem : x ∈ text.toList)
    (solid : Blank.isBlank x = false) : x.toNat < 128 := by
  obtain ⟨before, word, after, whole, blank, blank', same⟩ := named
  rw [whole] at mem
  obtain (mem | mem) | mem := (List.mem_append.1 mem).imp_left List.mem_append.1
  · simp [blank x mem] at solid
  · exact (plain_of_mem same mem).2
  · simp [blank' x mem] at solid

theorem IsNamedBy.exists_solid (named : c.IsNamedBy text) :
    ∃ x ∈ text.toList, Blank.isBlank x = false := by
  obtain ⟨before, word, after, whole, -, -, same⟩ := named
  obtain ⟨x, mem⟩ := List.exists_mem_of_ne_nil word (ne_nil_of_named same)
  exact ⟨x, by simp [whole, mem], (plain_of_mem same mem).1⟩

theorem sublist_of_head? {part front back : List Char} (inside : part.Sublist (front ++ back))
    (head : ∀ x ∈ part.head?, x ∉ front) : part.Sublist back := by
  obtain ⟨first, rest, rfl, inFront, inBack⟩ := List.sublist_append_iff.1 inside
  cases first with
  | nil => exact inBack
  | cons x first => exact absurd (inFront.subset List.mem_cons_self) (head x rfl)

theorem sublist_of_getLast? {part front back : List Char} (inside : part.Sublist (front ++ back))
    (last : ∀ x ∈ part.getLast?, x ∉ back) : part.Sublist front := by
  have turned : part.reverse.Sublist (back.reverse ++ front.reverse) := by
    rw [← List.reverse_append]
    exact inside.reverse
  exact List.reverse_sublist.1 (sublist_of_head? turned (by simpa using last))

/-- Blank inside a text stands between two characters that are none. -/
def HasGap (text : List Char) : Prop :=
  ∃ x gap y, [x, gap, y].Sublist text ∧ Blank.isBlank x = false ∧ Blank.isBlank gap = true ∧
    Blank.isBlank y = false

theorem IsNamedBy.not_hasGap (named : c.IsNamedBy text) : ¬ HasGap text.toList := by
  rintro ⟨x, gap, y, inside, solid, isGap, solid'⟩
  obtain ⟨before, word, after, whole, blank, blank', same⟩ := named
  -- The two around the gap are in the word, and so is what stands between them.
  have early : [x, gap, y].Sublist (before ++ word) := by
    refine sublist_of_getLast? (whole ▸ inside) fun z last mem => ?_
    obtain rfl : y = z := by simpa using last
    simp [blank' y mem] at solid'
  have inWord : [x, gap, y].Sublist word := by
    refine sublist_of_head? early fun z head mem => ?_
    obtain rfl : x = z := by simpa using head
    simp [blank x mem] at solid
  have here : gap ∈ word := inWord.subset (by simp)
  simp [(plain_of_mem same here).1] at isGap

end CongestionControl

namespace Settings

open CongestionControl

/-- What is read from this text: the algorithm that it names, or an error that gives it back. -/
structure ReadsNames (text : String) : Prop where
  named : ∀ c, congestionNamed text = .ok c ↔ c.IsNamedBy text
  refused : (∀ c : CongestionControl, ¬ c.IsNamedBy text) ↔
    congestionNamed text = .error (.unknownCongestionControl text)
  unique : ∀ {c c' : CongestionControl}, c.IsNamedBy text → c'.IsNamedBy text → c = c'
  shown : ∀ c, congestionNamed text = .ok c → congestionNamed c.name = .ok c
  blank : (∀ x ∈ text.toList, Blank.isBlank x = true) →
    congestionNamed text = .error (.unknownCongestionControl text)
  gap : HasGap text.toList → congestionNamed text = .error (.unknownCongestionControl text)
  /-- No character outside of ASCII passes for a letter. -/
  foreign : ∀ x ∈ text.toList, 128 ≤ x.toNat → Blank.isBlank x = false →
    congestionNamed text = .error (.unknownCongestionControl text)

theorem congestionNamed_eq_ok_iff {c : CongestionControl} {text : String} :
    congestionNamed text = .ok c ↔ c.IsNamedBy text := by
  rw [← ofText?_eq_some_iff, congestionNamed]
  cases ofText? text <;> simp

theorem congestionNamed_eq_error_iff {text : String} :
    congestionNamed text = .error (.unknownCongestionControl text) ↔
      ∀ c : CongestionControl, ¬ c.IsNamedBy text := by
  simp only [← ofText?_eq_some_iff, congestionNamed]
  cases ofText? text <;> simp

theorem reads_names (text : String) : ReadsNames text where
  named := fun _ => congestionNamed_eq_ok_iff
  refused := congestionNamed_eq_error_iff.symm
  unique := IsNamedBy.unique
  shown := fun c _ => congestionNamed_eq_ok_iff.2 (isNamedBy_name c)
  blank := by
    refine fun blank => congestionNamed_eq_error_iff.2 fun c named => ?_
    obtain ⟨x, mem, solid⟩ := named.exists_solid
    simp [blank x mem] at solid
  gap := fun gap => congestionNamed_eq_error_iff.2 fun _ named => named.not_hasGap gap
  foreign := fun x mem far solid => congestionNamed_eq_error_iff.2 fun _ named =>
    absurd (named.plain mem solid) (Nat.not_lt.2 far)

/-- A line separator and a no-break space go, but an i without its dot is no i. -/
example : congestionNamed "\u2028 nEwRENO\u00a0" = .ok .newReno ∧
    congestionNamed "cub\u0131c" = .error (.unknownCongestionControl "cub\u0131c") := by
  decide +kernel

end Settings

end MessageTunnel
