import MessageTunnel.Pem.Section
import MessageTunnel.Proofs.Pem.Base64
set_option autoImplicit false

namespace MessageTunnel.Pem

def isBreak (b : UInt8) : Bool := b = 10 || b = 13

def EndsLine (text : Line) : Prop := ∀ b ∈ text.getLast?, isBreak b = true

instance (text : Line) : Decidable (EndsLine text) :=
  inferInstanceAs (Decidable (∀ b ∈ text.getLast?, _))

theorem EndsLine.of_cons {b : UInt8} {rest : Line} (ended : EndsLine (b :: rest)) :
    EndsLine rest := by
  cases rest with
  | nil => simp [EndsLine]
  | cons c more => simpa [EndsLine] using ended

theorem lines_break {b : UInt8} (ends : isBreak b = true) (rest : Line) :
    lines (b :: rest) = [] :: lines rest := by
  have either : b = 10 ∨ b = 13 := by simpa [isBreak] using ends
  rw [lines, if_pos either]

theorem lines_cons {b : UInt8} (plain : isBreak b = false) {rest line : Line} {more : List Line}
    (split : lines rest = line :: more) : lines (b :: rest) = (b :: line) :: more := by
  have neither : ¬ (b = 10 ∨ b = 13) := by simpa [isBreak] using plain
  rw [lines, if_neg neither, split]

theorem exists_lines {text : Line} (ended : EndsLine text) :
    ∃ whole : List Line, (text ≠ [] → whole ≠ []) ∧
      ∀ rest, lines (text ++ rest) = whole ++ lines rest := by
  induction text with
  | nil => exact ⟨[], by simp, fun rest => rfl⟩
  | cons b more ih =>
    obtain ⟨whole, nonempty, split⟩ := ih ended.of_cons
    cases ends : isBreak b with
    | true =>
      exact ⟨[] :: whole, by simp, fun rest => by
        rw [List.cons_append, lines_break ends, split, List.cons_append]⟩
    | false =>
      have goesOn : more ≠ [] := by
        rintro rfl
        simp [EndsLine, ends] at ended
      obtain ⟨line, others, rfl⟩ := List.exists_cons_of_ne_nil (nonempty goesOn)
      exact ⟨(b :: line) :: others, by simp, fun rest => lines_cons ends (split rest)⟩

def ofLines (ls : List Line) : Line := ls.flatMap fun line => line ++ [10]

theorem ofLines_cons (line : Line) (ls : List Line) :
    ofLines (line :: ls) = line ++ 10 :: ofLines ls := by
  simp [ofLines]

theorem endsLine_ofLines (ls : List Line) : EndsLine (ofLines ls) := by
  induction ls with
  | nil => simp [ofLines, EndsLine]
  | cons line ls ih =>
    intro b last
    rw [ofLines_cons, List.getLast?_append, List.getLast?_cons] at last
    cases rest : (ofLines ls).getLast? with
    | none =>
      obtain rfl : 10 = b := by simpa [rest] using last
      rfl
    | some c =>
      obtain rfl : c = b := by simpa [rest] using last
      exact ih c rest

theorem lines_line {line : Line} (unbroken : line.all (!isBreak ·) = true) (rest : Line) :
    lines (line ++ 10 :: rest) = line :: lines rest := by
  induction line with
  | nil => exact lines_break rfl rest
  | cons b line ih =>
    rw [List.all_cons, Bool.and_eq_true] at unbroken
    exact lines_cons (by simpa using unbroken.1) (ih unbroken.2)

theorem lines_ofLines {ls : List Line} (unbroken : ∀ line ∈ ls, line.all (!isBreak ·) = true) :
    lines (ofLines ls) = ls ++ [[]] := by
  induction ls with
  | nil => rfl
  | cons line ls ih =>
    rw [ofLines_cons, lines_line (unbroken line List.mem_cons_self),
      ih fun l mem => unbroken l (List.mem_cons_of_mem line mem), List.cons_append]

theorem lines_ne_nil (content : Line) : lines content ≠ [] := by
  cases content with
  | nil => simp [lines]
  | cons b rest =>
    rw [lines]
    split
    · simp
    · split <;> simp

/-- What a text begins with is in its first line, if there is no line break in it. -/
theorem prefix_line {mark content line : Line} {more : List Line}
    (unbroken : mark.all (!isBreak ·) = true) (begins : mark <+: content)
    (split : lines content = line :: more) : mark <+: line := by
  induction mark generalizing content line more with
  | nil => exact List.nil_prefix
  | cons m mark ih =>
    obtain ⟨rest, rfl⟩ := begins
    rw [List.all_cons, Bool.and_eq_true] at unbroken
    obtain ⟨line', more', further⟩ := List.exists_cons_of_ne_nil (lines_ne_nil (mark ++ rest))
    rw [List.cons_append, lines_cons (by simpa using unbroken.1) further] at split
    obtain ⟨rfl, -⟩ := List.cons.inj split
    have inner := ih unbroken.2 (List.prefix_append mark rest) further
    exact List.cons_prefix_cons.2 ⟨rfl, inner⟩

def Reader.start : Reader := ⟨[], none, []⟩

theorem sections_eq (content : Line) :
    sections content = (do
      let r ← (lines content).foldlM Reader.read .start
      match r.opened with
      | some label => throw (.missingEnd label)
      | none => return r.sections) := rfl

theorem Reader.read_nil (r : Reader) : r.read [] = .ok r := by
  obtain ⟨found, opened, text⟩ := r
  cases opened with
  | none => simp [read, beginMark, ascii]
  | some label => simp [read, beginMark, endMark, ascii]

theorem Reader.read_lastBreak (r : Reader) : [[]].foldlM read r = .ok r := by
  rw [List.foldlM_cons, read_nil]
  rfl

theorem Reader.read_append {text : Line} (ended : EndsLine text) (r : Reader) (rest : Line) :
    (lines (text ++ rest)).foldlM read r =
      ((lines text).foldlM read r >>= (lines rest).foldlM read) := by
  obtain ⟨whole, -, split⟩ := exists_lines ended
  have alone : lines text = whole ++ [[]] := by rw [← List.append_nil text, split]; rfl
  rw [split, alone, List.foldlM_append, List.foldlM_append]
  cases whole.foldlM read r with
  | error e => rfl
  | ok r' => exact congrArg (· >>= (lines rest).foldlM read) r'.read_lastBreak.symm

def Reader.behind (found : List Section) (r : Reader) : Reader :=
  { r with sections := found ++ r.sections }

theorem Reader.read_behind (found : List Section) (r : Reader) (line : Line) :
    (r.behind found).read line = behind found <$> r.read line := by
  obtain ⟨earlier, opened, text⟩ := r
  simp only [read, behind]
  split
  · split <;> rfl
  · cases opened with
    | none => rfl
    | some label =>
      dsimp only
      split
      · split
        · split
          · simp [Functor.map, Except.map, behind]
          · rfl
        · rfl
      · rfl

theorem Reader.foldlM_behind (found : List Section) (r : Reader) (ls : List Line) :
    ls.foldlM read (r.behind found) = behind found <$> ls.foldlM read r := by
  induction ls generalizing r with
  | nil => rfl
  | cons line ls ih =>
    rw [List.foldlM_cons, List.foldlM_cons, read_behind]
    cases r.read line with
    | error e => rfl
    | ok r' => exact ih r'

def Reader.IsTidy (r : Reader) : Prop := r.opened = none → r.text = []

theorem Reader.IsTidy.read {r r' : Reader} {line : Line} (tidy : r.IsTidy)
    (read : r.read line = .ok r') : r'.IsTidy := by
  unfold Reader.read at read
  split at read
  · split at read
    · obtain rfl := Except.ok.inj read
      simp [IsTidy]
    · contradiction
  · split at read
    · obtain rfl := Except.ok.inj read
      exact tidy
    · rename_i label opened
      split at read
      · split at read
        · split at read
          · obtain rfl := Except.ok.inj read
            exact fun _ => rfl
          · contradiction
        · obtain rfl := Except.ok.inj read
          exact fun _ => rfl
      · obtain rfl := Except.ok.inj read
        simp [IsTidy, opened]

theorem Reader.IsTidy.foldlM {r r' : Reader} {ls : List Line} (tidy : r.IsTidy)
    (read : ls.foldlM Reader.read r = .ok r') : r'.IsTidy := by
  induction ls generalizing r with
  | nil =>
    obtain rfl := Except.ok.inj read
    exact tidy
  | cons line ls ih =>
    rw [List.foldlM_cons] at read
    cases first : r.read line with
    | error e => simp [first, bind, Except.bind] at read
    | ok r₁ => exact ih (tidy.read first) (by simpa [first, bind, Except.bind] using read)

theorem sections_eq_ok_iff {text : Line} {found : List Section} :
    sections text = .ok found ↔ (lines text).foldlM Reader.read .start = .ok ⟨found, none, []⟩ := by
  rw [sections_eq]
  cases read : (lines text).foldlM Reader.read .start with
  | error e => simp [bind, Except.bind]
  | ok r =>
    have tidy : r.IsTidy := Reader.IsTidy.foldlM (fun _ => rfl) read
    obtain ⟨earlier, opened, kept⟩ := r
    cases opened with
    | some label => simp [bind, Except.bind, throw, throwThe, MonadExceptOf.throw]
    | none =>
      obtain rfl : kept = [] := tidy rfl
      simp [bind, Except.bind, pure, Except.pure]

/-- What follows whole lines without an open section is read for itself. -/
theorem sections_append {text : Line} {found : List Section} (ended : EndsLine text)
    (read : sections text = .ok found) (rest : Line) :
    sections (text ++ rest) = (found ++ ·) <$> sections rest := by
  have whole := sections_eq_ok_iff.1 read
  have start : (⟨found, none, []⟩ : Reader) = Reader.start.behind found := by
    simp [Reader.behind, Reader.start]
  have further : (lines (text ++ rest)).foldlM Reader.read .start =
      Reader.behind found <$> (lines rest).foldlM Reader.read .start := by
    rw [Reader.read_append ended, whole, start]
    exact Reader.foldlM_behind found .start (lines rest)
  rw [sections_eq, sections_eq, further]
  cases (lines rest).foldlM Reader.read .start with
  | error e => rfl
  | ok r =>
    obtain ⟨later, opened, kept⟩ := r
    cases opened <;> rfl

structure Outside (text : Line) : Prop where
  ended : EndsLine text
  plain : ∀ line ∈ lines text, ¬ beginMark <+: line

theorem Reader.read_outside {ls : List Line} (plain : ∀ line ∈ ls, ¬ beginMark <+: line) :
    ls.foldlM read .start = .ok .start := by
  induction ls with
  | nil => rfl
  | cons line ls ih =>
    have notBegin := plain line List.mem_cons_self
    rw [← List.isPrefixOf_iff_prefix] at notBegin
    have passed : Reader.start.read line = .ok .start := by simp [read, start, notBegin]
    rw [List.foldlM_cons, passed]
    exact ih fun l mem => plain l (List.mem_cons_of_mem line mem)

theorem Outside.sections {text : Line} (outside : Outside text) : sections text = .ok [] :=
  sections_eq_ok_iff.2 (Reader.read_outside outside.plain)

/-- Lines outside of sections can be left out, wherever they stand. -/
theorem sections_aside {before text : Line} {found : List Section} (whole : EndsLine before)
    (closed : Pem.sections before = .ok found) (outside : Outside text) (after : Line) :
    Pem.sections (before ++ text ++ after) = Pem.sections (before ++ after) := by
  rw [List.append_assoc, sections_append whole closed, sections_append whole closed,
    sections_append outside.ended outside.sections]
  cases Pem.sections after <;> rfl

structure IsExplanatory (text : Line) : Prop where
  ended : EndsLine text
  plain : ∀ line ∈ lines text, ¬ dashes <+: line

theorem IsExplanatory.outside {text : Line} (explanatory : IsExplanatory text) : Outside text := by
  refine ⟨explanatory.ended, fun line mem begins => explanatory.plain line mem ?_⟩
  have dashed : dashes <+: beginMark := List.isPrefixOf_iff_prefix.1 (by decide)
  exact dashed.trans begins

theorem IsExplanatory.not_begins {text mark : Line} (explanatory : IsExplanatory text)
    (nonempty : text ≠ []) (unbroken : mark.all (!isBreak ·) = true) (dashed : dashes <+: mark)
    (rest : Line) : ¬ mark <+: text ++ rest := by
  obtain ⟨whole, goesOn, split⟩ := exists_lines explanatory.ended
  obtain ⟨line, more, rfl⟩ := List.exists_cons_of_ne_nil (goesOn nonempty)
  have mem : line ∈ lines text := by
    rw [← List.append_nil text, split]
    exact List.mem_cons_self
  intro begins
  exact explanatory.plain line mem (dashed.trans (prefix_line unbroken begins (split rest)))

/-- What can stand as a label: no line break is in it, and the dashes behind it are told from it.
-/
structure IsLabel (label : Line) : Prop where
  unbroken : label.all (!isBreak ·) = true
  closed : ∀ b ∈ label.getLast?, b ≠ 45 ∧ b ≠ 32

def bounded (label : Line) (rows : List Line) : List Line :=
  (beginMark ++ label ++ dashes) :: rows ++ [endMark label]

theorem trailingDashes_stop {line : Line} (plain : ∀ b ∈ line.head?, b ≠ 45 ∧ b ≠ 32) (count : Nat)
    (after : Line) : trailingDashes line (count, after) = (count, after) := by
  cases line with
  | nil => rfl
  | cons b rest =>
    have different := plain b rfl
    rw [trailingDashes, if_neg different.1, if_neg different.2]

theorem label?_begin {label : Line} (isLabel : IsLabel label) :
    label? (beginMark ++ label ++ dashes) = some label := by
  have reversed : (beginMark ++ label ++ dashes).reverse =
      45 :: 45 :: 45 :: 45 :: 45 :: (beginMark ++ label).reverse := by
    rw [List.reverse_append]
    rfl
  have stop : trailingDashes (beginMark ++ label).reverse (5, (beginMark ++ label).reverse) =
      (5, (beginMark ++ label).reverse) := by
    cases label with
    | nil => rfl
    | cons b more =>
      refine trailingDashes_stop ?_ 5 _
      rw [List.head?_reverse, List.getLast?_append, List.getLast?_cons, Option.some_or]
      exact fun c last => isLabel.closed c (by rw [List.getLast?_cons]; exact last)
  have counted (rest : Line) : trailingDashes (45 :: 45 :: 45 :: 45 :: 45 :: rest)
      (0, 45 :: 45 :: 45 :: 45 :: 45 :: rest) = trailingDashes rest (5, rest) := by
    simp [trailingDashes]
  rw [label?, reversed, counted, stop]
  simp

theorem Reader.read_begin {label : Line} (isLabel : IsLabel label) (r : Reader) :
    r.read (beginMark ++ label ++ dashes) = .ok { r with opened := some label } := by
  have begins : beginMark.isPrefixOf (beginMark ++ label ++ dashes) = true := by
    rw [List.isPrefixOf_iff_prefix, List.append_assoc]
    exact List.prefix_append _ _
  rw [read, if_pos begins, label?_begin isLabel]

theorem not_isPrefixOf_of_dashless {mark row : Line} (dashed : mark.head? = some 45)
    (dashless : ∀ b ∈ row, b ≠ 45) : mark.isPrefixOf row = false := by
  cases mark with
  | nil => simp at dashed
  | cons m mark =>
    obtain rfl : m = 45 := by simpa using dashed
    cases row with
    | nil => rfl
    | cons b row => simp [List.isPrefixOf, (dashless b List.mem_cons_self).symm]

theorem Reader.read_rows {label : Line} {rows : List Line}
    (dashless : ∀ row ∈ rows, ∀ b ∈ row, b ≠ 45) (found : List Section) (text : Line) :
    rows.foldlM read ⟨found, some label, text⟩ = .ok ⟨found, some label, text ++ rows.flatten⟩ := by
  induction rows generalizing text with
  | nil => simp [pure, Except.pure]
  | cons row rows ih =>
    have plain := dashless row List.mem_cons_self
    have kept : read ⟨found, some label, text⟩ row = .ok ⟨found, some label, text ++ row⟩ := by
      have begins : beginMark.isPrefixOf row = false := not_isPrefixOf_of_dashless rfl plain
      have ends : (endMark label).isPrefixOf row = false := not_isPrefixOf_of_dashless rfl plain
      simp [read, begins, ends]
    have others := ih (fun r mem => dashless r (List.mem_cons_of_mem row mem)) (text ++ row)
    rw [List.foldlM_cons, kept, List.flatten_cons, ← List.append_assoc]
    exact others

theorem Reader.read_end {label text : Line} {content : List UInt8}
    (coded : Base64.decode text = .ok content) (found : List Section) :
    read ⟨found, some label, text⟩ (endMark label) =
      .ok ⟨found ++ if knownLabels.contains label then [⟨label, content⟩] else [], none, []⟩ := by
  have notBegin : beginMark.isPrefixOf (endMark label) = false := rfl
  have ends : (endMark label).isPrefixOf (endMark label) = true :=
    List.isPrefixOf_iff_prefix.2 List.prefix_rfl
  simp only [read, notBegin, ends, coded, Bool.false_eq_true, if_false, if_true]
  split <;> simp

theorem isMark_plain {b : UInt8} (mark : Base64.IsMark b) : b ≠ 45 ∧ isBreak b = false := by
  have digits : ∀ d : Fin 64, Base64.ofDigit d ≠ 45 ∧ isBreak (Base64.ofDigit d) = false := by
    decide
  cases mark with
  | digit small => exact digits ⟨_, small⟩
  | pad => decide

/-- A section gives its content, if its label is known, however its text is cut into rows. -/
theorem sections_bounded {label : Line} {rows : List Line} {content : List UInt8}
    (isLabel : IsLabel label) (coded : rows.flatten = Base64.encode content) :
    sections (ofLines (bounded label rows)) =
      .ok (if knownLabels.contains label then [⟨label, content⟩] else []) := by
  have marks : ∀ row ∈ rows, ∀ b ∈ row, b ≠ 45 ∧ isBreak b = false := by
    intro row mem b here
    have inText : b ∈ rows.flatten := List.mem_flatten.2 ⟨row, mem, here⟩
    exact isMark_plain (Base64.isMark_of_mem_encode (coded ▸ inText))
  have unbroken : ∀ line ∈ bounded label rows, line.all (!isBreak ·) = true := by
    have border (front back : Line) (plain : (front ++ back).all (!isBreak ·) = true) :
        (front ++ label ++ back).all (!isBreak ·) = true := by
      rw [List.all_append, Bool.and_eq_true] at plain
      rw [List.all_append, List.all_append, plain.1, plain.2, isLabel.unbroken]
      rfl
    intro line mem
    obtain rfl | inner := List.mem_cons.1 mem
    · exact border beginMark dashes (by decide)
    obtain row | last := List.mem_append.1 inner
    · exact List.all_eq_true.2 fun b here => by simp [(marks line row b here).2]
    · obtain rfl := List.mem_singleton.1 last
      exact border (ascii "-----END ") dashes (by decide)
  have decoded : Base64.decode rows.flatten = .ok content := by
    rw [coded, Base64.decode_encode]
  have dashless (row : Line) (mem : row ∈ rows) (b : UInt8) (here : b ∈ row) :=
    (marks row mem b here).1
  rw [sections_eq_ok_iff, lines_ofLines unbroken, bounded, List.append_assoc, List.cons_append,
    List.foldlM_cons, Reader.read_begin isLabel]
  show (rows ++ [endMark label, []]).foldlM Reader.read ⟨[], some label, []⟩ = _
  rw [List.foldlM_append, Reader.read_rows dashless]
  show [endMark label, []].foldlM Reader.read ⟨[], some label, rows.flatten⟩ = _
  rw [List.foldlM_cons, Reader.read_end decoded]
  exact Reader.read_lastBreak ⟨_, none, []⟩

def cut (width : Nat) (text : Line) : List Line :=
  (List.range ((text.length + width - 1) / width)).map fun i => (text.drop (i * width)).take width

theorem flatten_rows (width : Nat) (text : Line) (n : Nat) :
    ((List.range n).map fun i => (text.drop (i * width)).take width).flatten =
      text.take (n * width) := by
  induction n with
  | zero => simp
  | succ n ih =>
    rw [List.range_succ, List.map_append, List.flatten_append, ih, Nat.succ_mul, List.take_add]
    simp

theorem flatten_cut {width : Nat} (positive : 0 < width) (text : Line) :
    (cut width text).flatten = text := by
  have enough : text.length ≤ (text.length + width - 1) / width * width := by
    have above := Nat.lt_div_mul_add (a := text.length + width - 1) positive
    omega
  rw [cut, flatten_rows, List.take_of_length_le enough]

end MessageTunnel.Pem
