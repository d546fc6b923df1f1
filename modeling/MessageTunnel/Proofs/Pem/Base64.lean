import MessageTunnel.Pem.Base64
/-!
Bytes that are written in base 64 are read back as they were. The reader keeps up to eight digits
before it decodes them, so between two groups of four it can stand at three places: without a digit,
behind one whole group, or behind two.
-/
set_option autoImplicit false

namespace MessageTunnel.Base64

theorem digit?_ofDigit {d : Nat} (small : d < 64) : digit? (ofDigit d) = some d := by
  have table : ∀ d : Fin 64, digit? (ofDigit d) = some d.val := by decide
  exact table ⟨d, small⟩

theorem read_digit {d : Nat} (small : d < 64) (r : Reader) :
    r.read (ofDigit d) = r.add (some d) := by
  have noBlank : ∀ d : Fin 64, isBlank (ofDigit d) = false := by decide
  have noPad : ∀ d : Fin 64, ofDigit d ≠ pad := by decide
  simp [Reader.read, noBlank ⟨d, small⟩, noPad ⟨d, small⟩, digit?_ofDigit small]

theorem read_pad (r : Reader) : r.read pad = r.add none := by
  have noBlank : isBlank pad = false := by decide
  simp [Reader.read, noBlank]

inductive IsMark : UInt8 → Prop where
  | digit {d : Nat} (small : d < 64) : IsMark (ofDigit d)
  | pad : IsMark pad

theorem isMark_of_mem_encode {bytes : List UInt8} {b : UInt8} (mem : b ∈ encode bytes) :
    IsMark b := by
  fun_induction encode bytes with
  | case1 x y z rest n ih =>
    have := x.toNat_lt
    have := y.toNat_lt
    have := z.toNat_lt
    simp only [List.mem_cons] at mem
    obtain rfl | rfl | rfl | rfl | mem := mem
    · exact .digit (by omega)
    · exact .digit (by omega)
    · exact .digit (by omega)
    · exact .digit (by omega)
    · exact ih mem
  | case2 x y n =>
    have := x.toNat_lt
    have := y.toNat_lt
    simp only [List.mem_cons, List.not_mem_nil, or_false] at mem
    obtain rfl | rfl | rfl | rfl := mem
    · exact .digit (by omega)
    · exact .digit (by omega)
    · exact .digit (by omega)
    · exact .pad
  | case3 x n =>
    have := x.toNat_lt
    simp only [List.mem_cons, List.not_mem_nil, or_false] at mem
    obtain rfl | rfl | rfl | rfl := mem
    · exact .digit (by omega)
    · exact .digit (by omega)
    · exact .pad
    · exact .pad
  | case4 => simp at mem

def group (n : Nat) : Block :=
  [some (n / 262144), some (n / 4096 % 64), some (n / 64 % 64), some (n % 64)]

theorem quad_eq {block : Block} {n : Nat}
    (value : block.foldl (fun n d => n * 64 + d.getD 0) 0 = n) :
    quad block = [.ofNat (n / 65536), .ofNat (n / 256 % 256), .ofNat (n % 256)] := by
  subst value
  rfl

theorem foldl_group (n : Nat) : (group n).foldl (fun n d => n * 64 + d.getD 0) 0 = n := by
  simp only [group, List.foldl_cons, List.foldl_nil, Option.getD_some]
  omega

theorem quad_group {x y z : UInt8} :
    quad (group (x.toNat * 65536 + y.toNat * 256 + z.toNat)) = [x, y, z] := by
  have hx := x.toNat_lt
  have hy := y.toNat_lt
  have hz := z.toNat_lt
  have first : (x.toNat * 65536 + y.toNat * 256 + z.toNat) / 65536 = x.toNat := by omega
  have second : (x.toNat * 65536 + y.toNat * 256 + z.toNat) / 256 % 256 = y.toNat := by omega
  have third : (x.toNat * 65536 + y.toNat * 256 + z.toNat) % 256 = z.toNat := by omega
  rw [quad_eq (foldl_group _), first, second, third]
  simp only [UInt8.ofNat_toNat]

/-- All digits that were read make up whole groups, which stand for some bytes. -/
inductive Reader.Holds : Reader → List UInt8 → Prop where
  | none (bytes : List UInt8) : Holds ⟨bytes, []⟩ bytes
  | one (bytes : List UInt8) (n : Nat) : Holds ⟨bytes, group n⟩ (bytes ++ quad (group n))
  | two (bytes : List UInt8) (n m : Nat) :
    Holds ⟨bytes, group n ++ group m⟩ (bytes ++ quad (group n) ++ quad (group m))

/-- Four more digits, padding among them or not, stand behind one whole group at most. -/
inductive Reader.Behind (last : Block) : Reader → List UInt8 → Prop where
  | none (bytes : List UInt8) : Behind last ⟨bytes, last⟩ bytes
  | one (bytes : List UInt8) (n : Nat) :
    Behind last ⟨bytes, group n ++ last⟩ (bytes ++ quad (group n))

variable {r : Reader} {bytes : List UInt8}

theorem Reader.Holds.add (h : r.Holds bytes) (w x y z : Option Nat) :
    ∃ r' : Reader, [w, x, y, z].foldlM Reader.add r = .ok r' ∧ r'.Behind [w, x, y, z] bytes := by
  cases h with
  | none => exact ⟨_, rfl, .none bytes⟩
  | one before n => exact ⟨_, rfl, .one before n⟩
  | two before n m => exact ⟨_, rfl, .none _⟩

theorem Reader.Behind.holds {n : Nat} (h : r.Behind (group n) bytes) :
    r.Holds (bytes ++ quad (group n)) := by
  cases h with
  | none => exact .one bytes n
  | one before m => exact .two before m n

theorem Reader.Behind.finish {last : Block} (h : r.Behind last bytes) (four : last.length = 4) :
    r.finish = (bytes ++ ·) <$> lastBytes last := by
  cases h with
  | none =>
    simp only [Reader.finish, four, Nat.le_refl, if_true]
    cases lastBytes last <;> rfl
  | one before n =>
    have long : ¬ (group n ++ last).length ≤ 4 := by simp [group, four]
    have whole : (group n ++ last).take 4 = group n := rfl
    have rest : (group n ++ last).drop 4 = last := rfl
    have full : hasPadding (group n) = false := rfl
    simp only [Reader.finish, if_neg long, whole, rest, full, Bool.false_eq_true, if_false]
    cases lastBytes last <;> rfl

theorem Reader.Holds.finish (h : r.Holds bytes) : r.finish = .ok bytes := by
  cases h with
  | none => exact congrArg Except.ok (List.append_nil bytes)
  | one before n => exact (Behind.none before).finish rfl
  | two before n m => exact (Behind.one before n).finish rfl

def marks (block : Block) : List UInt8 := block.map fun d => d.elim pad ofDigit

theorem encode_cons (x y z : UInt8) (rest : List UInt8) : encode (x :: y :: z :: rest) =
    marks (group (x.toNat * 65536 + y.toNat * 256 + z.toNat)) ++ encode rest := by
  simp only [encode, marks, group, List.map_cons, List.map_nil, Option.elim, List.cons_append,
    List.nil_append]

theorem read_marks {block : Block} (small : ∀ n, some n ∈ block → n < 64) (r : Reader) :
    (marks block).foldlM Reader.read r = block.foldlM Reader.add r := by
  induction block generalizing r with
  | nil => rfl
  | cons d rest ih =>
    have first : r.read (d.elim pad ofDigit) = r.add d := by
      cases d with
      | none => exact read_pad r
      | some n => exact read_digit (small n List.mem_cons_self) r
    have others := ih fun n mem => small n (List.mem_cons_of_mem d mem)
    rw [marks, List.map_cons, List.foldlM_cons, List.foldlM_cons, first]
    exact congrArg (r.add d >>= ·) (funext others)

theorem Reader.Holds.read_group (h : r.Holds bytes) {n : Nat} (small : n < 16777216)
    (rest : List UInt8) : ∃ r' : Reader, r'.Holds (bytes ++ quad (group n)) ∧
      (marks (group n) ++ rest).foldlM Reader.read r = rest.foldlM Reader.read r' := by
  obtain ⟨r', added, behind⟩ :=
    h.add (some (n / 262144)) (some (n / 4096 % 64)) (some (n / 64 % 64)) (some (n % 64))
  refine ⟨r', behind.holds, ?_⟩
  rw [List.foldlM_append, read_marks (by simp [group]; omega), group, added]
  rfl

theorem Reader.Holds.read_last (h : r.Holds bytes) {w x y z : Option Nat}
    (small : ∀ n, some n ∈ [w, x, y, z] → n < 64) :
    ((marks [w, x, y, z]).foldlM Reader.read r >>= Reader.finish) =
      (bytes ++ ·) <$> lastBytes [w, x, y, z] := by
  obtain ⟨r', added, behind⟩ := h.add w x y z
  rw [read_marks small, added]
  exact behind.finish rfl

/-- Two bytes are sixteen bits, so two bits of their third digit are left over. -/
theorem lastBytes_two (x y : UInt8) :
    let n := x.toNat * 1024 + y.toNat * 4
    lastBytes [some (n / 4096), some (n / 64 % 64), some (n % 64), none] = .ok [x, y] := by
  intro n
  have value : [some (n / 4096), some (n / 64 % 64), some (n % 64), none].foldl
      (fun n d => n * 64 + d.getD 0) 0 = x.toNat * 65536 + y.toNat * 256 := by
    simp only [List.foldl_cons, List.foldl_nil, Option.getD_some, Option.getD_none]
    omega
  have hy := y.toNat_lt
  have first : (x.toNat * 65536 + y.toNat * 256) / 65536 = x.toNat := by omega
  have second : (x.toNat * 65536 + y.toNat * 256) / 256 % 256 = y.toNat := by omega
  simp only [lastBytes, quad_eq value, first, second, List.take, UInt8.ofNat_toNat]

theorem lastBytes_one (x : UInt8) :
    let n := x.toNat * 16
    lastBytes [some (n / 64), some (n % 64), none, none] = .ok [x] := by
  intro n
  have value : [some (n / 64), some (n % 64), none, none].foldl
      (fun n d => n * 64 + d.getD 0) 0 = x.toNat * 65536 := by
    simp only [List.foldl_cons, List.foldl_nil, Option.getD_some, Option.getD_none]
    omega
  have first : x.toNat * 65536 / 65536 = x.toNat := by omega
  simp only [lastBytes, quad_eq value, first, List.take, UInt8.ofNat_toNat]

-- Along the encoder, from any place between two groups, because the reader decodes a group only
-- when a third one comes.
theorem read_encode (coded : List UInt8) {r : Reader} {bytes : List UInt8} (h : r.Holds bytes) :
    ((encode coded).foldlM Reader.read r >>= Reader.finish) = .ok (bytes ++ coded) := by
  induction coded using encode.induct generalizing r bytes with
  | case1 x y z rest ih =>
    have hx := x.toNat_lt
    have hy := y.toNat_lt
    have hz := z.toNat_lt
    have small : x.toNat * 65536 + y.toNat * 256 + z.toNat < 16777216 := by omega
    obtain ⟨r', holds, read⟩ := h.read_group small (encode rest)
    rw [quad_group] at holds
    have others := ih holds
    rw [List.append_assoc] at others
    rw [encode_cons, read]
    exact others
  | case2 x y =>
    have hx := x.toNat_lt
    have small : ∀ n, some n ∈ [some ((x.toNat * 1024 + y.toNat * 4) / 4096),
        some ((x.toNat * 1024 + y.toNat * 4) / 64 % 64),
        some ((x.toNat * 1024 + y.toNat * 4) % 64), none] → n < 64 := by
      have hy := y.toNat_lt
      simp
      omega
    exact (h.read_last small).trans (by rw [lastBytes_two]; rfl)
  | case3 x =>
    have hx := x.toNat_lt
    have small : ∀ n, some n ∈ [some (x.toNat * 16 / 64), some (x.toNat * 16 % 64), none, none] →
        n < 64 := by
      simp
      omega
    exact (h.read_last small).trans (by rw [lastBytes_one]; rfl)
  | case4 => rw [List.append_nil]; exact h.finish

theorem decode_encode (bytes : List UInt8) : decode (encode bytes) = .ok bytes :=
  read_encode bytes (.none [])

end MessageTunnel.Base64
