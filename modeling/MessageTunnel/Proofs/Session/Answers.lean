import MessageTunnel.Proofs.Session.Determined
set_option autoImplicit false

namespace MessageTunnel.Session

variable {c c' : Core} {k : Caller} {t : Task} {a : Action} {number : Nat} {effects : List Effect}

def Core.isAnswered (c : Core) : Bool := c.callers.all fun k => k.reply?.isSome

theorem reply?_eq_none (h : ∀ r, k.stage ≠ .replied r) : k.reply? = none := by
  unfold Caller.reply?
  split
  · exact absurd ‹_› (h _)
  · rfl

theorem Core.answer (answered : c.isAnswered = true) (caller : c.callers[number]? = some k) :
    k.reply? ≠ none :=
  Option.isSome_iff_ne_none.1 (List.all_eq_true.1 answered k (List.mem_of_getElem? caller))

theorem Acts.waiting (h : Acts c a c' effects) (caller : c'.callers[number]? = some k)
    (waits : k.reply? = none) : (∃ k', c.callers[number]? = some k' ∧ k'.reply? = none) ∨
      ∃ r, a = .request r ∧ number = c.callers.length := by
  cases old : c.callers[number]? with
  | none =>
    obtain ⟨r, rfl, -⟩ := h.newcomer old caller
    refine .inr ⟨r, rfl, ?_⟩
    cases h
    have less := (List.getElem?_eq_some_iff.1 caller).1
    have beyond := List.getElem?_eq_none_iff.1 old
    simp only [List.length_append, List.length_singleton] at less
    omega
  | some before =>
    refine .inl ⟨before, rfl, ?_⟩
    obtain ⟨-, same⟩ | ⟨-, sh, l, stage, rfl, move⟩ | ⟨-, rfl, -⟩ := h.caller old
    · obtain rfl := Option.some.inj (same.symm.trans caller)
      exact waits
    · exact reply?_eq_none fun r => move.not_answered
    · obtain rfl := Option.some.inj (old.symm.trans caller)
      exact waits

theorem Move.not_answered (move : Move c t c' effects) (answered : c.isAnswered = true) :
    t ≠ .caller number := by
  rintro rfl
  cases move with
  | call caller move =>
    exact Core.answer answered caller (reply?_eq_none fun r => move.not_answered)

end MessageTunnel.Session
