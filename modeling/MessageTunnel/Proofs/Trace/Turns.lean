import MessageTunnel.Proofs.Storage.Changes
set_option autoImplicit false

namespace MessageTunnel.Trace

variable {o o' o'' : Output} {fs fs' fs'' : FileSystem} {result : Except IoError Unit}

def Output.AtEnd (o : Output) (fs : FileSystem) : Prop :=
  o.handle.position = (fs.contentAt o.handle.location).length

structure Output.Moves (o : Output) (fs : FileSystem) (o' : Output) (fs' : FileSystem) : Prop where
  place : o'.handle.location = o.handle.location
  only : FileSystem.OnlyAt o.handle.location fs fs'
  grows : o.AtEnd fs →
    o'.AtEnd fs' ∧ fs.contentAt o.handle.location <+: fs'.contentAt o.handle.location

namespace Output

theorem AtEnd.of_contentAt_eq (h : o.AtEnd fs)
    (same : fs'.contentAt o.handle.location = fs.contentAt o.handle.location) : o.AtEnd fs' :=
  h.trans (congrArg List.length same.symm)

theorem Moves.refl (o : Output) (fs : FileSystem) : o.Moves fs o fs :=
  ⟨rfl, .refl _ fs, fun atEnd => ⟨atEnd, List.prefix_rfl⟩⟩

theorem Moves.trans (first : o.Moves fs o' fs') (then_ : o'.Moves fs' o'' fs'') :
    o.Moves fs o'' fs'' where
  place := then_.place.trans first.place
  only := first.only.trans (first.place ▸ then_.only)
  grows := by
    intro atEnd
    obtain ⟨between, more⟩ := first.grows atEnd
    obtain ⟨last, further⟩ := then_.grows between
    rw [first.place] at further
    exact ⟨last, more.trans further⟩

theorem moves_write (o : Output) (fs : FileSystem) (bytes left : Bytes) :
    o.Moves fs ⟨(fs.write o.handle bytes).2.1, left⟩ (fs.write o.handle bytes).2.2 where
  place := (FileSystem.write_onlyAt fs o.handle bytes).1
  only := (FileSystem.write_onlyAt fs o.handle bytes).2
  grows := by
    intro atEnd
    obtain ⟨taken, -, handle, content, -⟩ := FileSystem.write_adds bytes atEnd
    refine ⟨?_, content ▸ List.prefix_append ..⟩
    simp [AtEnd, handle, content, show o.handle.position = _ from atEnd]

theorem moves_flush (flushed : o.flush fs = (result, o', fs')) : o.Moves fs o' fs' := by
  unfold flush at flushed
  obtain ⟨-, rfl, rfl⟩ := by simpa using flushed
  exact moves_write o fs o.buffer _

theorem moves_push {piece : Bytes} (pushed : o.push fs piece = (result, o', fs')) :
    o.Moves fs o' fs' := by
  have room : ∃ flushed o₁ fs₁, (if bufferSize < o.buffer.length + piece.length then o.flush fs
      else (.ok (), o, fs)) = (flushed, o₁, fs₁) ∧ o.Moves fs o₁ fs₁ := by
    split
    · exact ⟨_, _, _, rfl, moves_flush rfl⟩
    · exact ⟨_, _, _, rfl, .refl o fs⟩
  obtain ⟨flushed, o₁, fs₁, first, before⟩ := room
  unfold push at pushed
  rw [first] at pushed
  cases flushed with
  | error e =>
    obtain ⟨-, rfl, rfl⟩ := by simpa using pushed
    exact before
  | ok =>
    refine before.trans ?_
    dsimp only at pushed
    split at pushed
    · obtain ⟨-, rfl, rfl⟩ := by simpa using pushed
      exact ⟨rfl, .refl _ fs₁, fun atEnd => ⟨atEnd, List.prefix_rfl⟩⟩
    · obtain ⟨-, rfl, rfl⟩ := by simpa using pushed
      exact moves_write o₁ fs₁ piece o₁.buffer

theorem moves_pushAll {pieces : List Bytes} (pushed : o.pushAll fs pieces = (result, o', fs')) :
    o.Moves fs o' fs' := by
  induction pieces generalizing o fs with
  | nil =>
    obtain ⟨-, rfl, rfl⟩ := by simpa [pushAll] using pushed
    exact .refl o fs
  | cons piece rest ih =>
    unfold pushAll at pushed
    cases first : o.push fs piece with
    | mk result₁ after =>
      obtain ⟨o₁, fs₁⟩ := after
      have before := moves_push first
      rw [first] at pushed
      cases result₁ with
      | ok => exact before.trans (ih pushed)
      | error e =>
        obtain ⟨-, rfl, rfl⟩ := by simpa using pushed
        exact before

theorem Moves.drop (before : o.Moves fs o' fs') : ∃ o'', o.Moves fs o'' (o'.drop fs') :=
  ⟨_, before.trans (moves_flush rfl)⟩

end Output

inductive Writer.Turns (w : Writer) (fs : FileSystem) : Writer → FileSystem → Prop where
  | idle (output : w.output = none) : Turns w fs w fs
  | writes {o o' : Output} {fs' : FileSystem} (output : w.output = some o)
      (moves : o.Moves fs o' fs') : Turns w fs { w with output := some o' } fs'
  | ends {o o' : Output} {fs' : FileSystem} (output : w.output = some o)
      (moves : o.Moves fs o' fs') : Turns w fs { w with output := none } fs'

namespace Writer

variable {w w' : Writer}

theorem Turns.fileName_eq (h : w.Turns fs w' fs') : w'.fileName = w.fileName := by
  cases h <;> rfl

theorem Turns.path_eq (h : w.Turns fs w' fs') : w'.path = w.path := by
  cases h <;> rfl

theorem Turns.moves (h : w.Turns fs w' fs') (output : w'.output = some o') :
    ∃ o, w.output = some o ∧ o.Moves fs o' fs' := by
  cases h with
  | idle => exact ⟨o', output, .refl o' fs⟩
  | writes before moves =>
    obtain rfl := Option.some.inj output
    exact ⟨_, before, moves⟩
  | ends => simp at output

theorem Turns.writes_own (h : w.Turns fs w' fs') :
    fs' = fs ∨ ∃ o o', w.output = some o ∧ o.Moves fs o' fs' := by
  cases h with
  | idle => exact .inl rfl
  | writes output moves | ends output moves => exact .inr ⟨_, _, output, moves⟩

theorem append_turns (w : Writer) (fs : FileSystem) (entry : Json) :
    w.Turns fs (w.append fs entry).2.1 (w.append fs entry).2.2 := by
  unfold append
  cases output : w.output with
  | none => exact .idle output
  | some o =>
    dsimp only
    cases pushed : o.pushAll fs (pieces entry) with
    | mk result after =>
      obtain ⟨o', fs'⟩ := after
      have moves := Output.moves_pushAll pushed
      cases result with
      | ok => exact .writes output moves
      | error e =>
        obtain ⟨o'', dropped⟩ := moves.drop
        exact .ends output dropped

theorem close_turns (w : Writer) (fs : FileSystem) :
    w.Turns fs (w.close fs).2.1 (w.close fs).2.2 ∧ (w.close fs).2.1.output = none := by
  unfold close
  cases output : w.output with
  | none => exact ⟨.idle output, output⟩
  | some o =>
    dsimp only
    cases flushed : o.flush fs with
    | mk result after =>
      obtain ⟨o', fs'⟩ := after
      have moves := Output.moves_flush flushed
      cases result with
      | ok => exact ⟨.ends output moves, rfl⟩
      | error e =>
        obtain ⟨o'', dropped⟩ := moves.drop
        exact ⟨.ends output dropped, rfl⟩

end Writer

end MessageTunnel.Trace
