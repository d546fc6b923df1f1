import MessageTunnel.Proofs.Attempts
import MessageTunnel.Proofs.Session.Closing
import MessageTunnel.Proofs.Session.Delivery
set_option autoImplicit false

namespace MessageTunnel.Session

variable {sh : Shutdown} {l l' : Link} {c c' : Core} {s : Session} {t : Task}
  {effects : List Effect}

def Reader.work (waiting : Nat) : Reader → Nat
  | .reading => 3 * waiting + 8
  | .record _ => 3 * waiting + 10
  | .deliver _ => 3 * waiting + 9
  | .ending stage => stage.left

def Acceptor.work (waiting : List InboundStream) : Acceptor → Nat
  | .accepting => Schedule.total (waiting.map fun stream => Schedule.streamWork stream + 1) + 9
  | .joining _ => 8
  | .ending stage => stage.left

def Stage.work : Stage → Nat
  | .asked => 5
  | .sending stage => stage.left + 1
  | .hangUp => 1
  | .replied _ => 0

def Core.work (c : Core) : Nat :=
  c.reader.work c.link.datagrams.length + c.acceptor.work c.link.streams +
    Schedule.total (c.drains.map Drain.work) +
      Schedule.total (c.callers.map fun k => k.stage.work)

@[simp] theorem total_cons (count : Nat) (counts : List Nat) :
    Schedule.total (count :: counts) = count + Schedule.total counts := rfl

theorem total_concat (counts : List Nat) (count : Nat) :
    Schedule.total (counts ++ [count]) = Schedule.total counts + count := by
  induction counts with
  | nil => simp [Schedule.total]
  | cons first rest ih => simp [ih, Nat.add_assoc]

theorem total_set_lt {α : Type} {f : α → Nat} {items : List α} {i : Nat} {x y : α}
    (hx : items[i]? = some x) (less : f y < f x) :
    Schedule.total ((items.set i y).map f) < Schedule.total (items.map f) := by
  induction items generalizing i with
  | nil => simp at hx
  | cons z rest ih =>
    cases i with
    | zero =>
      obtain rfl : z = x := by simpa using hx
      simpa using less
    | succ i =>
      have later := ih (i := i) (by simpa using hx)
      simpa using later

theorem SendMove.work_lt {payload : Payload} {channel : Channel} {stage stage' : Stage}
    (move : SendMove payload channel sh l stage l' stage' effects) : stage'.work < stage.work := by
  cases move with
  | admitted => cases channel <;> simp [Stage.work, Dispatch.Stage.first, Dispatch.Stage.left]
  | @call _ stage next goesOn moves step =>
    have called := (Dispatch.called payload stage l).goes_on
    rw [step] at called
    dsimp only at called
    obtain ⟨-, -, less | ⟨e, rfl, same⟩⟩ := called
    · have going : stage.left ≠ 0 := fun none => by
        obtain ⟨result, ended⟩ := Dispatch.eq_ended_of_left none
        exact goesOn result ended
      simp only [Stage.work]
      omega
    · exact absurd same (moves e rfl e)
  | _ => simp [Stage.work]

theorem CallerMove.work_lt {id : ConnectionId} {o : Options} {sh' : Shutdown} {k : Caller}
    {stage : Stage} (move : CallerMove id o sh l k sh' l' stage effects) :
    stage.work < k.stage.work := by
  cases move with
  | send out move => exact move.work_lt
  | _ => simp [Stage.work]

theorem Move.work_lt (h : Move c t c' effects) : c'.work < c.work := by
  cases h with
  | take reading opened queue =>
    simp only [Core.work, reading, queue, Reader.work, List.length_cons]
    omega
  | takeError reading opened queue =>
    simp only [Core.work, reading, queue, Reader.work, List.length_cons, Ending.left]
    omega
  | readClosed reading =>
    simp only [Core.work, reading, Reader.work, Ending.left]
    omega
  | recordDatagram reader | deliverDatagram reader => simp [Core.work, reader, Reader.work]
  | endReader reader move =>
    have less := move.left_lt
    simp only [Core.work, reader, Reader.work, move.inbound]
    omega
  | accept accepting works opened queue =>
    simp only [Core.work, accepting, queue, Acceptor.work, List.map_cons, total_cons,
      List.map_append, List.map_nil, total_concat, Drain.work]
    omega
  | acceptError accepting =>
    simp only [Core.work, accepting, Acceptor.work]
    omega
  | join joining => simp [Core.work, joining, Acceptor.work, Ending.left]
  | endAcceptor acceptor move =>
    have less := move.left_lt
    simp only [Core.work, acceptor, Acceptor.work, move.inbound]
    omega
  | drain drain move =>
    have less := total_set_lt drain move.work_lt
    simp only [Core.work]
    omega
  | @call _ k _ _ stage _ caller move =>
    have less := total_set_lt (f := fun k : Caller => k.stage.work) (y := { k with stage := stage })
      caller move.work_lt
    simp only [Core.work, move.inbound]
    omega

theorem act_work_lt (able : s.canStep t = true) : (s.act (.step t)).core.work < s.core.work := by
  obtain ⟨s', step⟩ := Option.isSome_iff_exists.1 able
  obtain ⟨effects, move, -⟩ := exists_move step
  rw [act, step]
  exact move.work_lt

/-- The session after these turns, with nothing from outside between them. -/
def alone (s : Session) (turns : List Task) : Session := s.run (turns.map .step)

theorem alone_append (s : Session) (turns more : List Task) :
    s.alone (turns ++ more) = (s.alone turns).alone more := by
  simp [alone, run_append]

def taken (s : Session) (turns : List Task) : List Task :=
  along (fun s a => match a with
    | .step t => if s.canStep t then [t] else []
    | _ => []) s (turns.map .step)

/-- In whatever order its tasks take turns, only so many of these turns come to something. -/
theorem work_alone (s : Session) (turns : List Task) :
    (s.alone turns).core.work + (s.taken turns).length ≤ s.core.work := by
  induction turns generalizing s with
  | nil => simp [alone, taken, run, along]
  | cons t rest ih =>
    have later := ih (s.act (.step t))
    have alone_cons : s.alone (t :: rest) = (s.act (.step t)).alone rest := rfl
    have taken_cons : s.taken (t :: rest) =
        (if s.canStep t then [t] else []) ++ (s.act (.step t)).taken rest := rfl
    rw [alone_cons, taken_cons, List.length_append]
    cases able : s.canStep t with
    | true =>
      have less := act_work_lt able
      rw [if_pos rfl, List.length_singleton]
      omega
    | false => simpa [act_of_stuck able] using ih s

theorem exists_rest (s : Session) : ∃ turns, (s.alone turns).isQuiet = true := by
  -- The induction is on the work that is left.
  induction h : s.core.work using Nat.strongRecOn generalizing s with
  | ind work ih =>
    by_cases quiet : s.isQuiet = true
    · exact ⟨[], quiet⟩
    · obtain ⟨t, -, able⟩ := List.all_eq_false.1 (Bool.eq_false_iff.2 quiet)
      obtain ⟨turns, quiet⟩ := ih _ (h ▸ act_work_lt (by simpa using able)) _ rfl
      exact ⟨t :: turns, quiet⟩

end MessageTunnel.Session
