import MessageTunnel.Proofs.Session.Run
set_option autoImplicit false

namespace MessageTunnel.Session

variable {s s' s₁ : Session}

structure Sheet where
  id : ConnectionId
  writer : Option Nat
  registry : Trace.Registry
  history : List Effect

def sheet (s : Session) : Sheet := ⟨s.id, s.writer, s.registry, s.history⟩

def Effect.isTraceFailure : Effect → Bool
  | .logged (.traceWriteFailed ..) | .logged (.traceFlushFailed ..) => true
  | _ => false

def Effect.isPlain : Effect → Bool
  | .announced _ | .traced _ | .released => false
  | e => !e.isTraceFailure

def giveUp (s : Session) : Session :=
  let (notices, registry) := s.registry.release s.id
  let s := { s with registry := registry }
  s.emit (notices.map .ofNotice ++ [.released])

inductive Enters (s : Session) : Session → Prop where
  | plain {s' : Session} (fresh : List Effect) (same : s'.sheet = (s.emit fresh).sheet)
      (plain : fresh.all Effect.isPlain = true) : Enters s s'
  | traced {s' : Session} (event : TraceEvent) (same : s'.sheet = (s.trace event).sheet) :
      Enters s s'
  | released {s' : Session} (same : s'.sheet = s.giveUp.sheet) : Enters s s'

theorem Enters.nothing (same : s'.sheet = s.sheet) : Enters s s' :=
  .plain [] (by simpa [emit] using same) rfl

theorem Enters.of_sheet_eq (h : Enters s s₁) (same : s'.sheet = s₁.sheet) : Enters s s' := by
  cases h with
  | plain _ same' plain => exact .plain _ (same.trans same') plain
  | traced _ same' => exact .traced _ (same.trans same')
  | released same' => exact .released (same.trans same')

theorem enters_endStep? {loop : Log.InboundLoop} {stage stage' : Ending}
    (h : s.endStep? loop stage = some (s', stage')) : Enters s s' := by
  cases stage with
  | classify e =>
    simp only [endStep?] at h
    split at h <;> obtain ⟨rfl, -⟩ := by simpa using h
    · exact .plain [.logged (.cooperativeClose s.id loop), .logged (.loopExited s.id loop)]
        (by simp [sheet, log, emit]) rfl
    all_goals exact .plain [.logged _] rfl rfl
  | hangUp | leave =>
    obtain ⟨rfl, -⟩ := by simpa [endStep?] using h
    exact .nothing rfl
  | record reason =>
    obtain ⟨rfl, -⟩ := by simpa [endStep?] using h
    exact .traced _ rfl
  | release reason =>
    obtain ⟨rfl, -⟩ := by simpa [endStep?] using h
    exact .released rfl
  | notify reason | publish reason =>
    obtain ⟨rfl, -⟩ := by simpa [endStep?] using h
    exact .plain _ rfl rfl
  | ended => simp [endStep?] at h

theorem enters_readerStep? (h : s.readerStep? = some s') : Enters s s' := by
  unfold readerStep? at h
  cases reader : s.reader with
  | reading =>
    simp only [reader] at h
    split at h
    · simp at h
    · obtain rfl := Option.some.inj h
      exact .plain [.logged _] rfl rfl
    · obtain rfl := Option.some.inj h
      exact .nothing rfl
  | record payload =>
    simp only [reader] at h
    obtain rfl := Option.some.inj h
    exact .traced (.datagramReceived payload.length) rfl
  | deliver payload =>
    simp only [reader] at h
    obtain rfl := Option.some.inj h
    exact .plain [.message payload] rfl rfl
  | ending stage =>
    simp only [reader, Option.map_eq_some_iff] at h
    obtain ⟨⟨s₁, stage'⟩, he, rfl⟩ := h
    exact (enters_endStep? he).of_sheet_eq rfl

theorem enters_acceptorStep? (h : s.acceptorStep? = some s') : Enters s s' := by
  unfold acceptorStep? at h
  cases acceptor : s.acceptor with
  | accepting =>
    simp only [acceptor] at h
    split at h
    · simp at h
    all_goals
      obtain rfl := Option.some.inj h
      exact .nothing rfl
  | joining e =>
    simp only [acceptor] at h
    split at h
    · obtain rfl := Option.some.inj h
      exact .nothing rfl
    · simp at h
  | ending stage =>
    simp only [acceptor, Option.map_eq_some_iff] at h
    obtain ⟨⟨s₁, stage'⟩, he, rfl⟩ := h
    exact (enters_endStep? he).of_sheet_eq rfl

theorem enters_drainStep? {d d' : Drain} (h : s.drainStep? d = some (s', d')) : Enters s s' := by
  cases d with
  | reading stream message =>
    simp only [drainStep?] at h
    split at h
    · simp at h
    · obtain ⟨rfl, -⟩ := by simpa using h
      exact .nothing rfl
    all_goals
      obtain ⟨rfl, -⟩ := by simpa using h
      exact .plain [.logged _] rfl rfl
  | record outcome =>
    cases outcome <;>
    · obtain ⟨rfl, -⟩ := by simpa [drainStep?] using h
      exact .traced _ rfl
  | deliver message =>
    obtain ⟨rfl, -⟩ := by simpa [drainStep?] using h
    exact .plain [.message message] rfl rfl
  | ended outcome => simp [drainStep?] at h

theorem isPlain_sentEntry (channel : Channel) (length : Nat) :
    (Effect.logged (sentEntry channel length)).isPlain = true := by
  cases channel <;> rfl

theorem enters_sendStep? {payload : Payload} {channel : Channel} {stage stage' : Stage}
    (h : s.sendStep? payload channel stage = some (s', stage')) : Enters s s' := by
  unfold sendStep? at h
  split at h
  · split at h <;> obtain ⟨rfl, -⟩ := by simpa using h
    all_goals exact .nothing rfl
  · obtain ⟨rfl, -⟩ := by simpa using h
    exact .traced _ rfl
  · obtain ⟨rfl, -⟩ := by simpa using h
    exact .nothing rfl
  · dsimp only at h
    split at h
    · simp at h
    · obtain ⟨rfl, -⟩ := by simpa using h
      exact .plain [.logged _] rfl (by simp [isPlain_sentEntry])
    · obtain ⟨rfl, -⟩ := by simpa using h
      exact .nothing rfl
  · simp at h

theorem enters_callerStep? {k : Caller} {stage : Stage} (h : s.callerStep? k = some (s', stage)) :
    Enters s s' := by
  unfold callerStep? at h
  split at h
  · exact enters_sendStep? h
  · exact enters_sendStep? h
  · unfold stopStep? at h
    split at h
    · dsimp only at h
      split at h <;> obtain ⟨rfl, -⟩ := by simpa using h
      · exact .plain [.logged _] rfl rfl
      · exact .nothing rfl
    · obtain ⟨rfl, -⟩ := by simpa using h
      exact .nothing rfl
    · simp at h
  · unfold awaitStep? at h
    split at h
    · obtain ⟨reason, -, rfl, -⟩ := by simpa using h
      exact .nothing rfl
    · simp at h

theorem enters (s : Session) (a : Action) : Enters s (s.act a) := by
  cases a with
  | step t =>
    cases h : s.step? t with
    | none => exact .nothing (by simp [act, h])
    | some s' =>
      have hs : s.act (.step t) = s' := by simp [act, h]
      rw [hs]
      cases t with
      | reader => exact enters_readerStep? h
      | acceptor => exact enters_acceptorStep? h
      | drain number =>
        simp only [step?, bind, Option.bind_eq_some_iff, pure, Option.some.injEq] at h
        obtain ⟨d, -, ⟨s₁, d'⟩, hd, rfl⟩ := h
        exact (enters_drainStep? hd).of_sheet_eq rfl
      | caller number =>
        simp only [step?, bind, Option.bind_eq_some_iff, pure, Option.some.injEq] at h
        obtain ⟨k, -, ⟨s₁, stage⟩, hk, rfl⟩ := h
        exact (enters_callerStep? hk).of_sheet_eq rfl
  | _ => exact .nothing rfl

theorem notices_record (r : Trace.Registry) (number now : Nat) (event : TraceEvent) :
    ∃ entries : List Log.Entry, (r.record number now event).1 = entries.map .logged := by
  unfold Trace.Registry.record
  cases r.writer? number with
  | none => exact ⟨[], rfl⟩
  | some w => exact ⟨_, rfl⟩

theorem notices_release (r : Trace.Registry) (id : ConnectionId) :
    ∃ entries : List Log.Entry, (r.release id).1 = entries.map .logged := by
  unfold Trace.Registry.release
  cases r.live.lookup id with
  | none => exact ⟨[], rfl⟩
  | some number =>
    simp only [Trace.Registry.close]
    split
    · exact ⟨[], rfl⟩
    · exact ⟨_, rfl⟩

theorem trace_history (s : Session) (event : TraceEvent) :
    ∃ entries : List Log.Entry,
      (s.trace event).history = s.history ++ .traced event :: entries.map .logged := by
  cases hw : s.writer with
  | none => exact ⟨[], by simp [trace, emit, hw]⟩
  | some number =>
    obtain ⟨entries, he⟩ := notices_record s.registry number s.clock event
    exact ⟨entries, by simp [trace, emit, hw, he, Effect.ofNotice, Function.comp_def]⟩

theorem giveUp_history (s : Session) :
    ∃ entries : List Log.Entry, s.giveUp.history = s.history ++ entries.map .logged ++ [.released] := by
  obtain ⟨entries, he⟩ := notices_release s.registry s.id
  exact ⟨entries, by simp [giveUp, emit, he, Effect.ofNotice, Function.comp_def]⟩

/-- The name of the trace is announced, if at all, before the first action. -/
theorem announced_notMem_news (s : Session) (a : Action) (name : String) :
    .announced name ∉ s.news a := by
  intro mem
  have news {fresh : List Effect} (h : (s.act a).history = s.history ++ fresh) : s.news a = fresh := by
    simp [Session.news, h]
  cases enters s a with
  | plain fresh same plain =>
    rw [news (congrArg Sheet.history same)] at mem
    simpa [Effect.isPlain] using List.all_eq_true.1 plain _ mem
  | traced event same =>
    obtain ⟨entries, he⟩ := trace_history s event
    rw [news ((congrArg Sheet.history same).trans he)] at mem
    simp at mem
  | released same =>
    obtain ⟨entries, he⟩ := giveUp_history s
    rw [news ((congrArg Sheet.history same).trans (he.trans (List.append_assoc ..)))] at mem
    simp at mem

end MessageTunnel.Session
