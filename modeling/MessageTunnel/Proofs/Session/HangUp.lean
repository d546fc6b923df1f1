import MessageTunnel.Proofs.Calls
import MessageTunnel.Proofs.Dispatch
import MessageTunnel.Proofs.Session.Closing
/-!
How a session closes its connection. A stop that begins the closing owes the connection a notice,
and so does a loop that begins it with a fault; a loop that finds the connection closed in agreement
owes nothing. A notice that was sent is no longer owed, so what was sent and what is owed make up, at
every moment, what the first to begin the closing brought about.
-/
set_option autoImplicit false

namespace MessageTunnel

def Call.notice? : Call → Option CloseNotice
  | .close notice => some notice
  | _ => none

theorem Dispatch.Called.sends {payload : Payload} {l l' : Link}
    {stage stage' : Dispatch.Stage}
    (h : Dispatch.Called payload l stage stage' l') :
    ∃ made, l'.calls = l.calls ++ made ∧ made.filterMap Call.notice? = [] := by
  cases h with
  | fails | hold | wait | ended => exact ⟨[], by simp, rfl⟩
  | _ => exact ⟨[_], rfl, rfl⟩

namespace Session

variable {id : ConnectionId} {loop : Log.InboundLoop} {sh sh' : Shutdown} {l l' : Link}
  {stage stage' : Ending} {k : Caller} {c c' : Core} {t : Task} {a : Action} {effects : List Effect}
  {begun : List (Task × CloseReason)} {notices : List CloseNotice} {reason : CloseReason}

def callsSince (first : Session) (actions : List Action) : List Call :=
  (first.run actions).link.calls.drop first.link.calls.length

def noticesSince (first : Session) (actions : List Action) : List CloseNotice :=
  (callsSince first actions).filterMap Call.notice?

def Core.beganBy (c : Core) : Action → List (Task × CloseReason)
  | .step t => (c.took (.step t)).map (t, ·)
  | _ => []

def begunBy (s : Session) (actions : List Action) : List (Task × CloseReason) :=
  along (fun s a => s.core.beganBy a) s actions

def lossNotice? : CloseReason → Option CloseNotice
  | .cooperative _ => none
  | .fault _ => some .fault

def due? : Task × CloseReason → Option CloseNotice
  | (.caller _, _) => some .cooperative
  | (_, reason) => lossNotice? reason

def owedBy : Option Ending → List CloseNotice
  | some .hangUp => [.fault]
  | _ => []

def Caller.owes? (k : Caller) : Option CloseNotice :=
  match k.stage with
  | .hangUp => some .cooperative
  | _ => none

def Core.owed (c : Core) : List CloseNotice :=
  owedBy c.reader.ending? ++ owedBy c.acceptor.ending? ++ c.callers.filterMap Caller.owes?

def Caller.hasStopped (k : Caller) : Bool := k.reply? = some .stopped

/-- Who began the closing against the notices that were sent and those that are owed. -/
structure Balance (c : Core) (begun : List (Task × CloseReason)) (notices : List CloseNotice) :
    Prop where
  due : (notices ++ c.owed).Perm (begun.filterMap due?)
  stopped : notices.count .cooperative = c.callers.countP Caller.hasStopped

theorem ofTransport_quiet {e : TransportError} (quiet : e.disposition = .cooperative) :
    ∃ initiator, CloseReason.ofTransport e = .cooperative initiator := by
  unfold CloseReason.ofTransport
  rw [quiet]
  cases e with
  | locallyClosed => exact ⟨.here, rfl⟩
  | _ => exact ⟨.peer, rfl⟩

theorem ofTransport_fault {e : TransportError} (fault : e.disposition = .fault) :
    CloseReason.ofTransport e = .fault e.message := by
  simp [CloseReason.ofTransport, fault]

theorem EndMove.sends (move : EndMove id loop sh l stage sh' l' stage' effects) :
    ∃ made, l'.calls = l.calls ++ made ∧
      made.filterMap Call.notice? ++ owedBy (some stage') = owedBy (some stage) ++
        (if sh.state = .running then stage.call?.toList else []).filterMap lossNotice? ∧
      (made.filterMap Call.notice?).count .cooperative = 0 := by
  cases move with
  | beginQuiet running quiet =>
    obtain ⟨initiator, he⟩ := ofTransport_quiet quiet
    refine ⟨[], by simp, ?_, rfl⟩
    simp [running, Ending.call?, ← ofTransport_eq, he, lossNotice?, owedBy]
  | beginFault running fault =>
    refine ⟨[], by simp, ?_, rfl⟩
    simp [running, Ending.call?, ← ofTransport_eq, ofTransport_fault fault, lossNotice?, owedBy]
  | late closing => exact ⟨[], by simp, by simp [closing, owedBy], rfl⟩
  | hangUp => exact ⟨[.close .fault], rfl, by simp [Call.notice?, owedBy, Ending.call?], rfl⟩
  | _ => exact ⟨[], by simp, by simp [owedBy, Ending.call?], rfl⟩

theorem SendMove.sends {payload : Payload} {channel : Channel} {stage stage' : Stage}
    (move : SendMove payload channel sh l stage l' stage' effects) :
    ∃ made, l'.calls = l.calls ++ made ∧ made.filterMap Call.notice? = [] := by
  cases move with
  | @call _ stage _ _ _ step =>
    have called := Dispatch.called payload stage l
    rw [step] at called
    exact called.sends
  | _ => exact ⟨[], by simp, rfl⟩

theorem beganBy_of_call? (h : c.call? (.step t) = none) : c.beganBy (.step t) = [] := by
  simp [Core.beganBy, took_eq, h]

theorem due_beganBy (loop : t = .reader ∨ t = .acceptor) : (c.beganBy (.step t)).filterMap due? =
    (if c.shutdown.state = .running then (c.call? (.step t)).toList else []).filterMap
      lossNotice? := by
  have hd (reason : CloseReason) : due? (t, reason) = lossNotice? reason := by
    obtain rfl | rfl := loop <;> rfl
  rw [Core.beganBy, took_eq, List.filterMap_map]
  exact List.filterMap_congr fun reason _ => hd reason

theorem filterMap_set_perm_of_none {α β : Type} (f : α → Option β) {l : List α} {i : Nat} {a b : α}
    (h : l[i]? = some a) (none : f b = none) :
    (l.filterMap f).Perm ((l.set i b).filterMap f ++ (f a).toList) := by
  obtain ⟨less, rfl⟩ := List.getElem?_eq_some_iff.1 h
  have back := filterMap_set_perm f l[i] (l := l.set i b) (i := i) (by simp [less]) none
  rwa [List.set_set, List.set_getElem_self] at back

theorem countP_set_of_eq {α : Type} (p : α → Bool) {l : List α} {i : Nat} {a b : α}
    (h : l[i]? = some a) (same : p b = p a) : (l.set i b).countP p = l.countP p := by
  obtain ⟨less, rfl⟩ := List.getElem?_eq_some_iff.1 h
  rw [List.countP_set less, same]
  have pos : p l[i] = true → 0 < l.countP p := fun hp =>
    List.countP_pos_iff.2 ⟨l[i], List.getElem_mem less, hp⟩
  split
  · rename_i hp
    have := pos hp
    omega
  · omega

theorem Balance.turn (h : Balance c begun notices) {number : Nat}
    (hk : c.callers[number]? = some k) (stage : Stage)
    (owes : Caller.owes? { k with stage := stage } = k.owes?)
    (stopped : Caller.hasStopped { k with stage := stage } = k.hasStopped) (sh : Shutdown)
    (l : Link) :
    Balance
      { c with
        shutdown := sh, link := l, callers := c.callers.set number { k with stage := stage } }
      begun notices where
  due := by
    simp only [Core.owed, filterMap_set_eq _ hk owes]
    exact h.due
  stopped := by
    rw [countP_set_of_eq _ hk stopped]
    exact h.stopped

theorem SendMove.owes? {payload : Payload} {channel : Channel} {stage : Stage}
    (move : SendMove payload channel sh l k.stage l' stage effects) :
    Caller.owes? { k with stage := stage } = k.owes? ∧
      Caller.hasStopped { k with stage := stage } = k.hasStopped := by
  obtain ⟨request, before⟩ := k
  cases move <;> simp [Caller.owes?, Caller.hasStopped, Caller.reply?]

theorem Balance.enter (h : Balance c begun notices) {made : List CloseNotice}
    {more : List (Task × CloseReason)}
    (entry : ∀ notice, made.count notice + c'.owed.count notice =
      c.owed.count notice + (more.filterMap due?).count notice)
    (stopped : c'.callers.countP Caller.hasStopped =
      made.count .cooperative + c.callers.countP Caller.hasStopped) :
    Balance c' (begun ++ more) (notices ++ made) where
  due := by
    rw [List.perm_iff_count]
    intro notice
    have before := h.due.count_eq notice
    have both := entry notice
    simp only [List.filterMap_append, List.count_append] at before ⊢
    omega
  stopped := by
    rw [List.count_append, h.stopped, stopped, Nat.add_comm]

theorem Balance.request (h : Balance c begun notices) (r : Request) :
    Balance { c with callers := c.callers ++ [⟨r, .asked⟩] } begun notices where
  due := by
    have none : [Caller.mk r .asked].filterMap Caller.owes? = [] := rfl
    simpa [Core.owed, none] using h.due
  stopped := by simpa [Caller.hasStopped, Caller.reply?] using h.stopped

theorem Balance.call (h : Balance c begun notices) {number : Nat} {stage : Stage}
    (caller : c.callers[number]? = some k)
    (move : CallerMove c.id c.options c.shutdown c.link k sh l stage effects) :
    ∃ made, l.calls = c.link.calls ++ made ∧
      Balance
        { c with
          shutdown := sh, link := l, callers := c.callers.set number { k with stage := stage } }
        (begun ++ c.beganBy (.step (.caller number))) (notices ++ made.filterMap Call.notice?) := by
  have quiet (other : k ≠ ⟨.stop, .asked⟩) : c.beganBy (.step (.caller number)) = [] :=
    beganBy_of_call? (call?_caller caller other)
  cases move with
  | send out move =>
    obtain ⟨made, calls, silent⟩ := move.sends
    obtain ⟨owes, stopped⟩ := move.owes?
    refine ⟨made, calls, ?_⟩
    rw [quiet (by rintro rfl; simp [Request.outgoing?] at out), silent]
    simpa using h.turn caller stage owes stopped _ _
  | stopFirst running =>
    have began : (c.beganBy (.step (.caller number))).filterMap due? = [.cooperative] := by
      simp [Core.beganBy, took_eq, running, Core.call?, caller, due?]
    have owed := filterMap_set_perm Caller.owes? ⟨.stop, .hangUp⟩ caller rfl
    refine ⟨[], by simp, h.enter (fun notice => ?_) ?_⟩
    · have more := owed.count_eq notice
      simp only [Core.owed, began, List.count_append] at more ⊢
      simp only [Caller.owes?, Option.toList_some] at more
      simp
      omega
    · have same := countP_set_of_eq Caller.hasStopped (b := ⟨.stop, .hangUp⟩) caller rfl
      simpa using same
  | stopLate closing =>
    have began : c.beganBy (.step (.caller number)) = [] := by
      simp [Core.beganBy, took_eq, closing]
    have turned := h.turn caller (.replied (.failed .closed)) rfl rfl c.shutdown c.link
    exact ⟨[], by simp, by simpa [began] using turned⟩
  | stopHangUp =>
    have owed := filterMap_set_perm_of_none Caller.owes? (b := ⟨.stop, .replied .stopped⟩) caller rfl
    refine ⟨[.close .cooperative], rfl, h.enter (fun notice => ?_) ?_⟩
    · have less := owed.count_eq notice
      simp only [Core.owed, quiet (by simp), List.count_append] at less ⊢
      simp only [Caller.owes?, Option.toList_some] at less
      simp [Call.notice?]
      omega
    · obtain ⟨less, hk⟩ := List.getElem?_eq_some_iff.1 caller
      rw [List.countP_set less, hk]
      simp [Caller.hasStopped, Caller.reply?, Call.notice?, Nat.add_comm]
  | @told reason =>
    have turned := h.turn caller (.replied (.closed reason)) rfl rfl c.shutdown c.link
    exact ⟨[], by simp, by simpa [quiet (by simp)] using turned⟩

theorem Balance.acts (h : Balance c begun notices) (acts : Acts c a c' effects) :
    ∃ made, c'.link.calls = c.link.calls ++ made ∧
      Balance c' (begun ++ c.beganBy a) (notices ++ made.filterMap Call.notice?) := by
  have keep (calls : c'.link.calls = c.link.calls) (began : c.beganBy a = [])
      (owed : c'.owed = c.owed) (callers : c'.callers = c.callers) :
      ∃ made, c'.link.calls = c.link.calls ++ made ∧
        Balance c' (begun ++ c.beganBy a) (notices ++ made.filterMap Call.notice?) :=
    ⟨[], by simp [calls], h.enter (by simp [owed, began]) (by simp [callers])⟩
  cases acts with
  | moves move =>
    cases move with
    | take reading | takeError reading | readClosed reading =>
      exact keep rfl (beganBy_of_call? (by simp [Core.call?, reading, Reader.ending?]))
        (by simp [Core.owed, reading, Reader.ending?, owedBy]) rfl
    | recordDatagram reader | deliverDatagram reader =>
      exact keep rfl (beganBy_of_call? (by simp [Core.call?, reader, Reader.ending?]))
        (by simp [Core.owed, reader, Reader.ending?, owedBy]) rfl
    | endReader reader move =>
      obtain ⟨made, calls, entry, stopped⟩ := move.sends
      have began := due_beganBy (c := c) (t := .reader) (.inl rfl)
      simp only [Core.call?, reader, Reader.ending?, Option.bind_some] at began
      refine ⟨made, calls, h.enter (fun notice => ?_) (by simp [stopped])⟩
      have both := congrArg (List.count notice) entry
      simp only [Core.owed, reader, Reader.ending?, began, List.count_append] at both ⊢
      omega
    | endAcceptor acceptor move =>
      obtain ⟨made, calls, entry, stopped⟩ := move.sends
      have began := due_beganBy (c := c) (t := .acceptor) (.inr rfl)
      simp only [Core.call?, acceptor, Acceptor.ending?, Option.bind_some] at began
      refine ⟨made, calls, h.enter (fun notice => ?_) (by simp [stopped])⟩
      have both := congrArg (List.count notice) entry
      simp only [Core.owed, acceptor, Acceptor.ending?, began, List.count_append] at both ⊢
      omega
    | accept accepting | acceptError accepting =>
      exact keep rfl (beganBy_of_call? (by simp [Core.call?, accepting, Acceptor.ending?]))
        (by simp [Core.owed, accepting, Acceptor.ending?, owedBy]) rfl
    | join joining =>
      exact keep rfl (beganBy_of_call? (by simp [Core.call?, joining, Acceptor.ending?]))
        (by simp [Core.owed, joining, Acceptor.ending?, owedBy]) rfl
    | drain => exact keep rfl (beganBy_of_call? rfl) rfl rfl
    | @call number k _ _ stage _ caller move => exact h.call caller move
  | waits blocked => exact keep rfl (beganBy_of_call? (call?_of_blocked blocked)) rfl rfl
  | request =>
    exact ⟨[], by simp, by simpa [Core.beganBy] using h.request _⟩
  | @event e => cases e <;> exact keep rfl rfl rfl rfl
  | pass => exact keep rfl rfl rfl rfl

/-! Errors in the log -/

def Effect.error? : Effect → Option Log.Entry
  | .logged entry => if entry.level = .error then some entry else none
  | _ => none

def Blames (id : ConnectionId) (errors : List Log.Entry) : Option CloseReason → Prop
  | some (.fault detail) => ∃ loop e, e.message = detail ∧ errors = [.transportFault id loop e]
  | some (.cooperative _) | none => errors = []

theorem EndMove.blames {errors : List Log.Entry}
    (move : EndMove id loop sh l stage sh' l' stage' effects)
    (fresh : sh.state = .running → sh.reason = none) (h : Blames id errors sh.reason) :
    Blames id (errors ++ effects.filterMap Effect.error?) sh'.reason := by
  cases move with
  | beginQuiet running quiet =>
    rw [fresh running] at h
    obtain ⟨initiator, he⟩ := ofTransport_quiet quiet
    simpa [begun, he, Blames, List.filterMap_cons, Effect.error?, Log.Entry.level] using h
  | beginFault running fault =>
    rw [fresh running] at h
    obtain rfl : errors = [] := h
    rw [begun, ofTransport_fault fault]
    exact ⟨loop, _, rfl, rfl⟩
  | @late _ e closing =>
    have silent : (Effect.logged (lateEntry id loop e)).error? = none := by
      unfold lateEntry
      cases e.disposition <;> rfl
    simpa [List.filterMap_cons, silent] using h
  | leave other => simpa [(loopExited_reason other).1] using h
  | leaveLast last => simpa [(loopExited_reason last).1] using h
  | _ => simpa [List.filterMap_cons, Effect.error?, Log.Entry.level, Shutdown.publish] using h

theorem SendMove.errors {payload : Payload} {channel : Channel} {stage stage' : Stage}
    (move : SendMove payload channel sh l stage l' stage' effects) :
    effects.filterMap Effect.error? = [] := by
  cases move with
  | @call _ _ next =>
    cases next with
    | ended result =>
      cases result with
      | ok used => cases used <;> rfl
      | error e => rfl
    | _ => rfl
  | _ => rfl

theorem DrainMove.errors {d d' : Drain} (move : DrainMove l d d' effects) :
    effects.filterMap Effect.error? = [] := by
  cases move <;> rfl

theorem Blames.acts {errors : List Log.Entry} (h : Blames c.id errors c.shutdown.reason)
    (fresh : c.shutdown.state = .running → c.shutdown.reason = none) (acts : Acts c a c' effects) :
    Blames c'.id (errors ++ effects.filterMap Effect.error?) c'.shutdown.reason := by
  cases acts with
  | moves move =>
    cases move with
    | endReader reader move => exact move.blames fresh h
    | endAcceptor acceptor move => exact move.blames fresh h
    | drain drain move => simpa [move.errors] using h
    | call caller move =>
      cases move with
      | send out move => simpa [move.errors] using h
      | stopFirst running =>
        rw [fresh running] at h
        simpa [begun, Blames, List.filterMap_cons, Effect.error?, Log.Entry.level] using h
      | _ => simpa using h
    | _ => simpa [List.filterMap_cons, Effect.error?, Log.Entry.level] using h
  | _ => simpa using h

def errorsIn (history : List Effect) : List Log.Entry := history.filterMap Effect.error?

theorem error?_of_isDiagnostic {e : Effect} (h : e.isDiagnostic = true) : e.error? = none := by
  cases e with
  | logged entry => cases entry <;> first | rfl | simp [Effect.isDiagnostic] at h
  | _ => rfl

/-! Runs -/

theorem beganBy_snd (c : Core) (a : Action) : (c.beganBy a).map Prod.snd = c.took a := by
  cases a with
  | step t => simp [Core.beganBy, Function.comp_def]
  | _ => rfl

theorem begunBy_snd (s : Session) (actions : List Action) :
    (begunBy s actions).map Prod.snd = begunFor s actions := by
  induction actions generalizing s with
  | nil => rfl
  | cons a rest ih =>
    have here : (s.core.beganBy a).map Prod.snd = s.core.took a := beganBy_snd _ a
    have later := ih (s.act a)
    simp only [begunBy, begunFor] at later
    simp [begunBy, begunFor, along, here, later]

theorem Acts.id_eq (h : Acts c a c' effects) : c'.id = c.id := by
  cases h with
  | moves move => cases move <;> rfl
  | _ => rfl

theorem id_run (s : Session) (actions : List Action) : (s.run actions).id = s.id :=
  run_induction (P := fun _ s' => s'.core.id = s.core.id) rfl
    (fun actions a h => (Session.acts (s.run actions) a).id_eq.trans h) actions

theorem reason_of_caller {s : Session} {actions : List Action} {number : Nat}
    (began : (.caller number, reason) ∈ begunBy s actions) : reason = .cooperative .here := by
  induction actions generalizing s with
  | nil => simp [begunBy, along] at began
  | cons a rest ih =>
    obtain here | later := List.mem_append.1 began
    · cases a with
      | step t =>
        obtain ⟨taken, mem, same⟩ := List.mem_map.1 here
        obtain ⟨rfl, rfl⟩ := Prod.mk.inj same
        rw [took_eq] at mem
        split at mem
        · simp only [Core.call?, Option.mem_toList] at mem
          split at mem
          · exact (Option.some.inj mem).symm
          · simp at mem
        · simp at mem
      | _ => simp [Core.beganBy] at here
    · exact ih later

theorem balance_run (id : ConnectionId) (options : Options) (link : Link)
    (registry : Trace.Registry) (clock : Nat) (actions : List Action) :
    let first := spawn id options link registry clock
    Balance (first.run actions).core (begunBy first actions) (noticesSince first actions) ∧
      Blames (first.run actions).core.id (errorsIn (first.run actions).history)
        (first.run actions).shutdown.reason := by
  intro first
  have hc : first.core = ⟨id, options, .start 2, link, .reading, .accepting, [], []⟩ :=
    core_spawn id options link registry clock
  have balanced : ∃ made, (first.run actions).core.link.calls = first.core.link.calls ++ made ∧
      Balance (first.run actions).core (begunBy first actions) (made.filterMap Call.notice?) := by
    refine run_induction (P := fun actions s =>
      ∃ made, s.core.link.calls = first.core.link.calls ++ made ∧
        Balance s.core (begunBy first actions) (made.filterMap Call.notice?)) ?_ ?_ actions
    · refine ⟨[], by simp, ?_⟩
      rw [hc]
      exact ⟨.nil, rfl⟩
    · rintro actions a ⟨made, calls, h⟩
      obtain ⟨more, grown, ha⟩ := h.acts (Session.acts (first.run actions) a)
      refine ⟨made ++ more, by rw [grown, calls, List.append_assoc], ?_⟩
      rw [begunBy, along_concat, List.filterMap_append]
      exact ha
  obtain ⟨made, calls, balance⟩ := balanced
  refine ⟨?_, ?_⟩
  · have since : callsSince first actions = made := by
      have calls : (first.run actions).link.calls = first.link.calls ++ made := calls
      rw [callsSince, calls, List.drop_left]
    rwa [noticesSince, since]
  · refine run_induction (P := fun _ s => Blames s.core.id (errorsIn s.history)
      s.core.shutdown.reason) ?_ ?_ actions
    · rw [errorsIn, ← filterMap_visible fun _ => error?_of_isDiagnostic, visible_spawn, hc]
      rfl
    · intro actions a h
      have running := (closing_run id options link registry clock actions).closure.running_iff.1
      have ha := h.acts running (Session.acts (first.run actions) a)
      rw [filterMap_visible fun _ => error?_of_isDiagnostic] at ha
      rwa [errorsIn, history_act, List.filterMap_append]

theorem due?_mem {b : Task × CloseReason} {notice : CloseNotice} (h : due? b = some notice) :
    notice = .cooperative ∨ notice = .fault := by
  obtain ⟨t, reason⟩ := b
  cases t with
  | caller number =>
    obtain rfl := Option.some.inj h
    exact .inl rfl
  | _ =>
    cases reason with
    | cooperative initiator => simp [due?, lossNotice?] at h
    | fault detail =>
      obtain rfl := Option.some.inj h
      exact .inr rfl

theorem fault_of_due (h : due? (t, reason) = some .fault) : ∃ detail, reason = .fault detail := by
  cases reason with
  | fault detail => exact ⟨detail, rfl⟩
  | cooperative initiator => cases t <;> simp [due?, lossNotice?, CloseNotice.cooperative,
      CloseNotice.fault] at h

theorem owing_of_mem {e : Option Ending} {notice : CloseNotice} (h : notice ∈ owedBy e) :
    notice = .fault ∧ e = some .hangUp := by
  unfold owedBy at h
  split at h
  · exact ⟨List.mem_singleton.1 h, rfl⟩
  · simp at h

theorem owing_of_mem_callers {callers : List Caller} {notice : CloseNotice}
    (h : notice ∈ callers.filterMap Caller.owes?) :
    notice = .cooperative ∧ ∃ k ∈ callers, k.stage = .hangUp := by
  obtain ⟨k, mem, hk⟩ := List.mem_filterMap.1 h
  unfold Caller.owes? at hk
  split at hk
  · rename_i stage
    exact ⟨(Option.some.inj hk).symm, k, mem, stage⟩
  · simp at hk

theorem Balance.sent_or_owed (h : Balance c begun notices) {b : Task × CloseReason}
    {notice : CloseNotice} (began : b ∈ begun) (due : due? b = some notice) :
    notice ∈ notices ∨
      notice = .fault ∧ (c.reader = .ending .hangUp ∨ c.acceptor = .ending .hangUp) ∨
      notice = .cooperative ∧ ∃ k ∈ c.callers, k.stage = .hangUp := by
  have mem := (h.due.mem_iff (a := notice)).2 (List.mem_filterMap.2 ⟨b, began, due⟩)
  simp only [Core.owed, List.mem_append] at mem
  obtain sent | (reader | acceptor) | caller := mem
  · exact .inl sent
  · obtain ⟨rfl, owes⟩ := owing_of_mem reader
    exact .inr (.inl ⟨rfl, .inl (reader_eq owes)⟩)
  · obtain ⟨rfl, owes⟩ := owing_of_mem acceptor
    exact .inr (.inl ⟨rfl, .inr (acceptor_eq owes)⟩)
  · exact .inr (.inr (owing_of_mem_callers caller))

theorem Balance.exists_due (h : Balance c begun notices) {notice : CloseNotice}
    (mem : notice ∈ notices) : ∃ b ∈ begun, due? b = some notice :=
  List.mem_filterMap.1 (h.due.subset (List.mem_append_left _ mem))

/-! What was begun is the one reason of the shutdown, if it has one -/

variable {given : Option CloseReason}

theorem Balance.once (h : Balance c begun notices) (began : begun.map Prod.snd = given.toList) :
    notices.length ≤ 1 := by
  have lengths := h.due.length_eq
  have dues := List.length_filterMap_le due? begun
  have begun := congrArg List.length began
  have single : given.toList.length ≤ 1 := by cases given <;> simp
  rw [List.length_append] at lengths
  rw [List.length_map] at begun
  omega

theorem Balance.fault_given (h : Balance c begun notices) (began : begun.map Prod.snd = given.toList)
    (mem : .fault ∈ notices) : ∃ detail, given = some (.fault detail) := by
  obtain ⟨⟨t, reason⟩, here, due⟩ := h.exists_due mem
  obtain ⟨detail, rfl⟩ := fault_of_due due
  have taken := List.mem_map_of_mem (f := Prod.snd) here
  rw [began, Option.mem_toList] at taken
  exact ⟨detail, taken⟩

theorem Balance.fault_sent_or_owed (h : Balance c begun notices)
    (began : begun.map Prod.snd = given.toList)
    (callers : ∀ number reason, (.caller number, reason) ∈ begun → reason = .cooperative .here)
    {detail : String} (hr : given = some (.fault detail)) :
    .fault ∈ notices ∨ c.reader = .ending .hangUp ∨ c.acceptor = .ending .hangUp := by
  rw [hr, Option.toList_some, List.map_eq_singleton_iff] at began
  obtain ⟨⟨t, reason⟩, rfl, rfl⟩ := began
  have due : due? (t, .fault detail) = some .fault := by
    cases t with
    | caller number => simpa using callers number (.fault detail) (by simp)
    | _ => rfl
  obtain sent | ⟨-, owed⟩ | ⟨other, -⟩ := h.sent_or_owed (List.mem_singleton.2 rfl) due
  · exact .inl sent
  · exact .inr owed
  · simp [CloseNotice.cooperative, CloseNotice.fault] at other

/-- How a session that started as `first` closes its connection, seen after some actions. -/
structure HangsUpOnce (first : Session) (actions : List Action) : Prop where
  once : (noticesSince first actions).length ≤ 1
  only : ∀ notice ∈ noticesSince first actions, notice = .cooperative ∨ notice = .fault
  stopped_once : (first.run actions).callers.countP Caller.hasStopped ≤ 1
  cooperative_iff : .cooperative ∈ noticesSince first actions ↔
    ∃ k ∈ (first.run actions).callers, k.reply? = some .stopped
  fault : .fault ∈ noticesSince first actions →
    ∃ detail, (first.run actions).shutdown.reason = some (.fault detail)
  /-- Between beginning the closing and closing the connection there is one step of whoever began. -/
  stopping : ∀ number reason, begunBy first actions = [(.caller number, reason)] →
    .cooperative ∈ noticesSince first actions ∨
      ∃ k ∈ (first.run actions).callers, k.stage = .hangUp
  faulting : ∀ detail, (first.run actions).shutdown.reason = some (.fault detail) →
    .fault ∈ noticesSince first actions ∨
      (first.run actions).reader = .ending .hangUp ∨ (first.run actions).acceptor = .ending .hangUp
  closed : (first.run actions).state = .closed → (.fault ∈ noticesSince first actions ↔
    ∃ detail, (first.run actions).shutdown.reason = some (.fault detail))
  quiet : ∀ t initiator, begunBy first actions = [(t, .cooperative initiator)] →
    (∀ number, t ≠ .caller number) → noticesSince first actions = []
  errors : ∀ detail, (first.run actions).shutdown.reason = some (.fault detail) →
    ∃ loop e, e.message = detail ∧
      errorsIn (first.run actions).history = [.transportFault first.id loop e]
  no_errors : (∀ detail, (first.run actions).shutdown.reason ≠ some (.fault detail)) →
    errorsIn (first.run actions).history = []

/-- However stops, losses and faults run into each other, a session closes its connection at most
once, and for whoever began. -/
theorem hangs_up_once (id : ConnectionId) (options : Options) (link : Link)
    (registry : Trace.Registry) (clock : Nat) (actions : List Action) :
    HangsUpOnce (spawn id options link registry clock) actions := by
  obtain ⟨balance, blames⟩ := balance_run id options link registry clock actions
  have closing := closing_run id options link registry clock actions
  have snd := begunBy_snd (spawn id options link registry clock) actions
  generalize hf : spawn id options link registry clock = first at *
  have blames : Blames first.id (errorsIn (first.run actions).history)
      (first.run actions).shutdown.reason := by
    rw [← id_run first actions]
    exact blames
  have begun_eq : (begunBy first actions).map Prod.snd =
      (first.run actions).shutdown.reason.toList := snd.trans closing.taken_eq
  have faulting (detail : String)
      (hr : (first.run actions).shutdown.reason = some (.fault detail)) :
      .fault ∈ noticesSince first actions ∨ (first.run actions).reader = .ending .hangUp ∨
        (first.run actions).acceptor = .ending .hangUp :=
    balance.fault_sent_or_owed begun_eq (fun _ _ => reason_of_caller) hr
  exact {
    once := balance.once begun_eq
    only := fun notice mem => by
      obtain ⟨b, -, hb⟩ := balance.exists_due mem
      exact due?_mem hb
    stopped_once := by
      rw [show (first.run actions).callers.countP _ = _ from balance.stopped.symm]
      exact Nat.le_trans List.count_le_length (balance.once begun_eq)
    cooperative_iff := by
      have stopped : (noticesSince first actions).count .cooperative =
        (first.run actions).callers.countP Caller.hasStopped := balance.stopped
      rw [← List.count_pos_iff, stopped, List.countP_pos_iff]
      simp [Caller.hasStopped]
    fault := balance.fault_given begun_eq
    stopping := by
      intro number reason began
      obtain sent | ⟨other, -⟩ | ⟨-, owed⟩ :=
        balance.sent_or_owed (b := (.caller number, reason)) (by simp [began]) rfl
      · exact .inl sent
      · simp [CloseNotice.cooperative, CloseNotice.fault] at other
      · exact .inr owed
    faulting := faulting
    closed := by
      intro state
      refine ⟨balance.fault_given begun_eq, ?_⟩
      rintro ⟨detail, hr⟩
      obtain ⟨reader, acceptor⟩ := closing.closure.closed_iff.1 state
      obtain sent | owed | owed := faulting detail hr
      · exact sent
      · simp [show (first.run actions).core.reader = _ from owed, Reader.ending?, hasLeft] at reader
      · simp [show (first.run actions).core.acceptor = _ from owed, Acceptor.ending?, hasLeft]
          at acceptor
    quiet := by
      intro t initiator began loop
      have none : (begunBy first actions).filterMap due? = [] := by
        rw [began]
        cases t with
        | caller number => exact absurd rfl (loop number)
        | _ => rfl
      have nothing := balance.due
      rw [none, List.perm_nil] at nothing
      exact (List.append_eq_nil_iff.1 nothing).1
    errors := by
      intro detail hr
      rwa [hr] at blames
    no_errors := by
      intro faultless
      cases hr : (first.run actions).shutdown.reason with
      | none => rwa [hr] at blames
      | some reason =>
        cases reason with
        | cooperative initiator => rwa [hr] at blames
        | fault detail => exact absurd hr (faultless detail) }

end Session

end MessageTunnel
