import MessageTunnel.Transport.Link
/-!
What a session relies on in a connection, for one that is held in memory and for which no failures are
arranged. Its two ends do whatever they do in any order. The first closing fixes the error with which
all later calls fail; until then every call succeeds, streams are numbered as they are opened, and
what the peer puts in comes out in the same order.
-/
set_option autoImplicit false

namespace MessageTunnel.Link

/-- What is done to an end: by its owner, by the peer, or by what lies between them. -/
inductive Deed where
  | close (notice : CloseNotice)
  | peerClose (notice : CloseNotice)
  | breakOff (e : TransportError)
  | sendDatagram (payload : Payload)
  | openStream
  | write (stream : Nat) (payload : Payload)
  | finish (stream : Nat)
  | readDatagram
  | acceptStream
  | putDatagram (d : Except TransportError Payload)
  | putStream (s : InboundStream)

inductive Outcome where
  | nothing
  | sent (result : Except TransportError Unit)
  | opened (result : Except TransportError Nat)
  | wrote (result : Write)
  | finished (result : Except TransportError Unit)
  | read (result : Option (Except TransportError Payload))
  | accepted (result : Option (Except TransportError InboundStream))

def undergo (l : Link) : Deed → Outcome × Link
  | .close notice => (.nothing, l.close notice)
  | .peerClose notice => (.nothing, l.apply (.peerClosed notice))
  | .breakOff e => (.nothing, l.apply (.broken e))
  | .sendDatagram payload => (.sent (l.sendDatagram payload).1, (l.sendDatagram payload).2)
  | .openStream => (.opened l.openStream.1, l.openStream.2)
  | .write stream payload => (.wrote (l.write stream payload).1, (l.write stream payload).2)
  | .finish stream => (.finished (l.finish stream).1, (l.finish stream).2)
  | .readDatagram =>
    match l.readDatagram with
    | none => (.read none, l)
    | some (result, l) => (.read (some result), l)
  | .acceptStream =>
    match l.acceptStream with
    | none => (.accepted none, l)
    | some (result, l) => (.accepted (some result), l)
  | .putDatagram d => (.nothing, l.apply (.datagram d))
  | .putStream s => (.nothing, l.apply (.stream s))

def after (l : Link) (deeds : List Deed) : Link := deeds.foldl (fun l d => (l.undergo d).2) l

structure Entry where
  deed : Deed
  outcome : Outcome
  isOpen : Bool

def history (l : Link) : List Deed → List Entry
  | [] => []
  | d :: rest => ⟨d, (l.undergo d).1, l.closed.isNone⟩ :: (l.undergo d).2.history rest

def Deed.closes? : Deed → Option TransportError
  | close _ => some .locallyClosed
  | peerClose notice => some (.applicationClosed notice.code notice.reason)
  | breakOff e => some e
  | _ => none

def Deed.datagram? : Deed → Option (Except TransportError Payload)
  | putDatagram d => some d
  | _ => none

def Deed.stream? : Deed → Option InboundStream
  | putStream s => some s
  | _ => none

def Deed.late? : Deed → Option Call
  | close notice => some (.close notice)
  | finish stream => some (.finish stream)
  | _ => none

def Deed.answer (opened : Nat) (datagrams : List (Except TransportError Payload))
    (streams : List InboundStream) : Deed → Outcome
  | sendDatagram _ => .sent (.ok ())
  | openStream => .opened (.ok opened)
  | write .. => .wrote (.ended (.ok ()))
  | finish _ => .finished (.ok ())
  | readDatagram => .read datagrams.head?
  | acceptStream => .accepted (streams.head?.map .ok)
  | _ => .nothing

def Deed.refusal (e : TransportError) : Deed → Outcome
  | sendDatagram _ => .sent (.error e)
  | openStream => .opened (.error e)
  | write .. => .wrote (.ended (.error e))
  | finish _ => .finished (.ok ())
  | readDatagram => .read (some (.error e))
  | acceptStream => .accepted (some (.error e))
  | _ => .nothing

namespace Entry

/-- The call that is recorded. Late ones only are, if they close the end or finish a stream. -/
def call? (t : Entry) : Option Call :=
  match t.deed, t.outcome with
  | .close notice, _ => some (.close notice)
  | .finish stream, _ => some (.finish stream)
  | .sendDatagram payload, _ => if t.isOpen then some (.sendDatagram payload) else none
  | .openStream, .opened (.ok stream) => if t.isOpen then some (.openStream stream) else none
  | .write stream payload, _ => if t.isOpen then some (.write stream payload) else none
  | _, _ => none

def number? (t : Entry) : Option Nat :=
  match t.outcome with
  | .opened (.ok stream) => some stream
  | _ => none

def datagram? (t : Entry) : Option (Except TransportError Payload) :=
  match t.outcome with
  | .read result => if t.isOpen then result else none
  | _ => none

def stream? (t : Entry) : Option InboundStream :=
  match t.outcome with
  | .accepted (some (.ok s)) => some s
  | _ => none

end Entry

structure IsPlain (l : Link) : Prop where
  failures : l.failures = []
  acceptFailure : l.acceptFailure = none
  heldWrites : l.heldWrites = none

variable {l : Link} {e : TransportError} {d : Deed} {deeds : List Deed}

theorem IsPlain.takeFailure (plain : l.IsPlain) (op : Operation) : l.takeFailure op = none := by
  simp [Link.takeFailure, plain.failures]

def Deed.asks : Deed → Bool
  | sendDatagram _ | openStream | write .. | readDatagram | acceptStream => true
  | _ => false

theorem undergo_of_open (plain : l.IsPlain) (opened : l.closed = none) (d : Deed) :
    (l.undergo d).1 = d.answer l.nextStream l.datagrams l.streams := by
  have kept := plain.takeFailure
  cases d with
  | readDatagram =>
    unfold undergo Link.readDatagram
    rw [opened]
    cases l.datagrams <;> rfl
  | acceptStream =>
    unfold undergo Link.acceptStream
    rw [opened, plain.acceptFailure]
    cases l.streams <;> rfl
  | sendDatagram | openStream =>
    simp [undergo, Link.sendDatagram, Link.openStream, kept, opened, Deed.answer]
  | write => simp [undergo, Link.write, kept, opened, plain.heldWrites, Deed.answer]
  | finish => simp [undergo, Link.finish, kept, Deed.answer]
  | _ => rfl

theorem undergo_of_closed (plain : l.IsPlain) (closed : l.closed = some e)
    (asks : d.asks = true) : l.undergo d = (d.refusal e, l) := by
  have kept := plain.takeFailure
  cases d with
  | readDatagram => simp [undergo, Link.readDatagram, closed, Deed.refusal]
  | acceptStream =>
    simp [undergo, Link.acceptStream, closed, plain.acceptFailure, Deed.refusal]
  | sendDatagram | openStream =>
    simp [undergo, Link.sendDatagram, Link.openStream, kept, closed, Deed.refusal]
  | write => simp [undergo, Link.write, kept, closed, plain.heldWrites, Deed.refusal]
  | _ => simp [Deed.asks] at asks

theorem undergo_finish (plain : l.IsPlain) (stream : Nat) :
    l.undergo (.finish stream) = (.finished (.ok ()), l.record (.finish stream)) := by
  simp [undergo, Link.finish, plain.takeFailure]

theorem undergo_read (opened : l.closed = none) :
    (l.undergo .readDatagram).2 = { l with datagrams := l.datagrams.tail } := by
  obtain ⟨calls, nextStream, limit, datagrams, streams, closed, failures, accept, held⟩ := l
  obtain rfl : closed = none := opened
  cases datagrams <;> rfl

theorem undergo_accept (plain : l.IsPlain) (opened : l.closed = none) :
    (l.undergo .acceptStream).2 = { l with streams := l.streams.tail } := by
  have works := plain.acceptFailure
  obtain ⟨calls, nextStream, limit, datagrams, streams, closed, failures, accept, held⟩ := l
  obtain rfl : closed = none := opened
  obtain rfl : accept = none := works
  cases streams <;> rfl

theorem answer_of_closed (plain : l.IsPlain) (closed : l.closed = some e) (d : Deed) :
    (l.undergo d).1 = d.refusal e := by
  cases asks : d.asks with
  | true => rw [undergo_of_closed plain closed asks]
  | false =>
    cases d with
    | finish stream => exact congrArg Prod.fst (undergo_finish plain stream)
    | sendDatagram | openStream | write | readDatagram | acceptStream => simp [Deed.asks] at asks
    | _ => rfl

def entry (l : Link) (d : Deed) : Entry := ⟨d, (l.undergo d).1, l.closed.isNone⟩

structure Leaves (l : Link) (t : Entry) (l' : Link) : Prop where
  plain : l'.IsPlain
  closed : l'.closed = l.closed.or t.deed.closes?
  calls : l'.calls = l.calls ++ t.call?.toList
  nextStream : l'.nextStream = l.nextStream + t.number?.toList.length
  number : t.number?.toList = List.range' l.nextStream t.number?.toList.length
  datagrams : l.datagrams ++ t.deed.datagram?.toList = t.datagram?.toList ++ l'.datagrams
  streams : l.streams ++ t.deed.stream?.toList = t.stream?.toList ++ l'.streams

theorem IsPlain.leaves_record (plain : l.IsPlain) {t : Entry} {call : Call}
    (closes : t.deed.closes? = none) (calls : t.call? = some call) (number : t.number? = none)
    (taken : t.datagram? = none ∧ t.stream? = none)
    (put : t.deed.datagram? = none ∧ t.deed.stream? = none) : Leaves l t (l.record call) where
  plain := ⟨plain.failures, plain.acceptFailure, plain.heldWrites⟩
  closed := by simp [record, closes]
  calls := by simp [record, calls]
  nextStream := by simp [record, number]
  number := by simp [number]
  datagrams := by simp [record, taken.1, put.1]
  streams := by simp [record, taken.2, put.2]

theorem leaves_of_closed (plain : l.IsPlain) (closed : l.closed = some e)
    (asks : d.asks = true) : Leaves l (l.entry d) (l.undergo d).2 := by
  rw [entry, undergo_of_closed plain closed asks, closed]
  have nothing : Entry.call? ⟨d, d.refusal e, false⟩ = none ∧
      Entry.number? ⟨d, d.refusal e, false⟩ = none ∧
      Entry.datagram? ⟨d, d.refusal e, false⟩ = none ∧
      Entry.stream? ⟨d, d.refusal e, false⟩ = none ∧ d.datagram? = none ∧ d.stream? = none := by
    cases d with
    | sendDatagram | openStream | write | readDatagram | acceptStream =>
      exact ⟨rfl, rfl, rfl, rfl, rfl, rfl⟩
    | _ => simp [Deed.asks] at asks
  obtain ⟨call, number, datagram, stream, put, put'⟩ := nothing
  exact {
    plain := plain
    closed := by simp [closed]
    calls := by simp [call]
    nextStream := by simp [number]
    number := by simp [number]
    datagrams := by simp [datagram, put]
    streams := by simp [stream, put'] }

theorem leaves_of_open (plain : l.IsPlain) (opened : l.closed = none) (asks : d.asks = true) :
    Leaves l (l.entry d) (l.undergo d).2 := by
  have kept := plain.takeFailure
  have answer := undergo_of_open plain opened d
  rw [entry, answer, opened]
  cases d with
  | sendDatagram payload =>
    have sends : (l.undergo (.sendDatagram payload)).2 = l.record (.sendDatagram payload) := by
      simp [undergo, Link.sendDatagram, kept, opened]
    rw [sends]
    exact plain.leaves_record rfl rfl rfl ⟨rfl, rfl⟩ ⟨rfl, rfl⟩
  | openStream =>
    have opens : (l.undergo .openStream).2 =
        { l.record (.openStream l.nextStream) with nextStream := l.nextStream + 1 } := by
      simp [undergo, Link.openStream, kept, opened]
    rw [opens]
    exact ⟨⟨plain.failures, plain.acceptFailure, plain.heldWrites⟩, by simp [record, Deed.closes?],
      rfl, rfl, rfl, List.append_nil _, List.append_nil _⟩
  | write stream payload =>
    have writes : (l.undergo (.write stream payload)).2 = l.record (.write stream payload) := by
      simp [undergo, Link.write, kept, opened, plain.heldWrites]
    rw [writes]
    exact plain.leaves_record rfl rfl rfl ⟨rfl, rfl⟩ ⟨rfl, rfl⟩
  | readDatagram =>
    rw [undergo_read opened]
    refine ⟨⟨plain.failures, plain.acceptFailure, plain.heldWrites⟩, by simp [Deed.closes?],
      (List.append_nil _).symm, rfl, rfl, ?_, List.append_nil _⟩
    refine (List.append_nil _).trans ?_
    cases l.datagrams <;> rfl
  | acceptStream =>
    rw [undergo_accept plain opened]
    refine ⟨⟨plain.failures, plain.acceptFailure, plain.heldWrites⟩, by simp [Deed.closes?],
      (List.append_nil _).symm, rfl, rfl, List.append_nil _, ?_⟩
    refine (List.append_nil _).trans ?_
    cases l.streams <;> rfl
  | _ => simp [Deed.asks] at asks

theorem leaves (plain : l.IsPlain) (d : Deed) : Leaves l (l.entry d) (l.undergo d).2 := by
  have still : IsPlain l := plain
  cases asks : d.asks with
  | true =>
    cases closed : l.closed with
    | none => exact leaves_of_open plain closed asks
    | some e => exact leaves_of_closed plain closed asks
  | false =>
    obtain ⟨failures, accept, held⟩ := plain
    cases d with
    | close notice =>
      exact ⟨⟨failures, accept, held⟩, rfl, rfl, rfl, rfl, List.append_nil _, List.append_nil _⟩
    | peerClose | breakOff =>
      exact ⟨⟨failures, accept, held⟩, rfl, (List.append_nil _).symm, rfl, rfl,
        List.append_nil _, List.append_nil _⟩
    | finish stream =>
      rw [entry, undergo_finish still]
      exact still.leaves_record rfl rfl rfl ⟨rfl, rfl⟩ ⟨rfl, rfl⟩
    | putDatagram d =>
      exact ⟨⟨failures, accept, held⟩, Option.or_none.symm, (List.append_nil _).symm, rfl, rfl,
        rfl, List.append_nil _⟩
    | putStream s =>
      exact ⟨⟨failures, accept, held⟩, Option.or_none.symm, (List.append_nil _).symm, rfl, rfl,
        List.append_nil _, rfl⟩
    | sendDatagram | openStream | write | readDatagram | acceptStream => simp [Deed.asks] at asks

/-- What any course of deeds makes of a plain end, told by its history. -/
structure Runs (l : Link) (deeds : List Deed) : Prop where
  plain : (l.after deeds).IsPlain
  closed : (l.after deeds).closed = l.closed.or (deeds.findSome? Deed.closes?)
  calls : (l.after deeds).calls = l.calls ++ (l.history deeds).filterMap Entry.call?
  nextStream : (l.after deeds).nextStream =
    l.nextStream + ((l.history deeds).filterMap Entry.number?).length
  numbers : (l.history deeds).filterMap Entry.number? =
    List.range' l.nextStream ((l.history deeds).filterMap Entry.number?).length
  datagrams : l.datagrams ++ deeds.filterMap Deed.datagram? =
    (l.history deeds).filterMap Entry.datagram? ++ (l.after deeds).datagrams
  streams : l.streams ++ deeds.filterMap Deed.stream? =
    (l.history deeds).filterMap Entry.stream? ++ (l.after deeds).streams

theorem runs (plain : l.IsPlain) (deeds : List Deed) : Runs l deeds := by
  induction deeds generalizing l with
  | nil => exact ⟨plain, Option.or_none.symm, (List.append_nil _).symm, rfl, rfl,
      List.append_nil _, List.append_nil _⟩
  | cons d rest ih =>
    have one := leaves plain d
    have more := ih one.plain
    have told {α : Type} (f : Entry → Option α) : (l.history (d :: rest)).filterMap f =
        (f (l.entry d)).toList ++ ((l.undergo d).2.history rest).filterMap f := by
      change (l.entry d :: (l.undergo d).2.history rest).filterMap f = _
      rw [List.filterMap_cons]
      cases f (l.entry d) <;> rfl
    have put {α : Type} (f : Deed → Option α) :
        (d :: rest).filterMap f = (f d).toList ++ rest.filterMap f := by
      rw [List.filterMap_cons]
      cases f d <;> rfl
    have after : l.after (d :: rest) = (l.undergo d).2.after rest := rfl
    exact {
      plain := more.plain
      closed := by
        rw [after, more.closed, one.closed, Option.or_assoc, List.findSome?_cons]
        congr 1
        change d.closes?.or _ = _
        cases d.closes? <;> rfl
      calls := by rw [after, more.calls, one.calls, told, List.append_assoc]
      nextStream := by
        rw [after, more.nextStream, one.nextStream, told, List.length_append, Nat.add_assoc]
      numbers := by
        have numbers := more.numbers
        rw [one.nextStream] at numbers
        rw [told, List.length_append, ← List.range'_append_1, ← one.number, ← numbers]
      datagrams := by
        rw [put, told, after, ← List.append_assoc, List.append_assoc _ _ (Link.datagrams _),
          ← more.datagrams, ← List.append_assoc, ← one.datagrams]
        rfl
      streams := by
        rw [put, told, after, ← List.append_assoc, List.append_assoc _ _ (Link.streams _),
          ← more.streams, ← List.append_assoc, ← one.streams]
        rfl }

/-- What holds of a new end after these deeds, and of the next one. -/
structure KeepsContract (first : Link) (deeds : List Deed) : Prop where
  closed : (first.after deeds).closed = deeds.findSome? Deed.closes?
  /-- Until then whatever is asked for is granted. -/
  granted : deeds.findSome? Deed.closes? = none → ∀ d : Deed,
    ((first.after deeds).undergo d).1 =
      d.answer ((first.history deeds).filterMap Entry.number?).length
        (first.after deeds).datagrams (first.after deeds).streams
  refused : ∀ {e}, deeds.findSome? Deed.closes? = some e → ∀ d : Deed,
    ((first.after deeds).undergo d).1 = d.refusal e
  calls : (first.after deeds).calls = (first.history deeds).filterMap Entry.call?
  numbers : (first.history deeds).filterMap Entry.number? =
    List.range ((first.history deeds).filterMap Entry.number?).length
  /-- What came out and what still waits is what was put in. -/
  datagrams : deeds.filterMap Deed.datagram? =
    (first.history deeds).filterMap Entry.datagram? ++ (first.after deeds).datagrams
  streams : deeds.filterMap Deed.stream? =
    (first.history deeds).filterMap Entry.stream? ++ (first.after deeds).streams
  /-- No call but these is recorded of a closed end, and what is in its queues stays there. -/
  kept : deeds.findSome? Deed.closes? ≠ none → ∀ d : Deed,
    let l := first.after deeds
    (l.undergo d).2.calls = l.calls ++ d.late?.toList ∧
      (l.undergo d).2.datagrams = l.datagrams ++ d.datagram?.toList ∧
      (l.undergo d).2.streams = l.streams ++ d.stream?.toList

theorem IsPlain.kept (plain : l.IsPlain) (closed : l.closed = some e) (d : Deed) :
    (l.undergo d).2.calls = l.calls ++ d.late?.toList ∧
      (l.undergo d).2.datagrams = l.datagrams ++ d.datagram?.toList ∧
      (l.undergo d).2.streams = l.streams ++ d.stream?.toList := by
  have leaves := leaves plain d
  have nothing : (l.entry d).call? = d.late? ∧ (l.entry d).datagram? = none ∧
      (l.entry d).stream? = none := by
    rw [entry, answer_of_closed plain closed, closed]
    cases d <;> exact ⟨rfl, rfl, rfl⟩
  obtain ⟨call, datagram, stream⟩ := nothing
  have datagrams := leaves.datagrams
  have streams := leaves.streams
  rw [datagram] at datagrams
  rw [stream] at streams
  exact ⟨by rw [leaves.calls, call], datagrams.symm, streams.symm⟩

/-- Whatever is done to a new end, in whatever order, it answers as a session relies on. -/
theorem keeps_contract (limit : Option Nat) (deeds : List Deed) :
    KeepsContract (.new limit) deeds := by
  have plain : (Link.new limit).IsPlain := ⟨rfl, rfl, rfl⟩
  have runs := runs plain deeds
  have closed : ((Link.new limit).after deeds).closed = deeds.findSome? Deed.closes? :=
    runs.closed
  have opened := runs.nextStream
  rw [show (Link.new limit).nextStream = 0 from rfl, Nat.zero_add] at opened
  exact {
    closed := closed
    granted := by
      intro stays d
      rw [undergo_of_open runs.plain (closed.trans stays), opened]
    refused := fun closes d => answer_of_closed runs.plain (closed.trans closes) d
    calls := runs.calls
    numbers := by
      rw [List.range_eq_range']
      exact runs.numbers
    datagrams := runs.datagrams
    streams := runs.streams
    kept := by
      intro closes d
      obtain ⟨e, closes⟩ := Option.ne_none_iff_exists'.1 closes
      exact runs.plain.kept (closed.trans closes) d }

/-- A write comes too late, but the end of its stream does not. -/
example : ((Link.new none).after [.openStream, .write 0 [7], .peerClose ⟨3, "gone"⟩,
    .close .cooperative, .write 0 [8], .finish 0]).calls =
      [.openStream 0, .write 0 [7], .close .cooperative, .finish 0] := by
  decide

end MessageTunnel.Link
