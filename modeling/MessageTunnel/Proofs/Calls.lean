import Mathlib.Data.List.Basic
import MessageTunnel.Transport.Link
set_option autoImplicit false

namespace MessageTunnel

def Call.stream? : Call → Option Nat
  | .openStream stream | .write stream _ | .finish stream => some stream
  | .sendDatagram _ | .close _ => none

def Call.datagram? : Call → Option Payload
  | .sendDatagram payload => some payload
  | _ => none

def Call.writtenTo? (stream : Nat) : Call → Option Payload
  | .write stream' payload => if stream' = stream then some payload else none
  | _ => none

def datagramsIn (calls : List Call) : List Payload := calls.filterMap Call.datagram?

def writtenTo (stream : Nat) (calls : List Call) : List Payload :=
  calls.filterMap (Call.writtenTo? stream)

def wholeStream? (calls : List Call) : Call → Option Payload
  | .finish stream =>
    if .openStream stream ∈ calls ∧ writtenTo stream calls ≠ [] then
      some (writtenTo stream calls).flatten
    else none
  | _ => none

def finishedStreams (calls : List Call) : List Payload := calls.filterMap (wholeStream? calls)

theorem writtenTo_append {stream : Nat} {calls : List Call} {call : Call}
    (other : call.stream? ≠ some stream) :
    writtenTo stream (calls ++ [call]) = writtenTo stream calls := by
  have hw : call.writtenTo? stream = none := by
    cases call with
    | write stream' payload =>
      have hne : stream' ≠ stream := by simpa [Call.stream?] using other
      simp [Call.writtenTo?, hne]
    | _ => rfl
  simp [writtenTo, hw]

theorem writtenTo_eq_nil {stream : Nat} {calls : List Call}
    (unwritten : ∀ payload, .write stream payload ∉ calls) : writtenTo stream calls = [] := by
  rw [writtenTo, List.filterMap_eq_nil_iff]
  intro call mem
  cases call with
  | write stream' payload =>
    refine if_neg fun same => ?_
    subst same
    exact unwritten payload mem
  | _ => rfl

theorem writtenTo_write (stream : Nat) (calls : List Call) (payload : Payload) :
    writtenTo stream (calls ++ [.write stream payload]) = writtenTo stream calls ++ [payload] := by
  simp [writtenTo, Call.writtenTo?]

theorem writtenTo_finish (stream stream' : Nat) (calls : List Call) :
    writtenTo stream (calls ++ [.finish stream']) = writtenTo stream calls := by
  simp [writtenTo, Call.writtenTo?, List.filterMap_cons]

theorem mem_append_other {calls : List Call} {call call' : Call} {stream : Nat}
    (about : call'.stream? = some stream) (other : call.stream? ≠ some stream) :
    call' ∈ calls ++ [call] ↔ call' ∈ calls := by
  have hne : call' ≠ call := by
    rintro rfl
    exact other about
  simp [hne]

theorem finishedStreams_append {calls : List Call} {call : Call}
    (unfinished : ∀ stream, call.stream? = some stream → .finish stream ∉ calls) :
    finishedStreams (calls ++ [call]) =
      finishedStreams calls ++ (wholeStream? (calls ++ [call]) call).toList := by
  -- The new call is about none of the streams that are finished already.
  have before : calls.filterMap (wholeStream? (calls ++ [call])) = finishedStreams calls := by
    refine List.filterMap_congr fun call' mem => ?_
    cases call' with
    | finish stream =>
      have other : call.stream? ≠ some stream := fun about => unfinished stream about mem
      have opened : .openStream stream ∈ calls ++ [call] ↔ Call.openStream stream ∈ calls :=
        mem_append_other rfl other
      simp only [wholeStream?, opened, writtenTo_append other]
    | _ => rfl
  rw [finishedStreams, List.filterMap_append, before]
  cases hw : wholeStream? (calls ++ [call]) call <;> simp [hw]

section
variable {α β : Type} (f : α → Option β)

theorem filterMap_set_eq {l : List α} {i : Nat} {a b : α} (h : l[i]? = some a) (same : f b = f a) :
    (l.set i b).filterMap f = l.filterMap f := by
  induction l generalizing i with
  | nil => simp at h
  | cons x rest ih =>
    cases i with
    | zero =>
      obtain rfl : x = a := by simpa using h
      simp [List.filterMap_cons, same]
    | succ i => simp [List.filterMap_cons, ih (by simpa using h)]

theorem filterMap_set_perm {l : List α} {i : Nat} {a : α} (b : α) (h : l[i]? = some a)
    (fresh : f a = none) : ((l.set i b).filterMap f).Perm (l.filterMap f ++ (f b).toList) := by
  induction l generalizing i with
  | nil => simp at h
  | cons x rest ih =>
    cases i with
    | zero =>
      obtain rfl : x = a := by simpa using h
      cases hb : f b with
      | none => simp [fresh, hb]
      | some y => simpa [List.filterMap_cons, fresh, hb] using (List.perm_append_singleton y _).symm
    | succ i =>
      have hr := ih (by simpa using h)
      cases hx : f x with
      | none => simpa [List.filterMap_cons, hx] using hr
      | some y => simpa [List.filterMap_cons, hx] using hr.cons y

theorem filterMap_set_last {l : List α} {i : Nat} {a : α} (b : α) (h : l[i]? = some a)
    (fresh : f a = none) (last : ∀ j x, i < j → l[j]? = some x → f x = none) :
    (l.set i b).filterMap f = l.filterMap f ++ (f b).toList := by
  induction l generalizing i with
  | nil => simp at h
  | cons x rest ih =>
    cases i with
    | zero =>
      obtain rfl : x = a := by simpa using h
      have none : rest.filterMap f = [] := by
        rw [List.filterMap_eq_nil_iff]
        intro y mem
        obtain ⟨j, hj⟩ := List.getElem?_of_mem mem
        exact last (j + 1) y (by omega) (by simpa using hj)
      cases hb : f b <;> simp [fresh, hb, none]
    | succ i =>
      have hr := ih (by simpa using h) fun j y less hy =>
        last (j + 1) y (by omega) (by simpa using hy)
      cases hx : f x <;> simp [hx, hr]

end

end MessageTunnel
