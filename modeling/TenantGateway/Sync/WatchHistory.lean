import TenantGateway.Sync.Live
import TenantGateway.Sync.Watch

/-!
# Histories of watches

An adapter whose channels work on their own. What is sent to a channel waits in its inbox until the channel takes it out, one event
in a turn, and between the turns of a channel anything may happen to the others, to the composer and to the adapter. A channel that
was asked to end does so in one of its turns: when both a request and an event are there, either may be taken up first. The
operations are values, so that a run can open, drive, hang up and close watches in any order.
-/

namespace TenantGateway

/-- What was sent to a channel and was not handled yet. -/
structure Inbox where
  waiting : List ResourceEvent
  /-- The sender is gone. -/
  hungUp : Bool
  deriving DecidableEq

/-- An adapter with what waits for its channels. -/
structure WatchSession where
  adapter : Adapter
  /-- The inbox of the channel with the given number. -/
  inbox : Nat → Inbox

/-- The operations on an adapter and its watches. -/
inductive WatchOp
  /-- Opens a channel. -/
  | watch (kind : ResourceKind)
  | register (name : String) (kind : ResourceKind) (fails : Bool)
  /-- Sends an event to the channel with the given number, whether or not it was asked to end. -/
  | send (number : Nat) (event : ResourceEvent)
  /-- The sender of the channel with the given number is gone. -/
  | hangUp (number : Nat)
  /-- The channel with the given number takes a turn: it handles the event that has waited longest, or ends when nothing waits and
  nobody can send, or because it was asked to. The latter comes first when it heeds requests before events, and when nothing waits.
  When several tenants lose a layer, those listed go first. -/
  | turn (number : Nat) (heeds : Bool := false) (order : List TenantId := [])
  | closeComposer
  | close
  deriving DecidableEq

/-- What an operation on an adapter and its watches answers. -/
inductive WatchAnswer
  | registered (watch : Watch)
  /-- Whether an event was sent: not when the channel has ended or its sender is gone. -/
  | sent (accepted : Bool)
  | hungUp
  /-- The channel with the given number handled an event. -/
  | handled (number : Nat) (op : SyncOp) (answer : Except FeedError SyncOutcome)
  /-- The channel with the given number ended, because its sender is gone or because it was asked to. -/
  | ended (number : Nat)
  /-- There was nothing to do. -/
  | idle
  | composerClosed
  /-- Every watch that was closed, and why it could not be closed, if so. -/
  | closed (log : List (Watch × Option WatchError))

namespace WatchSession

/-- No watch is registered. -/
def new (composer : Composer) (selector : LabelSelector) : WatchSession := ⟨.new composer selector, fun _ => ⟨[], false⟩⟩

/-- The session with the inbox of one channel replaced. -/
def setInbox (s : WatchSession) (number : Nat) (inbox : Inbox) : WatchSession :=
  { s with inbox := fun n => if n = number then inbox else s.inbox n }

/-- A turn of the channel with the given number. -/
def turn (s : WatchSession) (number : Nat) (heeds : Bool) (order : List TenantId) : WatchAnswer × WatchSession :=
  match s.adapter.channels[number]? with
  | some ⟨kind, asked, false⟩ =>
    if heeds && asked then (.ended number, { s with adapter := s.adapter.stop number })
    else
      match (s.inbox number).waiting with
      | event :: rest =>
        let op : SyncOp := ⟨kind, event, order⟩
        (.handled number op (s.adapter.sync.perform op).1,
          { s with adapter := s.adapter.deliver number event order }.setInbox number { s.inbox number with waiting := rest })
      | [] =>
        if asked || (s.inbox number).hungUp then (.ended number, { s with adapter := s.adapter.stop number }) else (.idle, s)
  | _ => (.idle, s)

/-- Performs an operation. -/
def perform (s : WatchSession) : WatchOp → WatchAnswer × WatchSession
  | .watch kind =>
    match s.adapter.watch kind with
    | (number, adapter) => (.registered (.channel number), { s with adapter }.setInbox number ⟨[], false⟩)
  | .register name kind fails =>
    (.registered (.external name kind fails), { s with adapter := s.adapter.register (.external name kind fails) })
  | .send number event =>
    if s.adapter.isAlive number && !(s.inbox number).hungUp then
      (.sent true, s.setInbox number { s.inbox number with waiting := (s.inbox number).waiting ++ [event] })
    else (.sent false, s)
  | .hangUp number => (.hungUp, s.setInbox number { s.inbox number with hungUp := true })
  | .turn number heeds order => s.turn number heeds order
  | .closeComposer =>
    (.composerClosed, { s with adapter := { s.adapter with sync := s.adapter.sync.withComposer s.adapter.sync.composer.close } })
  | .close =>
    match s.adapter.close with
    | (log, adapter) => (.closed log, { s with adapter })

end WatchSession

/-! ## What operations and answers tell -/

/-- The events that are sent to a channel before its sender is gone. -/
def WatchOp.sentTo (number : Nat) : List WatchOp → List ResourceEvent
  | [] => []
  | .hangUp n :: rest => if n = number then [] else sentTo number rest
  | .send n event :: rest => if n = number then event :: sentTo number rest else sentTo number rest
  | _ :: rest => sentTo number rest

/-- Whether an operation is a turn of the channel with the given number. -/
def WatchOp.isTurnOf (number : Nat) : WatchOp → Bool
  | .turn n _ _ => n = number
  | _ => false

namespace WatchAnswer

/-- What a channel handled, with the answers it got. -/
def handledBy (number : Nat) (answers : List WatchAnswer) : List (SyncOp × Except FeedError SyncOutcome) :=
  answers.filterMap fun
    | .handled n op answer => if n = number then some (op, answer) else none
    | _ => none

/-- What an answer tells to have happened to the composer. -/
def reaches (s : Sync) : WatchAnswer → Sync
  | .handled _ op _ => (s.perform op).2
  | .composerClosed => s.withComposer s.composer.close
  | _ => s

/-- The watches registered since the last closing, in order, after one more answer. -/
def registers (watches : List Watch) : WatchAnswer → List Watch
  | .registered watch => watches ++ [watch]
  | .closed _ => []
  | _ => watches

/-- The watches registered since the last closing, in order. -/
def registeredSince (answers : List WatchAnswer) : List Watch := answers.foldl registers []

end WatchAnswer

namespace Adapter

/-- The kind of the channel with the given number. -/
def kind? (a : Adapter) (number : Nat) : Option ResourceKind := a.channels[number]?.map Channel.kind

/-- Why a watch cannot be closed, if so: a channel when it has ended, a watch that is driven from outside when closing it fails. -/
def failure? (a : Adapter) : Watch → Option WatchError
  | .channel number => if a.isAlive number then none else (a.kind? number).map .terminated
  | .external _ kind fails => if fails then some (.terminated kind) else none

end Adapter

end TenantGateway
