import TenantGateway.Sync.Basic

/-!
# Watches

A watch reports the events of one kind of resource. A channel watch handles the events that are sent to it, in order,
until one of them fails or its sender is gone. Closing a channel watch only asks it to end: it does so when it next looks at
the request, and until then it goes on handling events, and more may be sent to it. Closing the adapter closes every watch in
the order of registration; a watch that cannot be closed does not keep the others from being closed.
-/

namespace TenantGateway

/-- A watch that handles the events sent to it. -/
structure Channel where
  kind : ResourceKind
  /-- It was asked to end. -/
  asked : Bool
  /-- It has ended: it handles nothing more, and nothing more can be sent to it. -/
  ended : Bool
  deriving DecidableEq

/-- Something that the adapter closes. -/
inductive Watch
  /-- The channel with the given number. -/
  | channel (number : Nat)
  /-- A watch that is driven from outside, and whether closing it fails. -/
  | external (name : String) (kind : ResourceKind) (fails : Bool)
  deriving DecidableEq

/-- Why a watch could not be closed. -/
inductive WatchError
  /-- It had stopped before. -/
  | terminated (kind : ResourceKind)
  deriving DecidableEq

/-- The wording of the error. -/
def WatchError.message : WatchError → String
  | .terminated kind => kind.name ++ " watch stopped before it was closed"

/-- A synchronised composer with the watches that drive it. -/
structure Adapter where
  sync : Sync
  /-- Every channel ever opened; its number is its place. -/
  channels : List Channel
  /-- The watches registered since the last closing, in order. -/
  watches : List Watch
  deriving DecidableEq

namespace Adapter

/-- No watch is registered. -/
def new (composer : Composer) (selector : LabelSelector) : Adapter := ⟨.new composer selector, [], []⟩

/-- Handles one event outside of all watches. -/
def handle (a : Adapter) (kind : ResourceKind) (event : ResourceEvent) : Except FeedError (SyncOutcome × Adapter) := do
  let (outcome, sync) ← a.sync.handle kind event
  return (outcome, { a with sync })

/-- Registers a watch. -/
def register (a : Adapter) (watch : Watch) : Adapter :=
  { a with watches := a.watches ++ [watch] }

/-- Opens a channel for events of one kind. Answers its number. -/
def watch (a : Adapter) (kind : ResourceKind) : Nat × Adapter :=
  let opened : Adapter := { a with channels := a.channels ++ [⟨kind, false, false⟩] }
  (a.channels.length, opened.register (.channel a.channels.length))

/-- The number of watches that the next closing will close. -/
def watchCount (a : Adapter) : Nat := a.watches.length

/-- Whether the channel with the given number can be sent events and handles them: it was opened and has not ended. -/
def isAlive (a : Adapter) (number : Nat) : Bool :=
  match a.channels[number]? with
  | some channel => !channel.ended
  | none => false

/-- Whether the channel with the given number was asked to end. -/
def isAsked (a : Adapter) (number : Nat) : Bool :=
  match a.channels[number]? with
  | some channel => channel.asked
  | none => false

/-- Whether the channel with the given number has not ended and was not asked to. -/
def isRunning (a : Adapter) (number : Nat) : Bool := a.isAlive number && !a.isAsked number

/-- Whether the channel with the given number has still to end, as it was asked to. -/
def isClosing (a : Adapter) (number : Nat) : Bool := a.isAlive number && a.isAsked number

/-- The channel with the given number ends. -/
def stop (a : Adapter) (number : Nat) : Adapter :=
  { a with channels := a.channels.modify number fun channel => { channel with ended := true } }

/-- The channel with the given number is asked to end. -/
def ask (a : Adapter) (number : Nat) : Adapter :=
  { a with channels := a.channels.modify number fun channel => { channel with asked := true } }

/-- The channel with the given number looks whether it was asked to end, and ends if so. -/
def heed (a : Adapter) (number : Nat) : Adapter :=
  if a.isAsked number then a.stop number else a

/-- The channel with the given number handles an event as its own kind, and ends when the event is refused. A channel that has
ended handles nothing. The tenants listed go first when several lose a layer. -/
def deliver (a : Adapter) (number : Nat) (event : ResourceEvent) (order : List TenantId := []) : Adapter :=
  match a.channels[number]? with
  | some ⟨kind, _, false⟩ =>
    match a.sync.handle kind event order with
    | .ok (_, sync) => { a with sync }
    | .error _ => a.stop number
  | _ => a

/-- Sends events to the channel with the given number and waits until it has handled them. There is no answer when the channel
does not run and there is something to send. -/
def send (a : Adapter) (number : Nat) (events : List ResourceEvent) (order : List TenantId := []) : Option Adapter :=
  if a.isRunning number then some (events.foldl (fun a event => a.deliver number event order) a)
  else if events.isEmpty then some a
  else none

/-- Closes one watch. Answers why it could not be closed, if so. A channel is asked to end, unless it was asked before; when it
has ended already, that is reported. -/
def closeWatch (a : Adapter) : Watch → Option WatchError × Adapter
  | .channel number =>
    match a.channels[number]? with
    | some ⟨kind, false, ended⟩ => (if ended then some (.terminated kind) else none, a.ask number)
    | _ => (none, a)
  | .external _ kind fails => (if fails then some (.terminated kind) else none, a)

/-- Closes the given watches in order, whether or not one of them can be closed. -/
def closeEach (a : Adapter) : List Watch → List (Watch × Option WatchError) × Adapter
  | [] => ([], a)
  | w :: rest =>
    match a.closeWatch w with
    | (error, a') =>
      match a'.closeEach rest with
      | (log, a'') => ((w, error) :: log, a'')

/-- Closes every watch registered since the last closing. Answers for each of them why it could not be closed, if so. -/
def close (a : Adapter) : List (Watch × Option WatchError) × Adapter :=
  ({ a with watches := [] } : Adapter).closeEach a.watches

end Adapter

end TenantGateway
