import Cord.Frame.Machine
import Cord.Identifier.Timeline

/-!
This module contains the update of a timeline as the identifier pallet executes it: the removal of an
event from a full timeline panics if there is no such event, and the update returns an error if the
timeline has no room for the event.
-/

open Frame

namespace Identifier

inductive UpdateError where
  | maxEventsHistoryExceeded
  | panic
  deriving DecidableEq, Repr

def UpdateError.mapErr (f : UpdateError → UpdateError) (err : UpdateError) : UpdateError :=
  -- `map_err` has no effect on a panic.
  match err with
  | .maxEventsHistoryExceeded => f .maxEventsHistoryExceeded
  | .panic => .panic

variable {T : Config}

abbrev UpdateM (T : Config) := DispatchM (Identifiers T) UpdateError

def removeEvent (events : BoundedVec EventEntry T.maxEventsHistory) (i : Nat)
    : UpdateM T (BoundedVec EventEntry T.maxEventsHistory) := do
  -- `events.remove(i)`
  ensure (i < events.toList.length) .panic
  return events.remove i

def Pallet.updateTimeline (id : T.Ss58Identifier) (idType : IdentifierTypeOf) (entry : EventEntry)
    : UpdateM T Unit := do
  let events := (← get).getD (id, idType) .empty
  let events ←
    if events.toList.length = T.maxEventsHistory then
      removeEvent events 1
    else
      pure events
  let events ← okOr (events.tryPush entry) .maxEventsHistoryExceeded
  modify fun identifiers => identifiers.insert (id, idType) events

def IdentifierTimeline.updateTimeline (id : T.Ss58Identifier) (idType : IdentifierTypeOf)
    (entry : EventEntry) : UpdateM T Unit :=
  zoom (fun identifiers => identifiers) (fun identifiers _ => identifiers)
    (UpdateError.mapErr fun _ => .maxEventsHistoryExceeded) (Pallet.updateTimeline id idType entry)

structure TimelineUpdate (T : Config) where
  id : T.Ss58Identifier
  idType : IdentifierTypeOf
  entry : EventEntry

def TimelineUpdate.key (update : TimelineUpdate T) : T.Ss58Identifier × IdentifierTypeOf :=
  (update.id, update.idType)

def timelineMachine (T : Config) : Machine (Identifiers T) UpdateError (TimelineUpdate T) where
  dispatch update := IdentifierTimeline.updateTimeline update.id update.idType update.entry

def eventsOf (key : T.Ss58Identifier × IdentifierTypeOf) (updates : List (TimelineUpdate T))
    : List EventEntry :=
  -- What the updates append to one timeline, in their order.
  (updates.filter fun update => update.key = key).map fun update => update.entry

end Identifier
