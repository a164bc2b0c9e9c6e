import Cord.Frame.Retention
import Cord.Identifier.Update

/-!
This module contains what a run of updates leaves in the timelines: the first event of an identifier and
the last ones that fit beside it. No update fails, and each one touches a single timeline.
-/

open Frame

namespace Identifier

variable {T : Config} {identifiers identifiers' : Identifiers T} {update : TimelineUpdate T}
  {key : T.Ss58Identifier × IdentifierTypeOf} {id : T.Ss58Identifier} {idType : IdentifierTypeOf}
  {entry : EventEntry} {u : Unit}

section AppendEvent

variable {events events' : BoundedVec EventEntry T.maxEventsHistory}

def appendEvent (events : BoundedVec EventEntry T.maxEventsHistory) (entry : EventEntry)
    : BoundedVec EventEntry T.maxEventsHistory where
  toList := Retention.push T.maxEventsHistory events.toList entry
  length_le := Retention.length_push_le T.two_le_maxEventsHistory events.length_le entry

@[simp]
theorem toList_appendEvent (events : BoundedVec EventEntry T.maxEventsHistory) (entry : EventEntry)
    : (appendEvent events entry).toList =
        Retention.push T.maxEventsHistory events.toList entry := rfl

theorem toList_foldl_appendEvent (entries : List EventEntry)
    (events : BoundedVec EventEntry T.maxEventsHistory)
    : (entries.foldl appendEvent events).toList =
        entries.foldl (Retention.push T.maxEventsHistory) events.toList :=
  (List.foldl_hom BoundedVec.toList toList_appendEvent).symm

/-
A full timeline has a second event to remove, and in any case there is room for the event then.
-/
theorem tryPush_of_full (h : events.toList.length = T.maxEventsHistory)
    : (events.remove 1).tryPush entry = some (appendEvent events entry) := by
  apply BoundedVec.tryPush_of_toList
  rw [toList_appendEvent, Retention.push, if_pos h, BoundedVec.toList_remove]

theorem tryPush_of_not_full (h : events.toList.length ≠ T.maxEventsHistory)
    : events.tryPush entry = some (appendEvent events entry) := by
  apply BoundedVec.tryPush_of_toList
  rw [toList_appendEvent, Retention.push, if_neg h]

@[simp]
theorem removeEvent_iff {i : Nat}
    : Succeeds (removeEvent events i) identifiers events' identifiers'
        ↔
      (i < events.toList.length ∧ events' = events.remove i) ∧ identifiers' = identifiers := by
  simp only [removeEvent, Succeeds.bind_iff, Succeeds.ensure_iff, Succeeds.pure_iff, and_assoc,
    exists_and_left, exists_eq_left, exists_const]

end AppendEvent

def TimelineUpdate.apply (update : TimelineUpdate T) (identifiers : Identifiers T) : Identifiers T :=
  identifiers.insert update.key
    (appendEvent (identifiers.getD update.key .empty) update.entry)

theorem updateTimeline_eq_some (id : T.Ss58Identifier) (idType : IdentifierTypeOf)
    (entry : EventEntry)
    : updateTimeline identifiers id idType entry =
        some (TimelineUpdate.apply ⟨id, idType, entry⟩ identifiers) := by
  unfold updateTimeline
  dsimp only
  split
  . next h =>
    rw [tryPush_of_full h]
    rfl
  . next h =>
    rw [tryPush_of_not_full h]
    rfl

theorem pallet_updateTimeline_iff
    : Succeeds (Pallet.updateTimeline id idType entry) identifiers u identifiers'
        ↔
      updateTimeline identifiers id idType entry = some identifiers' := by
  rw [updateTimeline_eq_some, Option.some.injEq, eq_comm (b := identifiers')]
  simp only [Pallet.updateTimeline, Succeeds.bind_iff, Succeeds.get_iff, Succeeds.ite_iff,
    removeEvent_iff, Succeeds.pure_iff, Succeeds.okOr_iff, Succeeds.modify_iff, and_assoc,
    exists_and_left, exists_eq_left]
  by_cases h : (identifiers.getD (id, idType) .empty).toList.length = T.maxEventsHistory
  . -- A full timeline has a second event, so its removal does not panic.
    have hone : 1 < T.maxEventsHistory := T.two_le_maxEventsHistory
    simp only [h, hone, tryPush_of_full h, true_and, not_true_eq_false, false_and, or_false,
      Option.some.injEq, exists_eq_left']
    rfl
  . simp only [h, tryPush_of_not_full h, false_and, not_false_eq_true, true_and, false_or,
      Option.some.injEq, exists_eq_left']
    rfl

theorem dispatch_iff
    : Succeeds ((timelineMachine T).dispatch update) identifiers u identifiers'
        ↔
      identifiers' = update.apply identifiers := by
  simp only [timelineMachine, IdentifierTimeline.updateTimeline, Succeeds.zoom_iff,
    exists_eq_right', pallet_updateTimeline_iff, updateTimeline_eq_some, Option.some.injEq]
  exact eq_comm

@[simp]
theorem next_eq_apply : (timelineMachine T).next identifiers update = update.apply identifiers :=
  Machine.next_of_succeeds (dispatch_iff.mpr rfl)

theorem accepts_update (identifiers : Identifiers T) (update : TimelineUpdate T)
    : (timelineMachine T).accepts identifiers update = true :=
  Machine.accepts_iff_exists.mpr ⟨_, dispatch_iff.mpr rfl⟩

theorem get_apply
    : (update.apply identifiers).get key =
        if update.key = key then
          some (appendEvent ((identifiers.get key).getD .empty) update.entry)
        else
          identifiers.get key := by
  unfold TimelineUpdate.apply
  rw [StorageMap.get_insert]
  by_cases h : update.key = key
  . rw [if_pos h, if_pos h.symm, h]
    rfl
  . rw [if_neg h, if_neg (Ne.symm h)]

/-
A run leaves in each timeline what its own events leave there one after the other.
-/
theorem get_run (updates : List (TimelineUpdate T)) (identifiers : Identifiers T)
    (key : T.Ss58Identifier × IdentifierTypeOf)
    : ((timelineMachine T).run identifiers updates).get key =
        (eventsOf key updates).foldl
          (fun events entry => some (appendEvent (events.getD .empty) entry))
          (identifiers.get key) := by
  induction updates generalizing identifiers with
  | nil => rfl
  | cons update updates ih =>
    rw [Machine.run_cons, ih, next_eq_apply, get_apply]
    unfold eventsOf
    by_cases h : update.key = key
    . simp [h]
    . simp [h]

theorem foldl_some (entries : List EventEntry) (events : BoundedVec EventEntry T.maxEventsHistory)
    : entries.foldl (fun events entry => some (appendEvent (events.getD .empty) entry)) (some events) =
        some (entries.foldl appendEvent events) :=
  List.foldl_hom some fun _ _ => rfl

/--
Every update is accepted. A timeline without updates stays as it was, and one that starts with them
holds its first event and then the last of the others, as many as fit.
-/
theorem run_timeline (identifiers : Identifiers T) (updates : List (TimelineUpdate T))
    : (timelineMachine T).rejected identifiers updates = [] ∧
      ∀ key,
        (eventsOf key updates = [] →
          ((timelineMachine T).run identifiers updates).get key = identifiers.get key) ∧
        ∀ first rest, identifiers.get key = none → eventsOf key updates = first :: rest →
          ∃ events, ((timelineMachine T).run identifiers updates).get key = some events ∧
            events.toList =
              first :: rest.rtake (min (first :: rest).length T.maxEventsHistory - 1) := by
  refine ⟨(timelineMachine T).rejected_eq_nil accepts_update identifiers updates, ?_⟩
  intro key
  rw [get_run]
  constructor
  . intro h
    rw [h, List.foldl_nil]
  . intro first rest hnone h
    refine ⟨_, by rw [h, hnone, List.foldl_cons, foldl_some], ?_⟩
    have htwo := T.two_le_maxEventsHistory
    have hpush : Retention.push T.maxEventsHistory [] first = [first] := if_neg (by rw [List.length_nil]; omega)
    have hmin : min (first :: rest).length T.maxEventsHistory - 1 =
        min rest.length (T.maxEventsHistory - 1) := by
      rw [List.length_cons]
      omega
    rw [toList_foldl_appendEvent, toList_appendEvent, hmin, rtake_min]
    rw [← Retention.foldl_push htwo, ← hpush]
    rfl

end Identifier
