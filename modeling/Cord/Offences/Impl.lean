import Cord.Authorities.Impl.Basic
import Cord.Frame.StorageMap

/-!
This module contains the offences pallet, which stores reports of offences and passes them on to a
handler. A report that fails is not rolled back, so `reportOffence` returns a state in any case.
-/

open Frame
open Authorities (SlashStrategy)

namespace Offences

abbrev Kind := Vector UInt8 16

abbrev OpaqueTimeSlot := List UInt8

structure OffenceDetails (Reporter Offender : Type) where
  offender : Offender
  reporters : List Reporter
  deriving DecidableEq

/--
What the runtime provides to the pallet. `encodeReport` is the encoding of a kind, an encoded time
slot and an offender as a tuple. The handler has a state of its own.
-/
structure Config where
  AccountId : Type
  IdentificationTuple : Type
  Hash : Type
  [decEqHash : DecidableEq Hash]
  encodeReport : Kind → OpaqueTimeSlot → IdentificationTuple → List UInt8
  hash : List UInt8 → Hash
  Handler : Type
  onOffence : List (OffenceDetails AccountId IdentificationTuple) → SlashStrategy → UInt32 →
    Handler → Handler

instance (T : Config) : DecidableEq T.Hash := T.decEqHash

/--
A configuration to evaluate reports in. Accounts are single bytes, nothing is lost by hashing and the
handler keeps those it was called with last.
-/
abbrev Config.plain : Config where
  AccountId := UInt8
  IdentificationTuple := UInt8
  Hash := List UInt8
  encodeReport kind timeSlot offender :=
    kind.toList ++ (4 * timeSlot.length).toUInt8 :: timeSlot ++ [offender]
  hash := id
  Handler := List UInt8
  onOffence offenders _ _ _ := offenders.map OffenceDetails.offender

inductive OffenceError where
  | duplicateReport
  | other (code : UInt8)
  deriving DecidableEq, Repr

inductive Event where
  | offence (kind : Kind) (timeslot : OpaqueTimeSlot)
  deriving DecidableEq

/--
What the pallet asks an offence for. Of the time slot only the encoding is used.
-/
structure Offence (T : Config) where
  id : Kind
  timeSlot : OpaqueTimeSlot
  offenders : List T.IdentificationTuple
  sessionIndex : UInt32

abbrev ReportMap (T : Config) :=
  StorageMap T.Hash (OffenceDetails T.AccountId T.IdentificationTuple)

structure State (T : Config) where
  reports : ReportMap T
  concurrentReportsIndex : StorageMap (Kind × OpaqueTimeSlot) (List T.Hash)
  handler : T.Handler
  events : List Event

def State.genesis {T : Config} (handler : T.Handler) : State T where
  reports := ∅
  concurrentReportsIndex := ∅
  handler
  events := []

def reportId (T : Config) (kind : Kind) (timeSlot : OpaqueTimeSlot)
    (offender : T.IdentificationTuple) : T.Hash :=
  T.hash (T.encodeReport kind timeSlot offender)

variable {T : Config}

def State.concurrentReports (s : State T) (kind : Kind) (timeSlot : OpaqueTimeSlot) : List T.Hash :=
  s.concurrentReportsIndex.getD (kind, timeSlot) []

def State.isKnownOffence (s : State T) (kind : Kind) (offenders : List T.IdentificationTuple)
    (timeSlot : OpaqueTimeSlot) : Bool :=
  let anyUnknown := offenders.any fun offender =>
    !s.reports.containsKey (reportId T kind timeSlot offender)
  !anyUnknown

/--
The loop over the offenders of a report writes to `Reports` at once, and to a copy of the index that is
saved when the loop is through.
-/
structure Triage (T : Config) where
  reports : ReportMap T
  concurrentReports : List T.Hash
  anyNew : Bool

def Triage.visit (kind : Kind) (timeSlot : OpaqueTimeSlot) (reporters : List T.AccountId)
    (t : Triage T) (offender : T.IdentificationTuple) : Triage T :=
  let reportId := reportId T kind timeSlot offender
  if !t.reports.containsKey reportId then
    {
      reports := t.reports.insert reportId { offender, reporters }
      concurrentReports := t.concurrentReports ++ [reportId]
      anyNew := true
    }
  else
    t

def State.load (s : State T) (kind : Kind) (timeSlot : OpaqueTimeSlot) : Triage T where
  reports := s.reports
  concurrentReports := s.concurrentReports kind timeSlot
  anyNew := false

def triageOffenceReport (kind : Kind) (reporters : List T.AccountId) (timeSlot : OpaqueTimeSlot)
    (offenders : List T.IdentificationTuple) (s : State T)
    : Option (List (OffenceDetails T.AccountId T.IdentificationTuple)) × State T :=
  let t := offenders.foldl (Triage.visit kind timeSlot reporters) (s.load kind timeSlot)
  let s := { s with reports := t.reports }
  if t.anyNew then
    let concurrentOffenders := t.concurrentReports.filterMap t.reports.get
    let index := s.concurrentReportsIndex.insert (kind, timeSlot) t.concurrentReports
    (some concurrentOffenders, { s with concurrentReportsIndex := index })
  else
    (none, s)

def imOnline : Kind :=
  -- `im-online:offlin`
  #v[105, 109, 45, 111, 110, 108, 105, 110, 101, 58, 111, 102, 102, 108, 105, 110]

def slashStrategy (kind : Kind) : SlashStrategy :=
  if kind = imOnline then .disconnect else .blackList

def reportOffence (reporters : List T.AccountId) (offence : Offence T) (s : State T)
    : Except OffenceError Unit × State T :=
  match triageOffenceReport offence.id reporters offence.timeSlot offence.offenders s with
  | (some concurrentOffenders, s) =>
    let handler :=
      T.onOffence concurrentOffenders (slashStrategy offence.id) offence.sessionIndex s.handler
    let events := s.events ++ [.offence offence.id offence.timeSlot]
    (.ok (), { s with handler, events })
  | (none, s) => (.error .duplicateReport, s)

structure Report (T : Config) where
  reporters : List T.AccountId
  offence : Offence T

def Report.file (report : Report T) (s : State T) : Except OffenceError Unit × State T :=
  reportOffence report.reporters report.offence s

def run (s : State T) (reports : List (Report T)) : State T :=
  reports.foldl (fun s report => (report.file s).2) s

end Offences
