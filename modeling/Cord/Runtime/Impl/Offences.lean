import Cord.Authorities.Impl.Calls
import Cord.Offences.Impl

/-!
This module puts the offences pallet and the authorities pallet together: the reports of offences are passed
on to the authorities pallet, which identifies the offenders by the first component of what is
reported.
-/

open Frame

namespace Runtime

structure OffenceConfig where
  authorities : Authorities.Config
  FullIdentification : Type
  Hash : Type
  [decEqHash : DecidableEq Hash]
  encodeReport : Offences.Kind → Offences.OpaqueTimeSlot →
    authorities.ValidatorId × FullIdentification → List UInt8
  hash : List UInt8 → Hash

abbrev OffenceConfig.offences (T : OffenceConfig) : Offences.Config where
  AccountId := T.authorities.AccountId
  IdentificationTuple := T.authorities.ValidatorId × T.FullIdentification
  Hash := T.Hash
  decEqHash := T.decEqHash
  encodeReport := T.encodeReport
  hash := T.hash
  Handler := Authorities.State T.authorities
  onOffence offenders strategy _ :=
    Authorities.onOffence (offenders.map fun details => details.offender.1) strategy

abbrev OffenceConfig.plain : OffenceConfig where
  authorities := .plain 1
  FullIdentification := Unit
  Hash := List UInt8
  encodeReport kind timeSlot offender :=
    kind.toList ++ (4 * timeSlot.length).toUInt8 :: timeSlot ++ [Nat.toUInt8 offender.1]
  hash := id

/--
The state of the authorities pallet is that of the handler.
-/
abbrev OffenceState (T : OffenceConfig) : Type := Offences.State T.offences

def OffenceState.genesis {T : OffenceConfig} (initialAuthorities : List T.authorities.ValidatorId)
    : OffenceState T :=
  Offences.State.genesis (Authorities.State.genesis initialAuthorities)

inductive OffenceStep (T : OffenceConfig) where
  | extrinsic (origin : T.authorities.Origin) (isMember : T.authorities.AccountId → Bool)
    (call : Authorities.Call T.authorities)
  | report (report : Offences.Report T.offences)
  | rotate

variable {T : OffenceConfig}

def authorities {α : Type} (x : Authorities.CallM T.authorities α)
    : DispatchM (OffenceState T) Authorities.Error α :=
  zoom Offences.State.handler (fun handler s => { s with handler }) id x

def OffenceStep.dispatch : OffenceStep T → DispatchM (OffenceState T) Authorities.Error Unit
  | .extrinsic origin isMember call =>
    authorities (Authorities.Step.dispatch (.extrinsic origin isMember call))
  -- The result of a report is returned to those who report it, what was written stays in any case.
  | .report r => modify fun s => (r.file s).2
  | .rotate => authorities (Authorities.Step.dispatch .rotate)

def offenceMachine (T : OffenceConfig)
    : Machine (OffenceState T) Authorities.Error (OffenceStep T) where
  dispatch := OffenceStep.dispatch

end Runtime
