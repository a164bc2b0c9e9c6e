import Cord.DidName.Impl.Basic

/-!
This module contains the dispatchable calls of the DID name pallet.
-/

open Frame

namespace DidName

variable {T : Config}

abbrev DidNameInput (T : Config) := BoundedVec UInt8 T.maxNameLength.toNat

def depositEvent (event : Event T) : CallM T Unit :=
  modify fun s => { s with events := s.events ++ [event] }

def checkClaimingPreconditions (nameInput : DidNameInput T) (owner : T.DidNameOwner)
    : CallM T T.Name := do
  let name ← mapErr .error (T.tryFrom nameInput.toList)
  ensure (!(← get).names.containsKey owner) (.error .ownerAlreadyExists)
  ensure (!(← get).owner.containsKey name) (.error .alreadyExists)
  ensure (!(← get).banned.containsKey name) (.error .banned)
  return name

def registerName (name : T.Name) (owner : T.DidNameOwner) : CallM T Unit :=
  modify fun s =>
    {
      s with
      names := s.names.insert owner name
      owner := s.owner.insert name { owner, registeredAt := s.blockNumber }
    }

def checkReleasingPreconditions (owner : T.DidNameOwner) : CallM T T.Name := do
  okOr ((← get).names.get owner) (.error .ownerNotFound)

def unregisterName (name : T.Name) : CallM T (DidNameOwnership T) := do
  -- `Owner::take(name).unwrap()`
  let nameOwnership ← okOr ((← get).owner.get name) .panic
  modify fun s =>
    { s with owner := s.owner.remove name, names := s.names.remove nameOwnership.owner }
  return nameOwnership

def checkBanningPreconditions (nameInput : DidNameInput T) : CallM T (T.Name × Bool) := do
  let name ← mapErr .error (T.tryFrom nameInput.toList)
  ensure (!(← get).banned.containsKey name) (.error .alreadyBanned)
  let isClaimed := (← get).owner.containsKey name
  return (name, isClaimed)

def banName (name : T.Name) : CallM T Unit :=
  modify fun s => { s with banned := s.banned.insert name () }

def checkUnbanningPreconditions (nameInput : DidNameInput T) : CallM T T.Name := do
  let name ← mapErr .error (T.tryFrom nameInput.toList)
  ensure ((← get).banned.containsKey name) (.error .notBanned)
  return name

def unbanName (name : T.Name) : CallM T Unit :=
  modify fun s => { s with banned := s.banned.remove name }

def register (origin : T.Origin) (name : DidNameInput T) : CallM T Unit := do
  let owner ← ensureOrigin (T.ensureOrigin origin)
  let decodedName ← checkClaimingPreconditions name owner
  registerName decodedName owner
  depositEvent (.didNameRegistered owner decodedName)

def release (origin : T.Origin) : CallM T Unit := do
  let owner ← ensureOrigin (T.ensureOrigin origin)
  let ownedName ← checkReleasingPreconditions owner
  let _ ← unregisterName ownedName
  depositEvent (.didNameReleased owner ownedName)

def ban (origin : T.Origin) (name : DidNameInput T) : CallM T Unit := do
  ensureOrigin (T.banOrigin origin)
  let (decodedName, isClaimed) ← checkBanningPreconditions name
  if isClaimed then
    let _ ← unregisterName decodedName
  banName decodedName
  depositEvent (.didNameBanned decodedName)

def unban (origin : T.Origin) (name : DidNameInput T) : CallM T Unit := do
  ensureOrigin (T.banOrigin origin)
  let decodedName ← checkUnbanningPreconditions name
  unbanName decodedName
  depositEvent (.didNameUnbanned decodedName)

inductive Call (T : Config) where
  | register (name : DidNameInput T)
  | release
  | ban (name : DidNameInput T)
  | unban (name : DidNameInput T)

def Call.dispatch (origin : T.Origin) : Call T → CallM T Unit
  | .register name => DidName.register origin name
  | .release => DidName.release origin
  | .ban name => DidName.ban origin name
  | .unban name => DidName.unban origin name

structure Extrinsic (T : Config) where
  origin : T.Origin
  blockNumber : UInt32
  call : Call T

def Extrinsic.dispatch (ext : Extrinsic T) : CallM T Unit := do
  modify fun s => { s with blockNumber := ext.blockNumber }
  ext.call.dispatch ext.origin

def machine (T : Config) : Machine (State T) Failure (Extrinsic T) where
  dispatch := Extrinsic.dispatch

end DidName
