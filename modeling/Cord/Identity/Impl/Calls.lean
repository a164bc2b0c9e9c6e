import Cord.Identity.Impl.Basic

/-!
This module contains the dispatchable calls of the identity pallet, and `reap_identity` which is
there for other pallets.
-/

open Frame

namespace Identity

variable {T : Config}

def depositEvent (event : Event T) : CallM T Unit :=
  modify fun s => { s with events := s.events ++ [event] }

def insertIdentity (who : T.AccountId) (registration : Registration T)
    (username : Option (Username T)) : CallM T Unit :=
  modify fun s => { s with identityOf := s.identityOf.insert who (registration, username) }

def insertSuper (sub : T.AccountId) (superAccount : T.AccountId) (data : Data) : CallM T Unit :=
  modify fun s => { s with superOf := s.superOf.insert sub (superAccount, data) }

def removeSuper (sub : T.AccountId) : CallM T Unit :=
  modify fun s => { s with superOf := s.superOf.remove sub }

def insertSubs (who : T.AccountId) (subs : BoundedVec T.AccountId T.maxSubAccounts.toNat)
    : CallM T Unit :=
  modify fun s => { s with subsOf := s.subsOf.insert who subs }

def putRegistrars (registrars : BoundedVec (Option (RegistrarInfo T)) T.maxRegistrars.toNat)
    : CallM T Unit :=
  modify fun s => { s with registrars }

def insertAuthority (authority : T.AccountId) (properties : AuthorityProperties T)
    : CallM T Unit :=
  modify fun s =>
    { s with usernameAuthorities := s.usernameAuthorities.insert authority properties }

def insertAccountOf (username : Username T) (who : T.AccountId) : CallM T Unit :=
  modify fun s => { s with accountOfUsername := s.accountOfUsername.insert username who }

def insertPending (username : Username T) (who : T.AccountId) (expiration : UInt32)
    : CallM T Unit :=
  modify fun s =>
    { s with pendingUsernames := s.pendingUsernames.insert username (who, expiration) }

def takePending (username : Username T) : CallM T (T.AccountId × UInt32) := do
  let pending ← okOr ((← get).pendingUsernames.get username) .noUsername
  modify fun s => { s with pendingUsernames := s.pendingUsernames.remove username }
  return pending

def lookup (source : T.LookupSource) : CallM T T.AccountId :=
  okOr (T.lookup source) .cannotLookup

def addRegistrar (origin : T.Origin) (account : T.LookupSource) : CallM T Unit := do
  ensureOrigin (T.registrarOrigin origin)
  let account ← lookup account
  let registrars := (← get).registrars
  ensure (!registrars.toList.any (hasAccount account)) .registrarAlreadyExists
  let registrars ←
    okOr (registrars.tryPush (some { account, fields := T.defaultFields })) .tooManyRegistrars
  putRegistrars registrars
  depositEvent (.registrarAdded (registrars.toList.length - 1).toUInt32)

def setIdentity (origin : T.Origin) (info : T.IdentityInformation) : CallM T Unit := do
  let sender ← ensureOrigin (T.ensureSigned origin)
  match (← get).identityOf.get sender with
  | some (id, username) =>
    let judgements := id.judgements.retain fun j => j.2.isSticky
    insertIdentity sender { judgements, info } username
  | none => insertIdentity sender { judgements := .empty, info } none
  depositEvent (.identitySet sender)

def removeSupers (superOf : StorageMap T.AccountId (T.AccountId × Data)) (subs : List T.AccountId)
    : StorageMap T.AccountId (T.AccountId × Data) :=
  subs.foldl (fun superOf sub => superOf.remove sub) superOf

def insertSupers (sender : T.AccountId) (superOf : StorageMap T.AccountId (T.AccountId × Data))
    (subs : List (T.AccountId × Data)) : StorageMap T.AccountId (T.AccountId × Data) :=
  subs.foldl (fun superOf sub => superOf.insert sub.1 (sender, sub.2)) superOf

def setSubs (origin : T.Origin) (subs : List (T.AccountId × Data)) : CallM T Unit := do
  -- The new list is built one by one in the source, which can not fail once its length is checked.
  let sender ← ensureOrigin (T.ensureSigned origin)
  ensure ((← get).identityOf.containsKey sender) .notFound
  let ids ← okOr (BoundedVec.tryFrom (subs.map Prod.fst)) .tooManySubAccounts
  let oldIds := (← get).subs sender
  let superOf := (← get).superOf
  ensure ((subs.filterMap fun i => superOf.get i.1).all fun i => i.1 = sender) .alreadyClaimed
  modify fun s =>
    {
      s with
      superOf := insertSupers sender (removeSupers s.superOf oldIds.toList) subs
      subsOf := if ids.toList.isEmpty then s.subsOf.remove sender else s.subsOf.insert sender ids
    }

def removeIdentity (who : T.AccountId) : CallM T (Option (Username T)) := do
  -- What `clear_identity`, `kill_identity` and `reap_identity` share.
  let subIds := (← get).subs who
  let (_, username) ← okOr ((← get).identityOf.get who) .noIdentity
  modify fun s =>
    {
      s with
      identityOf := s.identityOf.remove who
      subsOf := s.subsOf.remove who
      superOf := removeSupers s.superOf subIds.toList
    }
  return username

def removeUsername (username : Option (Username T)) : CallM T Unit :=
  match username with
  | some username =>
    modify fun s => { s with accountOfUsername := s.accountOfUsername.remove username }
  | none => pure ()

def clearIdentity (origin : T.Origin) : CallM T Unit := do
  let sender ← ensureOrigin (T.ensureSigned origin)
  let username ← removeIdentity sender
  removeUsername username
  depositEvent (.identityCleared sender)

def killIdentity (origin : T.Origin) (target : T.LookupSource) : CallM T Unit := do
  ensureOrigin (T.registrarOrigin origin)
  let target ← lookup target
  let username ← removeIdentity target
  removeUsername username
  depositEvent (.identityKilled target)

def reapIdentity (who : T.AccountId) : CallM T Unit := do
  let _ ← removeIdentity who

def searchJudgement (judgements : BoundedVec (T.AccountId × Judgement) T.maxRegistrars.toNat)
    (registrar : T.AccountId) : Except Nat Nat :=
  binarySearchByKey judgements.toList registrar Prod.fst

def judgementAt (judgements : BoundedVec (T.AccountId × Judgement) T.maxRegistrars.toNat) (i : Nat)
    : Judgement :=
  -- Only called with a position that a search has returned.
  match judgements.toList[i]? with
  | some (_, judgement) => judgement
  | none => .unknown

def putJudgement (judgements : BoundedVec (T.AccountId × Judgement) T.maxRegistrars.toNat)
    (registrar : T.AccountId) (judgement : Judgement)
    : Option (BoundedVec (T.AccountId × Judgement) T.maxRegistrars.toNat) :=
  match searchJudgement judgements registrar with
  | .ok i => some (judgements.modify i fun _ => (registrar, judgement))
  | .error i => judgements.tryInsert i (registrar, judgement)

def requestJudgement (origin : T.Origin) (registrar : T.AccountId) : CallM T Unit := do
  let sender ← ensureOrigin (T.ensureSigned origin)
  ensure ((← get).registrars.toList.any (hasAccount registrar)) .registrarNotFound
  let (id, username) ← okOr ((← get).identityOf.get sender) .noIdentity
  match searchJudgement id.judgements registrar with
  | .ok i => ensure (!(judgementAt id.judgements i).isSticky) .stickyJudgement
  | .error _ => pure ()
  let judgements ← okOr (putJudgement id.judgements registrar .requested) .tooManyRegistrars
  insertIdentity sender { id with judgements } username
  depositEvent (.judgementRequested sender registrar)

def cancelRequest (origin : T.Origin) (registrar : T.AccountId) : CallM T Unit := do
  let sender ← ensureOrigin (T.ensureSigned origin)
  let (id, username) ← okOr ((← get).identityOf.get sender) .noIdentity
  let pos ← mapErr (fun _ => .notFound) (searchJudgement id.judgements registrar)
  ensure (judgementAt id.judgements pos = .requested) .judgementGiven
  insertIdentity sender { id with judgements := id.judgements.remove pos } username
  depositEvent (.judgementUnrequested sender registrar)

def modifyRegistrar (who : T.AccountId) (f : RegistrarInfo T → RegistrarInfo T)
    : CallM T Unit := do
  -- The first registrar with the account of the sender is changed.
  let registrars := (← get).registrars
  let i ← okOr (registrars.toList.findIdx? (hasAccount who)) .registrarNotFound
  putRegistrars (registrars.modify i (Option.map f))

def setAccountId (origin : T.Origin) (new : T.LookupSource) : CallM T Unit := do
  let who ← ensureOrigin (T.ensureSigned origin)
  let new ← lookup new
  modifyRegistrar who fun registrar => { registrar with account := new }

def setFields (origin : T.Origin) (fields : T.FieldsIdentifier) : CallM T Unit := do
  let who ← ensureOrigin (T.ensureSigned origin)
  modifyRegistrar who fun registrar => { registrar with fields }

def provideJudgement (origin : T.Origin) (target : T.LookupSource) (judgement : Judgement)
    (identity : T.Hash) : CallM T Unit := do
  let registrar ← ensureOrigin (T.ensureSigned origin)
  let target ← lookup target
  ensure (!judgement.hasRequested) .invalidJudgement
  ensure ((← get).registrars.toList.any (hasAccount registrar)) .registrarNotFound
  let (id, username) ← okOr ((← get).identityOf.get target) .invalidTarget
  ensure (T.hashOf id.info = identity) .judgementForDifferentIdentity
  let judgements ← okOr (putJudgement id.judgements registrar judgement) .tooManyRegistrars
  insertIdentity target { id with judgements } username
  depositEvent (.judgementGiven target registrar)

def addSub (origin : T.Origin) (sub : T.LookupSource) (data : Data) : CallM T Unit := do
  let sender ← ensureOrigin (T.ensureSigned origin)
  let sub ← lookup sub
  ensure ((← get).identityOf.containsKey sender) .noIdentity
  ensure (!(← get).superOf.containsKey sub) .alreadyClaimed
  let subIds ← okOr (((← get).subs sender).tryPush sub) .tooManySubAccounts
  insertSuper sub sender data
  insertSubs sender subIds
  depositEvent (.subIdentityAdded sub sender)

def renameSub (origin : T.Origin) (sub : T.LookupSource) (data : Data) : CallM T Unit := do
  let sender ← ensureOrigin (T.ensureSigned origin)
  let sub ← lookup sub
  ensure ((← get).identityOf.containsKey sender) .noIdentity
  ensure (((← get).superOf.get sub).any fun x => x.1 = sender) .notOwned
  insertSuper sub sender data

def dropSub (superAccount sub : T.AccountId) : CallM T Unit := do
  removeSuper sub
  let subIds := (← get).subs superAccount
  insertSubs superAccount (subIds.retain fun x => x ≠ sub)

def removeSub (origin : T.Origin) (sub : T.LookupSource) : CallM T Unit := do
  let sender ← ensureOrigin (T.ensureSigned origin)
  ensure ((← get).identityOf.containsKey sender) .noIdentity
  let sub ← lookup sub
  let (superAccount, _) ← okOr ((← get).superOf.get sub) .notSub
  ensure (superAccount = sender) .notOwned
  dropSub superAccount sub
  depositEvent (.subIdentityRemoved sub sender)

def quitSub (origin : T.Origin) : CallM T Unit := do
  let sender ← ensureOrigin (T.ensureSigned origin)
  let (superAccount, _) ← okOr ((← get).superOf.get sender) .notSub
  dropSub superAccount sender
  depositEvent (.subIdentityRevoked sender superAccount)

def addUsernameAuthority (origin : T.Origin) (authority : T.LookupSource) (suffix : List UInt8)
    (allocation : UInt32) : CallM T Unit := do
  ensureOrigin (T.usernameAuthorityOrigin origin)
  let authority ← lookup authority
  mapErr (fun _ => .invalidSuffix) (validateSuffix suffix)
  let suffix ← okOr (BoundedVec.tryFrom suffix) .invalidSuffix
  insertAuthority authority { suffix, allocation }
  depositEvent (.authorityAdded authority)

def removeUsernameAuthority (origin : T.Origin) (authority : T.LookupSource) : CallM T Unit := do
  ensureOrigin (T.usernameAuthorityOrigin origin)
  let authority ← lookup authority
  ensure ((← get).usernameAuthorities.containsKey authority) .notUsernameAuthority
  modify fun s => { s with usernameAuthorities := s.usernameAuthorities.remove authority }
  depositEvent (.authorityRemoved authority)

def insertUsername (who : T.AccountId) (username : Username T) : CallM T Unit := do
  -- A primary username is kept, and an account without an identity gets a minimal one.
  let (reg, primaryUsername, newIsPrimary) :=
    match (← get).identityOf.get who with
    | some (reg, some primary) => (reg, primary, false)
    | some (reg, none) => (reg, username, true)
    | none => ({ judgements := .empty, info := T.defaultInformation }, username, true)
  insertIdentity who reg (some primaryUsername)
  insertAccountOf username who
  depositEvent (.usernameSet who username)
  if newIsPrimary then
    depositEvent (.primaryUsernameSet who username)

def queueAcceptance (who : T.AccountId) (username : Username T) : CallM T Unit := do
  let now := (← get).blockNumber
  let expiration := saturatingAdd32 now T.pendingUsernameExpiration
  insertPending username who expiration
  depositEvent (.usernameQueued who username expiration)

def takeAllocation (sender : T.AccountId) : CallM T (Suffix T) := do
  let properties ← okOr ((← get).usernameAuthorities.get sender) .notUsernameAuthority
  ensure (properties.allocation > 0) .noAllocation
  insertAuthority sender
    { properties with allocation := saturatingSub32 properties.allocation 1 }
  return properties.suffix

def setUsernameFor (origin : T.Origin) (who : T.LookupSource) (username : List UInt8)
    (signature : Option T.OffchainSignature) : CallM T Unit := do
  let sender ← ensureOrigin (T.ensureSigned origin)
  let suffix ← takeAllocation sender
  mapErr id (validateUsername T username (some (usernameLength T username suffix.toList)))
  let boundedUsername ←
    okOr (BoundedVec.tryFrom (fullUsername username suffix.toList)) .invalidUsername
  ensure (!(← get).accountOfUsername.containsKey boundedUsername) .usernameTaken
  ensure (!(← get).pendingUsernames.containsKey boundedUsername) .usernameTaken
  let who ← lookup who
  match signature with
  | some signature =>
    let encoded := T.encodeBytes boundedUsername.toList
    mapErr id (validateSignature encoded signature who)
    insertUsername who boundedUsername
  | none => queueAcceptance who boundedUsername

def acceptUsername (origin : T.Origin) (username : Username T) : CallM T Unit := do
  let who ← ensureOrigin (T.ensureSigned origin)
  let (approvedFor, _) ← takePending username
  ensure (approvedFor = who) .invalidUsername
  insertUsername who username
  depositEvent (.usernameSet who username)

def removeExpiredApproval (origin : T.Origin) (username : Username T) : CallM T Unit := do
  let _ ← ensureOrigin (T.ensureSigned origin)
  let (who, expiration) ← takePending username
  ensure ((← get).blockNumber > expiration) .notExpired
  depositEvent (.preapprovalExpired who)

def setPrimaryUsername (origin : T.Origin) (username : Username T) : CallM T Unit := do
  -- Whose username it is is not checked.
  let who ← ensureOrigin (T.ensureSigned origin)
  ensure ((← get).accountOfUsername.containsKey username) .noUsername
  let (registration, _) ← okOr ((← get).identityOf.get who) .noIdentity
  insertIdentity who registration (some username)
  depositEvent (.primaryUsernameSet who username)

def removeDanglingUsername (origin : T.Origin) (username : Username T) : CallM T Unit := do
  let _ ← ensureOrigin (T.ensureSigned origin)
  let who ← okOr ((← get).accountOfUsername.get username) .noUsername
  removeUsername (some username)
  ensure (!(← get).identityOf.containsKey who) .invalidUsername
  depositEvent (.danglingUsernameRemoved who username)

def removeRegistrar (origin : T.Origin) (account : T.LookupSource) : CallM T Unit := do
  ensureOrigin (T.registrarOrigin origin)
  let accountId ← lookup account
  let registrars := (← get).registrars
  let position ← okOr (registrars.toList.findIdx? (hasAccount accountId)) .registrarNotFound
  putRegistrars (registrars.remove position)
  depositEvent (.registrarRemoved accountId)

inductive Call (T : Config) where
  | addRegistrar (account : T.LookupSource)
  | setIdentity (info : T.IdentityInformation)
  | setSubs (subs : List (T.AccountId × Data))
  | clearIdentity
  | requestJudgement (registrar : T.AccountId)
  | cancelRequest (registrar : T.AccountId)
  | setAccountId (new : T.LookupSource)
  | setFields (fields : T.FieldsIdentifier)
  | provideJudgement (target : T.LookupSource) (judgement : Judgement) (identity : T.Hash)
  | killIdentity (target : T.LookupSource)
  | addSub (sub : T.LookupSource) (data : Data)
  | renameSub (sub : T.LookupSource) (data : Data)
  | removeSub (sub : T.LookupSource)
  | quitSub
  | addUsernameAuthority (authority : T.LookupSource) (suffix : List UInt8) (allocation : UInt32)
  | removeUsernameAuthority (authority : T.LookupSource)
  | setUsernameFor (who : T.LookupSource) (username : List UInt8)
      (signature : Option T.OffchainSignature)
  | acceptUsername (username : Username T)
  | removeExpiredApproval (username : Username T)
  | setPrimaryUsername (username : Username T)
  | removeDanglingUsername (username : Username T)
  | removeRegistrar (account : T.LookupSource)

def Call.dispatch (call : Call T) (origin : T.Origin) : CallM T Unit :=
  match call with
  | .addRegistrar account => Identity.addRegistrar origin account
  | .setIdentity info => Identity.setIdentity origin info
  | .setSubs subs => Identity.setSubs origin subs
  | .clearIdentity => Identity.clearIdentity origin
  | .requestJudgement registrar => Identity.requestJudgement origin registrar
  | .cancelRequest registrar => Identity.cancelRequest origin registrar
  | .setAccountId new => Identity.setAccountId origin new
  | .setFields fields => Identity.setFields origin fields
  | .provideJudgement target judgement identity =>
    Identity.provideJudgement origin target judgement identity
  | .killIdentity target => Identity.killIdentity origin target
  | .addSub sub data => Identity.addSub origin sub data
  | .renameSub sub data => Identity.renameSub origin sub data
  | .removeSub sub => Identity.removeSub origin sub
  | .quitSub => Identity.quitSub origin
  | .addUsernameAuthority authority suffix allocation =>
    Identity.addUsernameAuthority origin authority suffix allocation
  | .removeUsernameAuthority authority => Identity.removeUsernameAuthority origin authority
  | .setUsernameFor who username signature =>
    Identity.setUsernameFor origin who username signature
  | .acceptUsername username => Identity.acceptUsername origin username
  | .removeExpiredApproval username => Identity.removeExpiredApproval origin username
  | .setPrimaryUsername username => Identity.setPrimaryUsername origin username
  | .removeDanglingUsername username => Identity.removeDanglingUsername origin username
  | .removeRegistrar account => Identity.removeRegistrar origin account

/--
A call in a block, or another pallet that reaps an identity.
-/
inductive Extrinsic (T : Config) where
  | pallet (origin : T.Origin) (blockNumber : UInt32) (call : Call T)
  | reapIdentity (who : T.AccountId)

def Extrinsic.dispatch (ext : Extrinsic T) : CallM T Unit :=
  match ext with
  | .pallet origin blockNumber call => do
    modify fun s => { s with blockNumber }
    call.dispatch origin
  | .reapIdentity who => Identity.reapIdentity who

def machine (T : Config) : Machine (State T) Error (Extrinsic T) where
  dispatch := Extrinsic.dispatch

end Identity
