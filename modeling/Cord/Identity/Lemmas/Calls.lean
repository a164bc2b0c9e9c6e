import Cord.Identity.Impl.Calls

/-!
This module contains what the calls of the identity pallet do to its storages. An `Effect` says for
a successful call what it has found and what it has written, what holds in every run is then shown
by cases on it.
-/

open Frame

namespace Identity

variable {T : Config} {s s' : State T} {u : Unit}

section Statements

@[simp]
theorem depositEvent_iff {event : Event T}
    : Succeeds (depositEvent event) s u s' ↔ s' = { s with events := s.events ++ [event] } := by
  simp [depositEvent]

@[simp]
theorem insertIdentity_iff {who : T.AccountId} {registration : Registration T}
    {username : Option (Username T)}
    : Succeeds (insertIdentity who registration username) s u s' ↔
        s' = { s with identityOf := s.identityOf.insert who (registration, username) } := by
  simp [insertIdentity]

@[simp]
theorem insertSuper_iff {sub superAccount : T.AccountId} {data : Data}
    : Succeeds (insertSuper sub superAccount data) s u s' ↔
        s' = { s with superOf := s.superOf.insert sub (superAccount, data) } := by
  simp [insertSuper]

@[simp]
theorem insertSubs_iff {who : T.AccountId} {subs : BoundedVec T.AccountId T.maxSubAccounts.toNat}
    : Succeeds (insertSubs who subs) s u s' ↔
        s' = { s with subsOf := s.subsOf.insert who subs } := by
  simp [insertSubs]

@[simp]
theorem putRegistrars_iff
    {registrars : BoundedVec (Option (RegistrarInfo T)) T.maxRegistrars.toNat}
    : Succeeds (putRegistrars registrars) s u s' ↔ s' = { s with registrars } := by
  simp [putRegistrars]

@[simp]
theorem insertAuthority_iff {authority : T.AccountId} {properties : AuthorityProperties T}
    : Succeeds (insertAuthority authority properties) s u s' ↔
        s' =
          { s with usernameAuthorities := s.usernameAuthorities.insert authority properties } := by
  simp [insertAuthority]

@[simp]
theorem lookup_iff {source : T.LookupSource} {who : T.AccountId}
    : Succeeds (lookup source) s who s' ↔ T.lookup source = some who ∧ s' = s := by
  simp [lookup]

@[simp]
theorem takePending_iff {username : Username T} {pending : T.AccountId × UInt32}
    : Succeeds (takePending username) s pending s' ↔
        s.pendingUsernames.get username = some pending ∧
          s' = { s with pendingUsernames := s.pendingUsernames.remove username } := by
  simp only [takePending, Succeeds.bind_iff, Succeeds.get_iff, Succeeds.okOr_iff,
    Succeeds.modify_iff, Succeeds.pure_iff]
  constructor
  . rintro ⟨_, _, ⟨rfl, rfl⟩, _, _, ⟨hget, rfl⟩, _, _, rfl, rfl, rfl⟩
    exact ⟨hget, rfl⟩
  . rintro ⟨hget, rfl⟩
    exact ⟨s, s, ⟨rfl, rfl⟩, pending, s, ⟨hget, rfl⟩, (), _, rfl, rfl, rfl⟩

@[simp]
theorem dropSub_iff {superAccount sub : T.AccountId}
    : Succeeds (dropSub superAccount sub) s u s' ↔
        s' =
          { s with
            superOf := s.superOf.remove sub
            subsOf := s.subsOf.insert superAccount
              ((s.subs superAccount).retain fun x => x ≠ sub) } := by
  simp only [dropSub, removeSuper, Succeeds.bind_iff, Succeeds.get_iff, Succeeds.modify_iff,
    insertSubs_iff]
  constructor
  . rintro ⟨_, _, rfl, _, _, ⟨rfl, rfl⟩, rfl⟩
    rfl
  . rintro rfl
    exact ⟨(), _, rfl, _, _, ⟨rfl, rfl⟩, rfl⟩

@[simp]
theorem modifyRegistrar_iff {who : T.AccountId} {f : RegistrarInfo T → RegistrarInfo T}
    : Succeeds (modifyRegistrar who f) s u s' ↔
        ∃ i, s.registrars.toList.findIdx? (hasAccount who) = some i ∧
          s' = { s with registrars := s.registrars.modify i (Option.map f) } := by
  simp only [modifyRegistrar, Succeeds.bind_iff, Succeeds.get_iff, Succeeds.okOr_iff,
    putRegistrars_iff]
  constructor
  . rintro ⟨_, _, ⟨rfl, rfl⟩, i, _, ⟨hi, rfl⟩, rfl⟩
    exact ⟨i, hi, rfl⟩
  . rintro ⟨i, hi, rfl⟩
    exact ⟨s, s, ⟨rfl, rfl⟩, i, s, ⟨hi, rfl⟩, rfl⟩

@[simp]
theorem takeAllocation_iff {sender : T.AccountId} {suffix : Suffix T}
    : Succeeds (takeAllocation sender) s suffix s' ↔
        ∃ properties, s.usernameAuthorities.get sender = some properties ∧
          0 < properties.allocation ∧ suffix = properties.suffix ∧
          s' =
            { s with
              usernameAuthorities := s.usernameAuthorities.insert sender
                { properties with allocation := saturatingSub32 properties.allocation 1 } } := by
  simp only [takeAllocation, Succeeds.bind_iff, Succeeds.get_iff, Succeeds.okOr_iff,
    Succeeds.ensure_iff, insertAuthority_iff, Succeeds.pure_iff]
  constructor
  . rintro ⟨_, _, ⟨rfl, rfl⟩, properties, _, ⟨hget, rfl⟩, _, _, ⟨hpos, rfl⟩, _, _, rfl, rfl, rfl⟩
    exact ⟨properties, hget, hpos, rfl, rfl⟩
  . rintro ⟨properties, hget, hpos, rfl, rfl⟩
    exact ⟨s, s, ⟨rfl, rfl⟩, properties, s, ⟨hget, rfl⟩, (), s, ⟨hpos, rfl⟩, (), _, rfl, rfl, rfl⟩

def forget (accountOf : StorageMap (Username T) T.AccountId) (username : Option (Username T))
    : StorageMap (Username T) T.AccountId :=
  match username with
  | some username => accountOf.remove username
  | none => accountOf

theorem get_forget (accountOf : StorageMap (Username T) T.AccountId)
    (username : Option (Username T)) (name : Username T)
    : (forget accountOf username).get name =
        if username = some name then none else accountOf.get name := by
  cases username with
  | none => simp [forget]
  | some username => simp [forget, StorageMap.get_remove, eq_comm]

@[simp]
theorem removeUsername_iff {username : Option (Username T)}
    : Succeeds (removeUsername username) s u s' ↔
        s' = { s with accountOfUsername := forget s.accountOfUsername username } := by
  cases username with
  | none => simp [removeUsername, forget]
  | some username => simp [removeUsername, forget]

def State.withoutIdentity (s : State T) (who : T.AccountId) : State T :=
  { s with
    identityOf := s.identityOf.remove who
    subsOf := s.subsOf.remove who
    superOf := removeSupers s.superOf (s.subs who).toList }

@[simp]
theorem removeIdentity_iff {who : T.AccountId} {username : Option (Username T)}
    : Succeeds (removeIdentity who) s username s' ↔
        ∃ id, s.identityOf.get who = some (id, username) ∧ s' = s.withoutIdentity who := by
  simp only [removeIdentity, Succeeds.bind_iff, Succeeds.get_iff, Succeeds.okOr_iff,
    Succeeds.modify_iff, Succeeds.pure_iff]
  constructor
  . rintro ⟨_, _, ⟨rfl, rfl⟩, _, _, ⟨rfl, rfl⟩, ⟨id, _⟩, _, ⟨hget, rfl⟩, _, _, rfl, rfl, rfl⟩
    exact ⟨id, hget, rfl⟩
  . rintro ⟨id, hget, rfl⟩
    exact ⟨s, s, ⟨rfl, rfl⟩, s, s, ⟨rfl, rfl⟩, (id, username), s, ⟨hget, rfl⟩, (), _, rfl, rfl, rfl⟩

-- The registration and the primary username of an account that has got a username.
inductive Named (identityOf : StorageMap T.AccountId (Registration T × Option (Username T)))
    (who : T.AccountId) (username : Username T) : Registration T → Username T → Prop where
  | kept {reg : Registration T} {primary : Username T}
      (stored : identityOf.get who = some (reg, some primary))
      : Named identityOf who username reg primary
  | first {reg : Registration T} (stored : identityOf.get who = some (reg, none))
      : Named identityOf who username reg username
  | fresh (unnamed : identityOf.get who = none)
      : Named identityOf who username
          { judgements := .empty, info := T.defaultInformation } username

theorem insertUsername_spec {who : T.AccountId} {username : Username T}
    (h : Succeeds (insertUsername who username) s u s')
    : ∃ reg primary events, Named s.identityOf who username reg primary ∧
        s' =
          { s with
            identityOf := s.identityOf.insert who (reg, some primary)
            accountOfUsername := s.accountOfUsername.insert username who
            events } := by
  simp only [insertUsername, insertAccountOf, Succeeds.bind_iff, Succeeds.get_iff,
    Succeeds.modify_iff, insertIdentity_iff, depositEvent_iff, Succeeds.ite_iff,
    Succeeds.pure_iff, and_assoc, exists_and_left, exists_eq_left, exists_const] at h
  cases hget : s.identityOf.get who with
  | some identity =>
    obtain ⟨reg, primary⟩ := identity
    cases primary with
    | some primary =>
      rw [hget] at h
      obtain ⟨_, rfl⟩ | ⟨_, _, rfl⟩ := h
      . exact ⟨reg, primary, _, .kept hget, rfl⟩
      . exact ⟨reg, primary, _, .kept hget, rfl⟩
    | none =>
      rw [hget] at h
      obtain ⟨_, rfl⟩ | ⟨_, _, rfl⟩ := h
      . exact ⟨reg, username, _, .first hget, rfl⟩
      . exact ⟨reg, username, _, .first hget, rfl⟩
  | none =>
    rw [hget] at h
    obtain ⟨_, rfl⟩ | ⟨_, _, rfl⟩ := h
    . exact ⟨_, username, _, .fresh hget, rfl⟩
    . exact ⟨_, username, _, .fresh hget, rfl⟩

@[simp]
theorem queueAcceptance_iff {who : T.AccountId} {username : Username T}
    : Succeeds (queueAcceptance who username) s u s' ↔
        s' =
          { s with
            pendingUsernames := s.pendingUsernames.insert username
              (who, saturatingAdd32 s.blockNumber T.pendingUsernameExpiration)
            events := s.events ++ [.usernameQueued who username
              (saturatingAdd32 s.blockNumber T.pendingUsernameExpiration)] } := by
  simp only [queueAcceptance, insertPending, Succeeds.bind_iff, Succeeds.get_iff,
    Succeeds.modify_iff, depositEvent_iff]
  constructor
  . rintro ⟨_, _, ⟨rfl, rfl⟩, _, _, rfl, rfl⟩
    rfl
  . rintro rfl
    exact ⟨s, s, ⟨rfl, rfl⟩, (), _, rfl, rfl⟩

end Statements

section Calls

variable {origin : T.Origin} {n : UInt32}

def Extrinsic.cleared (ext : Extrinsic T) : Option T.AccountId :=
  -- The account whose identity is taken away together with its primary username.
  match ext with
  | .pallet origin _ .clearIdentity => T.ensureSigned origin
  | .pallet _ _ (.killIdentity target) => T.lookup target
  | _ => none

/--
What a successful call has found in the storages and what it has written to them.
-/
inductive Effect (s : State T) : Extrinsic T → State T → Prop where
  | addRegistrar {origin : T.Origin} {n : UInt32} {source : T.LookupSource} {account : T.AccountId}
      {registrars : BoundedVec (Option (RegistrarInfo T)) T.maxRegistrars.toNat}
      {events : List (Event T)}
      (lookup : T.lookup source = some account)
      (fresh : s.registrars.toList.any (hasAccount account) = false)
      (pushed : registrars.toList =
        s.registrars.toList ++ [some { account, fields := T.defaultFields }])
      : Effect s (.pallet origin n (.addRegistrar source))
          { s with registrars, blockNumber := n, events }
  | setAccountId {origin : T.Origin} {n : UInt32} {source : T.LookupSource} {who new : T.AccountId}
      {i : Nat} {events : List (Event T)}
      (signed : T.ensureSigned origin = some who)
      (lookup : T.lookup source = some new)
      (found : s.registrars.toList.findIdx? (hasAccount who) = some i)
      : Effect s (.pallet origin n (.setAccountId source))
          { s with
            registrars := s.registrars.modify i (Option.map fun r => { r with account := new })
            blockNumber := n
            events }
  | setFields {origin : T.Origin} {n : UInt32} {fields : T.FieldsIdentifier} {i : Nat}
      {events : List (Event T)}
      : Effect s (.pallet origin n (.setFields fields))
          { s with
            registrars := s.registrars.modify i (Option.map fun r => { r with fields })
            blockNumber := n
            events }
  | removeRegistrar {origin : T.Origin} {n : UInt32} {source : T.LookupSource}
      {account : T.AccountId} {i : Nat} {events : List (Event T)}
      (lookup : T.lookup source = some account)
      (found : s.registrars.toList.findIdx? (hasAccount account) = some i)
      : Effect s (.pallet origin n (.removeRegistrar source))
          { s with registrars := s.registrars.remove i, blockNumber := n, events }
  | setIdentity {origin : T.Origin} {n : UInt32} {info : T.IdentityInformation}
      {sender : T.AccountId} {id : Registration T} {username : Option (Username T)}
      {events : List (Event T)}
      (stored : s.identityOf.get sender = some (id, username))
      : Effect s (.pallet origin n (.setIdentity info))
          { s with
            identityOf := s.identityOf.insert sender
              ({ judgements := id.judgements.retain fun j => j.2.isSticky, info }, username)
            blockNumber := n
            events }
  | newIdentity {origin : T.Origin} {n : UInt32} {info : T.IdentityInformation}
      {sender : T.AccountId} {events : List (Event T)}
      (fresh : s.identityOf.get sender = none)
      : Effect s (.pallet origin n (.setIdentity info))
          { s with
            identityOf := s.identityOf.insert sender ({ judgements := .empty, info }, none)
            blockNumber := n
            events }
  | requestJudgement {origin : T.Origin} {n : UInt32} {registrar sender : T.AccountId}
      {id : Registration T} {username : Option (Username T)}
      {judgements : BoundedVec (T.AccountId × Judgement) T.maxRegistrars.toNat}
      {events : List (Event T)}
      (stored : s.identityOf.get sender = some (id, username))
      (free : ∀ i, searchJudgement id.judgements registrar = .ok i →
        (judgementAt id.judgements i).isSticky = false)
      (put : putJudgement id.judgements registrar .requested = some judgements)
      : Effect s (.pallet origin n (.requestJudgement registrar))
          { s with
            identityOf := s.identityOf.insert sender ({ id with judgements }, username)
            blockNumber := n
            events }
  | cancelRequest {origin : T.Origin} {n : UInt32} {registrar sender : T.AccountId}
      {id : Registration T} {username : Option (Username T)} {pos : Nat} {events : List (Event T)}
      (stored : s.identityOf.get sender = some (id, username))
      (found : searchJudgement id.judgements registrar = .ok pos)
      (requested : judgementAt id.judgements pos = .requested)
      : Effect s (.pallet origin n (.cancelRequest registrar))
          { s with
            identityOf := s.identityOf.insert sender
              ({ id with judgements := id.judgements.remove pos }, username)
            blockNumber := n
            events }
  | provideJudgement {origin : T.Origin} {n : UInt32} {source : T.LookupSource}
      {judgement : Judgement} {identity : T.Hash} {registrar target : T.AccountId}
      {id : Registration T} {username : Option (Username T)}
      {judgements : BoundedVec (T.AccountId × Judgement) T.maxRegistrars.toNat}
      {events : List (Event T)}
      (signed : T.ensureSigned origin = some registrar)
      (lookup : T.lookup source = some target)
      (found : s.registrars.toList.any (hasAccount registrar) = true)
      (stored : s.identityOf.get target = some (id, username))
      (put : putJudgement id.judgements registrar judgement = some judgements)
      : Effect s (.pallet origin n (.provideJudgement source judgement identity))
          { s with
            identityOf := s.identityOf.insert target ({ id with judgements }, username)
            blockNumber := n
            events }
  | setPrimaryUsername {origin : T.Origin} {n : UInt32} {username : Username T}
      {who : T.AccountId} {id : Registration T} {primary : Option (Username T)}
      {events : List (Event T)}
      (signed : T.ensureSigned origin = some who)
      (stored : s.identityOf.get who = some (id, primary))
      : Effect s (.pallet origin n (.setPrimaryUsername username))
          { s with
            identityOf := s.identityOf.insert who (id, some username)
            blockNumber := n
            events }
  | setSubs {origin : T.Origin} {n : UInt32} {subs : List (T.AccountId × Data)}
      {sender : T.AccountId} {ids : BoundedVec T.AccountId T.maxSubAccounts.toNat}
      {events : List (Event T)}
      (named : s.identityOf.containsKey sender = true)
      (ids_eq : ids.toList = subs.map Prod.fst)
      (unclaimed : ∀ sub ∈ subs, ∀ x, s.superOf.get sub.1 = some x → x.1 = sender)
      : Effect s (.pallet origin n (.setSubs subs))
          { s with
            superOf := insertSupers sender (removeSupers s.superOf (s.subs sender).toList) subs
            subsOf :=
              if ids.toList.isEmpty then s.subsOf.remove sender else s.subsOf.insert sender ids
            blockNumber := n
            events }
  | addSub {origin : T.Origin} {n : UInt32} {source : T.LookupSource} {data : Data}
      {sender sub : T.AccountId} {subIds : BoundedVec T.AccountId T.maxSubAccounts.toNat}
      {events : List (Event T)}
      (named : s.identityOf.containsKey sender = true)
      (unclaimed : s.superOf.get sub = none)
      (pushed : subIds.toList = (s.subs sender).toList ++ [sub])
      : Effect s (.pallet origin n (.addSub source data))
          { s with
            superOf := s.superOf.insert sub (sender, data)
            subsOf := s.subsOf.insert sender subIds
            blockNumber := n
            events }
  | renameSub {origin : T.Origin} {n : UInt32} {source : T.LookupSource} {data old : Data}
      {sender sub : T.AccountId} {events : List (Event T)}
      (owned : s.superOf.get sub = some (sender, old))
      : Effect s (.pallet origin n (.renameSub source data))
          { s with
            superOf := s.superOf.insert sub (sender, data)
            blockNumber := n
            events }
  | removeSub {origin : T.Origin} {n : UInt32} {source : T.LookupSource}
      {superAccount sub : T.AccountId} {data : Data} {events : List (Event T)}
      (owned : s.superOf.get sub = some (superAccount, data))
      : Effect s (.pallet origin n (.removeSub source))
          { s with
            superOf := s.superOf.remove sub
            subsOf := s.subsOf.insert superAccount
              ((s.subs superAccount).retain fun x => x ≠ sub)
            blockNumber := n
            events }
  | quitSub {origin : T.Origin} {n : UInt32} {superAccount sub : T.AccountId} {data : Data}
      {events : List (Event T)}
      (owned : s.superOf.get sub = some (superAccount, data))
      : Effect s (.pallet origin n .quitSub)
          { s with
            superOf := s.superOf.remove sub
            subsOf := s.subsOf.insert superAccount
              ((s.subs superAccount).retain fun x => x ≠ sub)
            blockNumber := n
            events }
  | clearIdentity {origin : T.Origin} {n : UInt32} {who : T.AccountId} {id : Registration T}
      {username : Option (Username T)} {events : List (Event T)}
      (signed : T.ensureSigned origin = some who)
      (stored : s.identityOf.get who = some (id, username))
      : Effect s (.pallet origin n .clearIdentity)
          { s.withoutIdentity who with
            accountOfUsername := forget s.accountOfUsername username
            blockNumber := n
            events }
  | killIdentity {origin : T.Origin} {n : UInt32} {source : T.LookupSource} {who : T.AccountId}
      {id : Registration T} {username : Option (Username T)} {events : List (Event T)}
      (lookup : T.lookup source = some who)
      (stored : s.identityOf.get who = some (id, username))
      : Effect s (.pallet origin n (.killIdentity source))
          { s.withoutIdentity who with
            accountOfUsername := forget s.accountOfUsername username
            blockNumber := n
            events }
  | reap {who : T.AccountId} : Effect s (.reapIdentity who) (s.withoutIdentity who)
  | addUsernameAuthority {origin : T.Origin} {n : UInt32} {source : T.LookupSource}
      {suffix : List UInt8} {allocation : UInt32} {authority : T.AccountId} {bounded : Suffix T}
      {events : List (Event T)}
      (valid : validateSuffix suffix = .ok ())
      (bounded_eq : bounded.toList = suffix)
      : Effect s (.pallet origin n (.addUsernameAuthority source suffix allocation))
          { s with
            usernameAuthorities :=
              s.usernameAuthorities.insert authority { suffix := bounded, allocation }
            blockNumber := n
            events }
  | removeUsernameAuthority {origin : T.Origin} {n : UInt32} {source : T.LookupSource}
      {authority : T.AccountId} {events : List (Event T)}
      : Effect s (.pallet origin n (.removeUsernameAuthority source))
          { s with
            usernameAuthorities := s.usernameAuthorities.remove authority
            blockNumber := n
            events }
  | grant {origin : T.Origin} {n : UInt32} {source : T.LookupSource} {name : List UInt8}
      {signature : T.OffchainSignature} {sender who : T.AccountId}
      {properties : AuthorityProperties T} {username : Username T} {reg : Registration T}
      {primary : Username T} {events : List (Event T)}
      (authority : s.usernameAuthorities.get sender = some properties)
      (valid : isValidUsername name = true)
      (username_eq : username.toList = fullUsername name properties.suffix.toList)
      (untaken : s.accountOfUsername.get username = none)
      (unqueued : s.pendingUsernames.get username = none)
      (named : Named s.identityOf who username reg primary)
      : Effect s (.pallet origin n (.setUsernameFor source name (some signature)))
          { s with
            identityOf := s.identityOf.insert who (reg, some primary)
            usernameAuthorities := s.usernameAuthorities.insert sender
              { properties with allocation := saturatingSub32 properties.allocation 1 }
            accountOfUsername := s.accountOfUsername.insert username who
            blockNumber := n
            events }
  | queue {origin : T.Origin} {n : UInt32} {source : T.LookupSource} {name : List UInt8}
      {sender who : T.AccountId} {properties : AuthorityProperties T} {username : Username T}
      {expiration : UInt32} {events : List (Event T)}
      (authority : s.usernameAuthorities.get sender = some properties)
      (valid : isValidUsername name = true)
      (username_eq : username.toList = fullUsername name properties.suffix.toList)
      (untaken : s.accountOfUsername.get username = none)
      (unqueued : s.pendingUsernames.get username = none)
      : Effect s (.pallet origin n (.setUsernameFor source name none))
          { s with
            usernameAuthorities := s.usernameAuthorities.insert sender
              { properties with allocation := saturatingSub32 properties.allocation 1 }
            pendingUsernames := s.pendingUsernames.insert username (who, expiration)
            blockNumber := n
            events }
  | accept {origin : T.Origin} {n : UInt32} {username : Username T} {who : T.AccountId}
      {expiration : UInt32} {reg : Registration T} {primary : Username T} {events : List (Event T)}
      (queued : s.pendingUsernames.get username = some (who, expiration))
      (named : Named s.identityOf who username reg primary)
      : Effect s (.pallet origin n (.acceptUsername username))
          { s with
            identityOf := s.identityOf.insert who (reg, some primary)
            accountOfUsername := s.accountOfUsername.insert username who
            pendingUsernames := s.pendingUsernames.remove username
            blockNumber := n
            events }
  | expire {origin : T.Origin} {n : UInt32} {username : Username T} {events : List (Event T)}
      : Effect s (.pallet origin n (.removeExpiredApproval username))
          { s with
            pendingUsernames := s.pendingUsernames.remove username
            blockNumber := n
            events }
  | removeDangling {origin : T.Origin} {n : UInt32} {username : Username T} {who : T.AccountId}
      {events : List (Event T)}
      (stored : s.accountOfUsername.get username = some who)
      (dangling : s.identityOf.get who = none)
      : Effect s (.pallet origin n (.removeDanglingUsername username))
          { s with
            accountOfUsername := s.accountOfUsername.remove username
            blockNumber := n
            events }

section Registrars

variable {source : T.LookupSource}

theorem addRegistrar_effect
    (h : Succeeds (addRegistrar origin source) { s with blockNumber := n } () s')
    : Effect s (.pallet origin n (.addRegistrar source)) s' := by
  simp only [addRegistrar, Succeeds.bind_iff, Succeeds.ensureOrigin_iff, lookup_iff,
    Succeeds.get_iff, Succeeds.ensure_iff, Succeeds.okOr_iff, putRegistrars_iff, depositEvent_iff,
    and_assoc, exists_and_left, exists_eq_left, exists_const, Bool.not_eq_true'] at h
  obtain ⟨_, _, account, hlookup, hfresh, registrars, hpush, rfl⟩ := h
  exact .addRegistrar hlookup hfresh (BoundedVec.tryPush_eq_some hpush).1

theorem setAccountId_effect
    (h : Succeeds (setAccountId origin source) { s with blockNumber := n } () s')
    : Effect s (.pallet origin n (.setAccountId source)) s' := by
  simp only [setAccountId, Succeeds.bind_iff, Succeeds.ensureOrigin_iff, lookup_iff,
    modifyRegistrar_iff, and_assoc, exists_and_left, exists_eq_left] at h
  obtain ⟨who, hsigned, new, hlookup, i, hfound, rfl⟩ := h
  exact .setAccountId hsigned hlookup hfound

theorem setFields_effect {fields : T.FieldsIdentifier}
    (h : Succeeds (setFields origin fields) { s with blockNumber := n } () s')
    : Effect s (.pallet origin n (.setFields fields)) s' := by
  simp only [setFields, Succeeds.bind_iff, Succeeds.ensureOrigin_iff, modifyRegistrar_iff,
    and_assoc, exists_and_left, exists_eq_left] at h
  obtain ⟨who, hsigned, i, hfound, rfl⟩ := h
  exact .setFields

theorem removeRegistrar_effect
    (h : Succeeds (removeRegistrar origin source) { s with blockNumber := n } () s')
    : Effect s (.pallet origin n (.removeRegistrar source)) s' := by
  simp only [removeRegistrar, Succeeds.bind_iff, Succeeds.ensureOrigin_iff, lookup_iff,
    Succeeds.get_iff, Succeeds.okOr_iff, putRegistrars_iff, depositEvent_iff, and_assoc,
    exists_and_left, exists_eq_left, exists_const] at h
  obtain ⟨_, _, account, hlookup, i, hfound, rfl⟩ := h
  exact .removeRegistrar hlookup hfound

end Registrars

section Identities

variable {source : T.LookupSource} {registrar : T.AccountId}

theorem setIdentity_effect {info : T.IdentityInformation}
    (h : Succeeds (setIdentity origin info) { s with blockNumber := n } () s')
    : Effect s (.pallet origin n (.setIdentity info)) s' := by
  simp only [setIdentity, Succeeds.bind_iff, Succeeds.ensureOrigin_iff, Succeeds.get_iff, and_assoc,
    exists_and_left, exists_eq_left] at h
  obtain ⟨sender, hsigned, h⟩ := h
  cases hget : s.identityOf.get sender with
  | some identity =>
    obtain ⟨id, username⟩ := identity
    simp only [hget, Succeeds.bind_iff, insertIdentity_iff, depositEvent_iff, exists_eq_left,
      exists_const] at h
    rw [h]
    exact .setIdentity hget
  | none =>
    simp only [hget, Succeeds.bind_iff, insertIdentity_iff, depositEvent_iff, exists_eq_left,
      exists_const] at h
    rw [h]
    exact .newIdentity hget

theorem requestJudgement_effect
    (h : Succeeds (requestJudgement origin registrar) { s with blockNumber := n } () s')
    : Effect s (.pallet origin n (.requestJudgement registrar)) s' := by
  simp only [requestJudgement, Succeeds.bind_iff, Succeeds.ensureOrigin_iff, Succeeds.get_iff,
    Succeeds.ensure_iff, Succeeds.okOr_iff, and_assoc, exists_and_left, exists_eq_left,
    exists_const] at h
  obtain ⟨sender, hsigned, hregistrar, ⟨id, username⟩, hstored, h⟩ := h
  cases hsearch : searchJudgement id.judgements registrar with
  | ok i =>
    simp only [hsearch, Succeeds.bind_iff, Succeeds.ensure_iff, Succeeds.okOr_iff,
      insertIdentity_iff, depositEvent_iff, and_assoc, exists_and_left, exists_eq_left,
      exists_const] at h
    obtain ⟨hfree, judgements, hput, rfl⟩ := h
    refine .requestJudgement hstored ?_ hput
    intro j hj
    rw [hsearch, Except.ok.injEq] at hj
    rw [← hj]
    simpa using hfree
  | error i =>
    simp only [hsearch, Succeeds.bind_iff, Succeeds.okOr_iff, insertIdentity_iff,
      depositEvent_iff, and_assoc, exists_and_left, exists_eq_left, exists_const] at h
    obtain ⟨judgements, hput, rfl⟩ := h
    refine .requestJudgement hstored ?_ hput
    intro j hj
    rw [hsearch] at hj
    cases hj

theorem cancelRequest_effect
    (h : Succeeds (cancelRequest origin registrar) { s with blockNumber := n } () s')
    : Effect s (.pallet origin n (.cancelRequest registrar)) s' := by
  simp only [cancelRequest, Succeeds.bind_iff, Succeeds.ensureOrigin_iff, Succeeds.get_iff,
    Succeeds.ensure_iff, Succeeds.okOr_iff, Succeeds.mapErr_iff, insertIdentity_iff,
    depositEvent_iff, and_assoc, exists_and_left, exists_eq_left, exists_const] at h
  obtain ⟨sender, hsigned, ⟨id, username⟩, hstored, pos, hfound, hrequested, rfl⟩ := h
  exact .cancelRequest hstored hfound hrequested

theorem provideJudgement_effect {judgement : Judgement} {identity : T.Hash}
    (h : Succeeds (provideJudgement origin source judgement identity)
      { s with blockNumber := n } () s')
    : Effect s (.pallet origin n (.provideJudgement source judgement identity)) s' := by
  simp only [provideJudgement, Succeeds.bind_iff, Succeeds.ensureOrigin_iff, lookup_iff,
    Succeeds.get_iff, Succeeds.ensure_iff, Succeeds.okOr_iff, insertIdentity_iff, depositEvent_iff,
    and_assoc, exists_and_left, exists_eq_left, exists_const] at h
  obtain ⟨registrar, hsigned, target, hlookup, _, hfound, ⟨id, username⟩, hstored, _, judgements,
    hput, rfl⟩ := h
  exact .provideJudgement hsigned hlookup hfound hstored hput

theorem setPrimaryUsername_effect {username : Username T}
    (h : Succeeds (setPrimaryUsername origin username) { s with blockNumber := n } () s')
    : Effect s (.pallet origin n (.setPrimaryUsername username)) s' := by
  simp only [setPrimaryUsername, Succeeds.bind_iff, Succeeds.ensureOrigin_iff, Succeeds.get_iff,
    Succeeds.ensure_iff, Succeeds.okOr_iff, insertIdentity_iff, depositEvent_iff, and_assoc,
    exists_and_left, exists_eq_left, exists_const] at h
  obtain ⟨who, hsigned, _, ⟨id, primary⟩, hstored, rfl⟩ := h
  exact .setPrimaryUsername hsigned hstored

theorem clearIdentity_effect
    (h : Succeeds (clearIdentity origin) { s with blockNumber := n } () s')
    : Effect s (.pallet origin n .clearIdentity) s' := by
  simp only [clearIdentity, Succeeds.bind_iff, Succeeds.ensureOrigin_iff, removeIdentity_iff,
    removeUsername_iff, depositEvent_iff, and_assoc, exists_and_left, exists_eq_left,
    exists_const] at h
  obtain ⟨sender, hsigned, username, _, ⟨id, hstored, rfl⟩, rfl⟩ := h
  exact .clearIdentity hsigned hstored

theorem killIdentity_effect
    (h : Succeeds (killIdentity origin source) { s with blockNumber := n } () s')
    : Effect s (.pallet origin n (.killIdentity source)) s' := by
  simp only [killIdentity, Succeeds.bind_iff, Succeeds.ensureOrigin_iff, lookup_iff,
    removeIdentity_iff, removeUsername_iff, depositEvent_iff, and_assoc, exists_and_left,
    exists_eq_left, exists_const] at h
  obtain ⟨_, _, target, hlookup, username, _, ⟨id, hstored, rfl⟩, rfl⟩ := h
  exact .killIdentity hlookup hstored

theorem reapIdentity_effect {who : T.AccountId} (h : Succeeds (reapIdentity who) s () s')
    : Effect s (.reapIdentity who) s' := by
  simp only [reapIdentity, Succeeds.bind_iff, removeIdentity_iff, Succeeds.pure_iff] at h
  obtain ⟨username, _, ⟨id, _, rfl⟩, _, rfl⟩ := h
  exact .reap

end Identities

section Subs

variable {source : T.LookupSource} {data : Data}

theorem setSubs_effect {subs : List (T.AccountId × Data)}
    (h : Succeeds (setSubs origin subs) { s with blockNumber := n } () s')
    : Effect s (.pallet origin n (.setSubs subs)) s' := by
  simp only [setSubs, Succeeds.bind_iff, Succeeds.ensureOrigin_iff, Succeeds.get_iff,
    Succeeds.ensure_iff, Succeeds.okOr_iff, Succeeds.modify_iff, and_assoc, exists_and_left,
    exists_eq_left, exists_const] at h
  obtain ⟨sender, _, hnamed, ids, hids, hunclaimed, rfl⟩ := h
  refine .setSubs hnamed (BoundedVec.tryFrom_eq_some.mp hids) ?_
  intro sub hsub x hx
  rw [List.all_eq_true] at hunclaimed
  have hx' := hunclaimed x (List.mem_filterMap.mpr ⟨sub, hsub, hx⟩)
  simpa using hx'

theorem addSub_effect
    (h : Succeeds (addSub origin source data) { s with blockNumber := n } () s')
    : Effect s (.pallet origin n (.addSub source data)) s' := by
  simp only [addSub, Succeeds.bind_iff, Succeeds.ensureOrigin_iff, lookup_iff, Succeeds.get_iff,
    Succeeds.ensure_iff, Succeeds.okOr_iff, insertSuper_iff, insertSubs_iff, depositEvent_iff,
    and_assoc, exists_and_left, exists_eq_left, exists_const, Bool.not_eq_true',
    StorageMap.containsKey_eq_false_iff] at h
  obtain ⟨sender, _, sub, _, hnamed, hunclaimed, subIds, hpush, rfl⟩ := h
  exact .addSub hnamed hunclaimed (BoundedVec.tryPush_eq_some hpush).1

theorem renameSub_effect
    (h : Succeeds (renameSub origin source data) { s with blockNumber := n } () s')
    : Effect s (.pallet origin n (.renameSub source data)) s' := by
  simp only [renameSub, Succeeds.bind_iff, Succeeds.ensureOrigin_iff, lookup_iff, Succeeds.get_iff,
    Succeeds.ensure_iff, insertSuper_iff, and_assoc, exists_and_left, exists_eq_left, exists_const,
    Option.any_eq_true, decide_eq_true_eq] at h
  obtain ⟨sender, _, sub, _, _, ⟨⟨_, old⟩, howned, rfl⟩, rfl⟩ := h
  exact .renameSub howned

theorem removeSub_effect
    (h : Succeeds (removeSub origin source) { s with blockNumber := n } () s')
    : Effect s (.pallet origin n (.removeSub source)) s' := by
  simp only [removeSub, Succeeds.bind_iff, Succeeds.ensureOrigin_iff, lookup_iff, Succeeds.get_iff,
    Succeeds.ensure_iff, Succeeds.okOr_iff, dropSub_iff, depositEvent_iff, and_assoc,
    exists_and_left, exists_eq_left, exists_const] at h
  obtain ⟨sender, _, _, sub, _, ⟨superAccount, data⟩, howned, _, rfl⟩ := h
  exact .removeSub howned

theorem quitSub_effect (h : Succeeds (quitSub origin) { s with blockNumber := n } () s')
    : Effect s (.pallet origin n .quitSub) s' := by
  simp only [quitSub, Succeeds.bind_iff, Succeeds.ensureOrigin_iff, Succeeds.get_iff,
    Succeeds.okOr_iff, dropSub_iff, depositEvent_iff, and_assoc, exists_and_left, exists_eq_left,
    exists_const] at h
  obtain ⟨sender, _, ⟨superAccount, data⟩, howned, rfl⟩ := h
  exact .quitSub howned

end Subs

section Usernames

variable {source : T.LookupSource} {username : Username T}

theorem validateUsername_ok {name : List UInt8} {length : Option UInt32}
    (h : validateUsername T name length = .ok ())
    : (∀ l, length = some l → l < T.maxUsernameLength) ∧ isValidUsername name = true := by
  unfold validateUsername at h
  split at h
  . cases h
  . next hlength =>
    split at h
    . cases h
    . split at h
      . next hvalid =>
        refine ⟨?_, hvalid⟩
        rintro l rfl
        simpa using hlength
      . cases h

theorem addUsernameAuthority_effect {suffix : List UInt8} {allocation : UInt32}
    (h : Succeeds (addUsernameAuthority origin source suffix allocation)
      { s with blockNumber := n } () s')
    : Effect s (.pallet origin n (.addUsernameAuthority source suffix allocation)) s' := by
  simp only [addUsernameAuthority, Succeeds.bind_iff, Succeeds.ensureOrigin_iff, lookup_iff,
    Succeeds.mapErr_iff, Succeeds.okOr_iff, insertAuthority_iff, depositEvent_iff, and_assoc,
    exists_and_left, exists_eq_left, exists_const] at h
  obtain ⟨_, _, authority, _, _, hvalid, bounded, hbounded, rfl⟩ := h
  exact .addUsernameAuthority hvalid (BoundedVec.tryFrom_eq_some.mp hbounded)

theorem removeUsernameAuthority_effect
    (h : Succeeds (removeUsernameAuthority origin source) { s with blockNumber := n } () s')
    : Effect s (.pallet origin n (.removeUsernameAuthority source)) s' := by
  simp only [removeUsernameAuthority, Succeeds.bind_iff, Succeeds.ensureOrigin_iff, lookup_iff,
    Succeeds.get_iff, Succeeds.ensure_iff, Succeeds.modify_iff, depositEvent_iff, and_assoc,
    exists_and_left, exists_eq_left, exists_const] at h
  obtain ⟨_, _, authority, _, _, rfl⟩ := h
  exact .removeUsernameAuthority

theorem setUsernameFor_effect {name : List UInt8} {signature : Option T.OffchainSignature}
    (h : Succeeds (setUsernameFor origin source name signature) { s with blockNumber := n } () s')
    : Effect s (.pallet origin n (.setUsernameFor source name signature)) s' := by
  simp only [setUsernameFor, Succeeds.bind_iff, Succeeds.ensureOrigin_iff, takeAllocation_iff,
    lookup_iff, Succeeds.get_iff, Succeeds.ensure_iff, Succeeds.okOr_iff, Succeeds.mapErr_iff,
    and_assoc, exists_and_left, exists_eq_left, exists_const, Bool.not_eq_true',
    StorageMap.containsKey_eq_false_iff] at h
  obtain ⟨sender, _, suffix, _, ⟨properties, hauthority, _, rfl, rfl⟩, _, hvalid, username,
    husername, huntaken, hunqueued, who, _, h⟩ := h
  have hname := (validateUsername_ok hvalid).2
  rw [BoundedVec.tryFrom_eq_some] at husername
  cases signature with
  | some signature =>
    simp only [Succeeds.bind_iff, Succeeds.mapErr_iff, and_assoc, exists_and_left,
      exists_eq_left] at h
    obtain ⟨_, _, h⟩ := h
    obtain ⟨reg, primary, events, hnamed, rfl⟩ := insertUsername_spec h
    exact .grant hauthority hname husername huntaken hunqueued hnamed
  | none =>
    rw [queueAcceptance_iff] at h
    rw [h]
    exact .queue hauthority hname husername huntaken hunqueued

theorem acceptUsername_effect
    (h : Succeeds (acceptUsername origin username) { s with blockNumber := n } () s')
    : Effect s (.pallet origin n (.acceptUsername username)) s' := by
  simp only [acceptUsername, Succeeds.bind_iff, Succeeds.ensureOrigin_iff, takePending_iff,
    Succeeds.ensure_iff, depositEvent_iff, and_assoc, exists_and_left, exists_eq_left,
    exists_const] at h
  obtain ⟨who, _, ⟨_, expiration⟩, hqueued, rfl, _, _, h, rfl⟩ := h
  obtain ⟨reg, primary, events, hnamed, rfl⟩ := insertUsername_spec h
  exact .accept hqueued hnamed

theorem removeExpiredApproval_effect
    (h : Succeeds (removeExpiredApproval origin username) { s with blockNumber := n } () s')
    : Effect s (.pallet origin n (.removeExpiredApproval username)) s' := by
  simp only [removeExpiredApproval, Succeeds.bind_iff, Succeeds.ensureOrigin_iff, takePending_iff,
    Succeeds.get_iff, Succeeds.ensure_iff, depositEvent_iff, and_assoc, exists_and_left,
    exists_eq_left, exists_const] at h
  obtain ⟨_, _, ⟨who, expiration⟩, _, _, rfl⟩ := h
  exact .expire

theorem removeDanglingUsername_effect
    (h : Succeeds (removeDanglingUsername origin username) { s with blockNumber := n } () s')
    : Effect s (.pallet origin n (.removeDanglingUsername username)) s' := by
  simp only [removeDanglingUsername, Succeeds.bind_iff, Succeeds.ensureOrigin_iff,
    Succeeds.get_iff, Succeeds.ensure_iff, Succeeds.okOr_iff, removeUsername_iff, depositEvent_iff,
    and_assoc, exists_and_left, exists_eq_left, exists_const, Bool.not_eq_true',
    StorageMap.containsKey_eq_false_iff] at h
  obtain ⟨_, _, who, hstored, hdangling, rfl⟩ := h
  exact .removeDangling hstored hdangling

end Usernames

theorem dispatch_effect {ext : Extrinsic T} (h : Succeeds ext.dispatch s () s')
    : Effect s ext s' := by
  cases ext with
  | reapIdentity who => exact reapIdentity_effect h
  | pallet origin n call =>
    simp only [Extrinsic.dispatch, Succeeds.bind_iff, Succeeds.modify_iff, exists_eq_left,
      exists_const] at h
    cases call with
    | addRegistrar account => exact addRegistrar_effect h
    | setIdentity info => exact setIdentity_effect h
    | setSubs subs => exact setSubs_effect h
    | clearIdentity => exact clearIdentity_effect h
    | requestJudgement registrar => exact requestJudgement_effect h
    | cancelRequest registrar => exact cancelRequest_effect h
    | setAccountId new => exact setAccountId_effect h
    | setFields fields => exact setFields_effect h
    | provideJudgement target judgement identity => exact provideJudgement_effect h
    | killIdentity target => exact killIdentity_effect h
    | addSub sub data => exact addSub_effect h
    | renameSub sub data => exact renameSub_effect h
    | removeSub sub => exact removeSub_effect h
    | quitSub => exact quitSub_effect h
    | addUsernameAuthority authority suffix allocation => exact addUsernameAuthority_effect h
    | removeUsernameAuthority authority => exact removeUsernameAuthority_effect h
    | setUsernameFor who username signature => exact setUsernameFor_effect h
    | acceptUsername username => exact acceptUsername_effect h
    | removeExpiredApproval username => exact removeExpiredApproval_effect h
    | setPrimaryUsername username => exact setPrimaryUsername_effect h
    | removeDanglingUsername username => exact removeDanglingUsername_effect h
    | removeRegistrar account => exact removeRegistrar_effect h

end Calls

def plainCall (who : Option Nat) (call : Call .plain) : Extrinsic .plain :=
  .pallet who 1 call

end Identity
