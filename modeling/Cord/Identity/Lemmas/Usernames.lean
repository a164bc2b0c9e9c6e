import Cord.Identity.Lemmas.Calls

/-!
This module contains that usernames are unique: how a full username is put together from a name and a
suffix, and that a username is granted only once and keeps its account.
-/

open Frame
open DidName (isAsciiLowercase isAsciiDigit period)

namespace Identity

section Format

variable {name name' suffix suffix' : List UInt8}

def isNameCharacter (c : UInt8) : Bool :=
  isAsciiLowercase c || isAsciiDigit c || c = period

theorem foldl_checkCharacter {valid : Bool} {lastChar : Option UInt8}
    (h : (name.foldl checkCharacter (valid, lastChar)).1 = true)
    : valid = true ∧ ∀ c ∈ name, isNameCharacter c = true := by
  induction name generalizing valid lastChar with
  | nil => exact ⟨h, by simp⟩
  | cons c name ih =>
    obtain ⟨hvalid, hname⟩ := ih h
    rw [Bool.and_eq_true, Bool.and_eq_true] at hvalid
    exact ⟨hvalid.1.1, List.forall_mem_cons.mpr ⟨hvalid.1.2, hname⟩⟩

theorem delimiter_notMem_name (h : isValidUsername name = true) : delimiter ∉ name := by
  intro hmem
  unfold isValidUsername at h
  split at h
  . split at h
    . cases h
    . have hdelimiter := (foldl_checkCharacter h).2 delimiter hmem
      revert hdelimiter
      decide
  . cases h

theorem validateSuffix_ok (h : validateSuffix suffix = .ok ())
    : ∀ c ∈ suffix, isAsciiLowercase c = true := by
  unfold validateSuffix at h
  split at h
  . cases h
  . split at h
    . next hall => exact List.all_eq_true.mp hall
    . cases h

theorem delimiter_notMem_suffix (h : validateSuffix suffix = .ok ()) : delimiter ∉ suffix := by
  intro hmem
  have hdelimiter := validateSuffix_ok h delimiter hmem
  revert hdelimiter
  decide

structure Splits (username name suffix : List UInt8) : Prop where
  full : username = fullUsername name suffix
  name : isValidUsername name = true
  suffix : validateSuffix suffix = .ok ()

theorem Splits.unique {username : List UInt8} (h : Splits username name suffix)
    (h' : Splits username name' suffix') : name = name' ∧ suffix = suffix' := by
  have heq : fullUsername name suffix = fullUsername name' suffix' := h.full.symm.trans h'.full
  unfold fullUsername at heq
  rw [List.append_cons_inj_of_notMem (delimiter_notMem_name h.name)
    (delimiter_notMem_suffix h.suffix)] at heq
  exact ⟨heq.1, heq.2.2⟩

variable {T : Config}

def Config.Representable (T : Config) (name suffix : List UInt8) : Prop :=
  -- The length of both is not truncated: `usize` has 32 bits, or it is wider and they are together
  -- shorter than `2 ^ 32` bytes.
  T.usizeMax = 2 ^ 32 - 1 ∨ (2 ^ 32 ≤ T.usizeMax ∧ name.length + suffix.length < 2 ^ 32)

theorem length_lt_of_usernameLength (hfits : T.Representable name suffix)
    (h : usernameLength T name suffix < T.maxUsernameLength)
    : name.length + suffix.length < T.maxUsernameLength.toNat := by
  have hmax := T.maxUsernameLength.toNat_lt
  unfold usernameLength at h
  rw [UInt32.lt_iff_toNat_lt, Nat.toUInt32_eq, UInt32.toNat_ofNat'] at h
  rcases hfits with husize | ⟨husize, hlength⟩
  . -- A length that saturates is the largest of all, so it is rejected.
    rw [husize, Nat.mod_eq_of_lt (by omega)] at h
    omega
  . rw [Nat.min_eq_left (by omega), Nat.mod_eq_of_lt hlength] at h
    exact h

theorem exists_bounded_username (hfits : T.Representable name suffix)
    (h : validateUsername T name (some (usernameLength T name suffix)) = .ok ())
    : ∃ username : Username T, BoundedVec.tryFrom (fullUsername name suffix) = some username := by
  have hlength := length_lt_of_usernameLength hfits ((validateUsername_ok h).1 _ rfl)
  refine ⟨⟨fullUsername name suffix, ?_⟩, BoundedVec.tryFrom_eq_some.mpr rfl⟩
  unfold fullUsername
  rw [List.length_append, List.length_cons]
  omega

end Format

variable {T : Config} {s s' : State T} {ext : Extrinsic T} {username : Username T}

def State.Issued (s : State T) (username : Username T) : Prop :=
  s.accountOfUsername.containsKey username = true ∨ s.pendingUsernames.containsKey username = true

/--
No username is both granted and pending, every one of them can be split in exactly one way, and what
authorities with different suffixes grant is different.
-/
structure State.UsernamesUnique (s : State T) : Prop where
  disjoint : ∀ username, s.pendingUsernames.containsKey username = true →
    s.accountOfUsername.containsKey username = false
  split : ∀ username, s.Issued username →
    ∃! parts : List UInt8 × List UInt8, Splits username.toList parts.1 parts.2
  apart : ∀ authority authority' properties properties',
    s.usernameAuthorities.get authority = some properties →
    s.usernameAuthorities.get authority' = some properties' →
    properties.suffix ≠ properties'.suffix → ∀ name name', isValidUsername name = true →
    isValidUsername name' = true →
      fullUsername name properties.suffix.toList ≠ fullUsername name' properties'.suffix.toList

def AccountsKept (s : State T) (_ : Extrinsic T) (s' : State T) : Prop :=
  ∀ username who, s.accountOfUsername.get username = some who →
    s'.accountOfUsername.get username = some who ∨ s'.accountOfUsername.get username = none

-- The invariant behind it: usernames come from authorities, whose suffixes have been validated.
structure State.WellNamed (s : State T) : Prop where
  disjoint : ∀ username, s.pendingUsernames.containsKey username = true →
    s.accountOfUsername.containsKey username = false
  splits : ∀ username, s.Issued username → ∃ name suffix, Splits username.toList name suffix
  suffixes : ∀ authority properties, s.usernameAuthorities.get authority = some properties →
    validateSuffix properties.suffix.toList = .ok ()

namespace State.WellNamed

theorem usernamesUnique (h : s.WellNamed) : s.UsernamesUnique where
  disjoint := h.disjoint
  split username hissued := by
    obtain ⟨name, suffix, hsplits⟩ := h.splits username hissued
    refine ⟨(name, suffix), hsplits, ?_⟩
    rintro ⟨name', suffix'⟩ hsplits'
    obtain ⟨rfl, rfl⟩ := hsplits.unique hsplits'
    rfl
  apart authority authority' properties properties' hget hget' hne name name' hname hname' heq := by
    have hsplits : Splits (fullUsername name properties.suffix.toList) name
        properties.suffix.toList :=
      ⟨rfl, hname, h.suffixes authority properties hget⟩
    have hsplits' : Splits (fullUsername name properties.suffix.toList) name'
        properties'.suffix.toList :=
      ⟨heq, hname', h.suffixes authority' properties' hget'⟩
    exact hne (BoundedVec.toList_injective (hsplits.unique hsplits').2)

theorem not_granted (h : s.WellNamed) {pending : T.AccountId × UInt32}
    (hpending : s.pendingUsernames.get username = some pending)
    : s.accountOfUsername.get username = none := by
  rw [← StorageMap.containsKey_eq_false_iff]
  apply h.disjoint
  exact StorageMap.containsKey_of_get hpending

theorem shrink (h : s.WellNamed)
    (hgranted : ∀ username, s'.accountOfUsername.containsKey username = true →
      s.accountOfUsername.containsKey username = true)
    (hpending : ∀ username, s'.pendingUsernames.containsKey username = true →
      s.pendingUsernames.containsKey username = true)
    (hsuffixes : ∀ authority properties, s'.usernameAuthorities.get authority = some properties →
      validateSuffix properties.suffix.toList = .ok ())
    : s'.WellNamed where
  disjoint username hmem := by
    rw [← Bool.not_eq_true]
    intro hgranted'
    have hdisjoint := h.disjoint username (hpending username hmem)
    rw [hgranted username hgranted'] at hdisjoint
    cases hdisjoint
  splits username hissued := by
    apply h.splits
    rcases hissued with hmem | hmem
    . exact .inl (hgranted username hmem)
    . exact .inr (hpending username hmem)
  suffixes := hsuffixes

theorem suffixes_insert (h : s.WellNamed) {sender : T.AccountId} {new : AuthorityProperties T}
    (hvalid : validateSuffix new.suffix.toList = .ok ()) (authority : T.AccountId)
    (properties : AuthorityProperties T)
    (hget : (s.usernameAuthorities.insert sender new).get authority = some properties)
    : validateSuffix properties.suffix.toList = .ok () := by
  rw [StorageMap.get_insert] at hget
  split at hget
  . rw [Option.some.injEq] at hget
    rw [← hget]
    exact hvalid
  . exact h.suffixes authority properties hget

theorem grant {who : T.AccountId} {name suffix : List UInt8} (h : s.WellNamed)
    (hsplits : Splits username.toList name suffix)
    (hunqueued : s.pendingUsernames.get username = none)
    (hgranted : s'.accountOfUsername = s.accountOfUsername.insert username who)
    (hpending : s'.pendingUsernames = s.pendingUsernames)
    (hsuffixes : ∀ authority properties, s'.usernameAuthorities.get authority = some properties →
      validateSuffix properties.suffix.toList = .ok ())
    : s'.WellNamed where
  disjoint other hmem := by
    rw [hpending] at hmem
    have hne : other ≠ username := by
      rintro rfl
      rw [StorageMap.containsKey, hunqueued] at hmem
      cases hmem
    rw [hgranted, StorageMap.containsKey_insert_of_ne _ _ hne]
    exact h.disjoint other hmem
  splits other hissued := by
    unfold State.Issued at hissued
    rw [hgranted, hpending, StorageMap.containsKey_insert, or_assoc] at hissued
    rcases hissued with rfl | hissued
    . exact ⟨name, suffix, hsplits⟩
    . exact h.splits other hissued
  suffixes := hsuffixes

theorem queue {pending : T.AccountId × UInt32} {name suffix : List UInt8} (h : s.WellNamed)
    (hsplits : Splits username.toList name suffix)
    (huntaken : s.accountOfUsername.get username = none)
    (hgranted : s'.accountOfUsername = s.accountOfUsername)
    (hpending : s'.pendingUsernames = s.pendingUsernames.insert username pending)
    (hsuffixes : ∀ authority properties, s'.usernameAuthorities.get authority = some properties →
      validateSuffix properties.suffix.toList = .ok ())
    : s'.WellNamed where
  disjoint other hmem := by
    rw [hpending, StorageMap.containsKey_insert] at hmem
    rw [hgranted]
    rcases hmem with rfl | hmem
    . rw [StorageMap.containsKey_eq_false_iff]
      exact huntaken
    . exact h.disjoint other hmem
  splits other hissued := by
    unfold State.Issued at hissued
    rw [hgranted, hpending, StorageMap.containsKey_insert, or_left_comm] at hissued
    rcases hissued with rfl | hissued
    . exact ⟨name, suffix, hsplits⟩
    . exact h.splits other hissued
  suffixes := hsuffixes

theorem accept {who : T.AccountId} {pending : T.AccountId × UInt32} (h : s.WellNamed)
    (hqueued : s.pendingUsernames.get username = some pending)
    (hgranted : s'.accountOfUsername = s.accountOfUsername.insert username who)
    (hpending : s'.pendingUsernames = s.pendingUsernames.remove username)
    (hauthorities : s'.usernameAuthorities = s.usernameAuthorities) : s'.WellNamed := by
  -- The username is given up as a pending one first, and then granted.
  have hissued : s.Issued username := .inr (StorageMap.containsKey_of_get hqueued)
  obtain ⟨name, suffix, hsplits⟩ := h.splits username hissued
  have hgiven : State.WellNamed { s with pendingUsernames := s'.pendingUsernames } := by
    apply h.shrink
    . intro other hmem
      exact hmem
    . intro other hmem
      rw [hpending, StorageMap.containsKey_remove] at hmem
      exact hmem.2
    . exact h.suffixes
  apply hgiven.grant hsplits _ hgranted rfl
  . rw [hauthorities]
    exact h.suffixes
  . rw [hpending, StorageMap.get_remove_self]

end State.WellNamed

theorem containsKey_of_forget {accountOf : StorageMap (Username T) T.AccountId}
    {primary : Option (Username T)} (h : (forget accountOf primary).containsKey username = true)
    : accountOf.containsKey username = true := by
  unfold StorageMap.containsKey at h ⊢
  rw [get_forget] at h
  split at h
  . cases h
  . exact h

theorem Effect.wellNamed (he : Effect s ext s') (h : s.WellNamed) : s'.WellNamed := by
  cases he with
  | addUsernameAuthority valid bounded_eq =>
    refine h.shrink (fun _ hmem => hmem) (fun _ hmem => hmem) ?_
    apply h.suffixes_insert
    rw [bounded_eq]
    exact valid
  | removeUsernameAuthority =>
    refine h.shrink (fun _ hmem => hmem) (fun _ hmem => hmem) ?_
    intro authority properties hget
    rw [StorageMap.get_remove, Option.ite_none_left_eq_some] at hget
    exact h.suffixes authority properties hget.2
  | grant authority valid username_eq untaken unqueued _ =>
    have hsuffix := h.suffixes _ _ authority
    exact h.grant ⟨username_eq, valid, hsuffix⟩ unqueued rfl rfl (h.suffixes_insert hsuffix)
  | queue authority valid username_eq untaken unqueued =>
    have hsuffix := h.suffixes _ _ authority
    exact h.queue ⟨username_eq, valid, hsuffix⟩ untaken rfl rfl (h.suffixes_insert hsuffix)
  | accept queued _ => exact h.accept queued rfl rfl rfl
  | expire =>
    refine h.shrink (fun _ hmem => hmem) ?_ h.suffixes
    intro other hmem
    exact ((StorageMap.containsKey_remove ..).mp hmem).2
  | removeDangling _ _ =>
    refine h.shrink ?_ (fun _ hmem => hmem) h.suffixes
    intro other hmem
    exact ((StorageMap.containsKey_remove ..).mp hmem).2
  | clearIdentity | killIdentity =>
    refine h.shrink ?_ (fun _ hmem => hmem) h.suffixes
    intro other hmem
    exact containsKey_of_forget hmem
  | _ => exact h.shrink (fun _ hmem => hmem) (fun _ hmem => hmem) h.suffixes

theorem AccountsKept.insert {who : T.AccountId}
    (hfresh : s.accountOfUsername.get username = none)
    (hgranted : s'.accountOfUsername = s.accountOfUsername.insert username who)
    : AccountsKept s ext s' := by
  intro other account hget
  left
  have hne : other ≠ username := StorageMap.ne_of_get hfresh hget
  rw [hgranted, StorageMap.get_insert_of_ne _ _ hne]
  exact hget

theorem AccountsKept.forget (primary : Option (Username T))
    (hgranted : s'.accountOfUsername = Identity.forget s.accountOfUsername primary)
    : AccountsKept s ext s' := by
  intro other account hget
  rw [hgranted, get_forget]
  split
  . exact .inr rfl
  . exact .inl hget

theorem Effect.accountsKept (he : Effect s ext s') (h : s.WellNamed) : AccountsKept s ext s' := by
  cases he with
  | grant _ _ _ untaken _ _ => exact .insert untaken rfl
  | accept queued _ => exact .insert (h.not_granted queued) rfl
  | clearIdentity | killIdentity => exact .forget _ rfl
  | @removeDangling _ _ username => exact .forget (some username) rfl
  | _ => exact fun _ _ hget => .inl hget

theorem run_wellNamed (exts : List (Extrinsic T))
    : (machine T).Always State.WellNamed (State.genesis T) exts := by
  apply Machine.always_invariant
  . intro s ext s' hs h
    exact (dispatch_effect h).wellNamed hs
  . constructor
    . intro username hmem
      cases hmem
    . rintro username (hmem | hmem)
      . cases hmem
      . cases hmem
    . intro authority properties hget
      cases hget

/--
In every state of every run usernames are unique, and no step gives a username that is granted to
another account. A username that has been validated can be stored.
-/
theorem run_usernamesUnique (exts : List (Extrinsic T))
    : (machine T).Always State.UsernamesUnique (State.genesis T) exts ∧
        (machine T).EveryStep AccountsKept (State.genesis T) exts ∧
        ∀ name suffix, T.Representable name suffix →
          validateUsername T name (some (usernameLength T name suffix)) = .ok () →
          ∃ username : Username T,
            BoundedVec.tryFrom (fullUsername name suffix) = some username := by
  have hwell := run_wellNamed exts
  refine ⟨?_, ?_, ?_⟩
  . apply Machine.Always.imp _ hwell
    intro s hs
    exact hs.usernamesUnique
  . apply Machine.everyStep_of_always _ _ hwell
    . intro s ext _ username who hget
      exact .inl hget
    . intro s ext s' hs h
      exact (dispatch_effect h).accountsKept hs
  . intro name suffix hfits hvalid
    exact exists_bounded_username hfits hvalid

end Identity
