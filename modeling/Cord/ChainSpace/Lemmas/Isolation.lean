import Cord.ChainSpace.Lemmas.Steps

/-!
This module contains how far a delegate of one space can reach into the others.
-/

open Frame Identifier

namespace ChainSpace

variable {T : Config} {s s' : State T} {call : Call T}

/--
Between `s` and `s'` no authorization and no list of delegates of a space other than `spaceId` has
changed.
-/
structure State.Isolates (s : State T) (spaceId : T.Ss58Identifier) (s' : State T) : Prop where
  authorizations : ∀ id a, a.spaceId ≠ spaceId →
    (s'.authorizations.get id = some a ↔ s.authorizations.get id = some a)
  delegates : ∀ other, other ≠ spaceId → s'.delegates.get other = s.delegates.get other

def Call.RemovesOwn (call : Call T) (s : State T) : Prop :=
  match call with
  | .removeDelegate spaceId removeAuthorization _ =>
    ∀ a ∈ s.authorizations.get removeAuthorization, a.spaceId = spaceId
  | _ => True

theorem Call.removesOwn_of_removed_none (h : call.removed? = none) : call.RemovesOwn s := by
  cases call with
  | removeDelegate => cases h
  | _ => trivial

instance (call : Call T) (s : State T) : Decidable (call.RemovesOwn s) :=
  match call with
  | .removeDelegate _ removeAuthorization _ =>
    inferInstanceAs (Decidable (∀ a ∈ s.authorizations.get removeAuthorization, _))
  | .addDelegate .. | .addAdminDelegate .. | .addDelegator .. | .create .. | .approve ..
  | .archive .. | .restore .. | .updateTransactionCapacity .. | .resetTransactionCount ..
  | .approvalRevoke .. | .approvalRestore .. | .subspaceCreate ..
  | .updateTransactionCapacitySub .. => isTrue trivial

theorem State.RemovesDelegate.removesOwn_iff
    {spaceId removeAuthorization authorization : T.Ss58Identifier} {creator : T.SpaceCreatorId}
    {d : SpaceDetails T} {removed : SpaceAuthorization T} {index : Nat}
    (h : s.RemovesDelegate spaceId removeAuthorization authorization creator d removed index s')
    : (Call.removeDelegate spaceId removeAuthorization authorization).RemovesOwn s
        ↔
      removed.spaceId = spaceId := by
  unfold Call.RemovesOwn
  simp [h.stored]

theorem State.AddsDelegate.isolates {spaceId authorization authorizationId : T.Ss58Identifier}
    {creator delegate : T.SpaceCreatorId} {permissions required : Permissions}
    {d : SpaceDetails T} {delegates : BoundedVec T.SpaceCreatorId T.maxSpaceDelegates}
    (h : s.AddsDelegate spaceId authorization creator delegate permissions required d
      authorizationId delegates s')
    : s.Isolates spaceId s' := by
  constructor
  . intro id a hne
    rw [h.authorizations, StorageMap.get_insert]
    split
    . next heq =>
      -- The new entry belongs to the space itself, and there was no entry in its place.
      rw [heq, h.fresh]
      constructor
      . intro hnew
        injection hnew with hnew
        rw [← hnew] at hne
        exact absurd rfl hne
      . intro hold
        cases hold
    . exact Iff.rfl
  . intro other hne
    rw [h.delegates, StorageMap.get_insert_of_ne _ _ hne]

theorem State.RemovesDelegate.isolates_iff
    {spaceId removeAuthorization authorization : T.Ss58Identifier} {creator : T.SpaceCreatorId}
    {d : SpaceDetails T} {removed : SpaceAuthorization T} {index : Nat}
    (h : s.RemovesDelegate spaceId removeAuthorization authorization creator d removed index s')
    : s.Isolates spaceId s' ↔ removed.spaceId = spaceId := by
  constructor
  . intro hiso
    by_contra hne
    have hstored := (hiso.authorizations removeAuthorization removed hne).mpr h.stored
    rw [h.authorizations, StorageMap.get_remove_self] at hstored
    cases hstored
  . intro hspace
    constructor
    . intro id a hne
      rw [h.authorizations, StorageMap.get_remove]
      split
      . next heq =>
        rw [heq, h.stored]
        constructor
        . intro hnone
          cases hnone
        . intro hsome
          injection hsome with hsome
          rw [← hsome] at hne
          exact absurd hspace hne
      . exact Iff.rfl
    . intro other hne
      rw [h.delegates, StorageMap.get_insert_of_ne _ _ hne]

theorem State.Authorizes.spaceId_eq {required : Permissions} {authorization spaceId : T.Ss58Identifier}
    {delegate : T.SpaceCreatorId} {a : SpaceAuthorization T}
    (h : s.Authorizes required authorization delegate spaceId)
    (ha : s.authorizations.get authorization = some a) : spaceId = a.spaceId := by
  obtain ⟨a', ha', _, hspace, _⟩ := h
  rw [ha] at ha'
  injection ha' with ha'
  rw [← hspace, ← ha']

theorem DelegatesStep.isolates_iff {authorization : T.Ss58Identifier} {a : SpaceAuthorization T}
    (h : DelegatesStep s call s') (hauth' : call.authorization? = some authorization)
    (ha : s.authorizations.get authorization = some a)
    : s.Isolates a.spaceId s' ↔ call.RemovesOwn s := by
  cases h with
  | keep hcall hauthorizations hdelegates =>
    have hiso : s.Isolates a.spaceId s' := by
      constructor
      . intro id a _
        rw [hauthorizations]
      . intro other _
        rw [hdelegates]
    exact iff_of_true hiso (Call.removesOwn_of_removed_none hcall)
  | add hcall hauth hadd =>
    rw [hauth'] at hauth
    injection hauth with hauth
    subst hauth
    rw [← hadd.authorizes.spaceId_eq ha]
    exact iff_of_true hadd.isolates (Call.removesOwn_of_removed_none hcall)
  | remove hremove =>
    injection hauth' with hauth'
    subst hauth'
    rw [← hremove.authorizes.spaceId_eq ha]
    rw [hremove.isolates_iff]
    rw [hremove.removesOwn_iff]
  | anchor hcall hauth =>
    rw [hauth'] at hauth
    cases hauth

/--
A call of a delegate stays within the space of its authorization exactly if it does not remove an
authorization of another space.
-/
theorem dispatch_isolates_iff {ext : Extrinsic T} {authorization : T.Ss58Identifier}
    {a : SpaceAuthorization T} (hauth : ext.call.authorization? = some authorization)
    (ha : s.authorizations.get authorization = some a)
    (h : Succeeds ((machine T).dispatch ext) s () s')
    : s.Isolates a.spaceId s' ↔ ext.call.RemovesOwn s := by
  have hstep := dispatch_delegates (Extrinsic.dispatch_iff.mp h)
  have hiff := hstep.isolates_iff hauth ha
  exact ⟨fun hiso => hiff.mp ⟨hiso.authorizations, hiso.delegates⟩,
    fun hwithin => ⟨(hiff.mpr hwithin).authorizations, (hiff.mpr hwithin).delegates⟩⟩

section Plain

def twoSpacesRun : List (Extrinsic .plain) := [
    -- Subject 1 has made subject 2, who has a space as well, a delegate of its own space.
    plainExtrinsic (some 1) (.create [10]),
    plainExtrinsic (some 2) (.create [20]),
    plainExtrinsic none (.approve (plainSpace 10 1) 100),
    plainExtrinsic (some 1)
      (.addDelegate (plainSpace 10 1) 2 (plainAuthorization (plainSpace 10 1) 1 1))
  ]

def twoSpaces : State .plain :=
  (machine .plain).run (State.genesis .plain) twoSpacesRun

def removeOwn : Extrinsic .plain :=
  plainExtrinsic (some 1)
    (.removeDelegate (plainSpace 10 1) (plainAuthorization (plainSpace 10 1) 2 1)
      (plainAuthorization (plainSpace 10 1) 1 1))

def removeForeign : Extrinsic .plain :=
  -- Subject 1 revokes the authorization that subject 2 has for the space it created.
  plainExtrinsic (some 1)
    (.removeDelegate (plainSpace 10 1) (plainAuthorization (plainSpace 20 2) 2 2)
      (plainAuthorization (plainSpace 10 1) 1 1))

theorem removeOwn_isolates
    : twoSpaces.Isolates (plainSpace 10 1) ((machine .plain).next twoSpaces removeOwn) := by
  have ha : twoSpaces.authorizations.get (plainAuthorization (plainSpace 10 1) 1 1) =
      some ⟨plainSpace 10 1, 1, .all, 1⟩ := by
    decide +kernel
  have h : (machine .plain).accepts twoSpaces removeOwn = true := by
    decide +kernel
  rw [Machine.accepts_iff] at h
  apply (dispatch_isolates_iff rfl ha h).mpr
  decide +kernel

theorem removeForeign_not_isolates
    : ¬ ∀ (s : State .plain) (ext : Extrinsic .plain) (s' : State .plain) (authorization)
        (a : SpaceAuthorization .plain),
        (machine .plain).Reachable (State.genesis .plain) s →
        ext.call.authorization? = some authorization →
        s.authorizations.get authorization = some a →
        Succeeds ((machine .plain).dispatch ext) s () s' →
        s.Isolates a.spaceId s' := by
  intro hall
  have ha : twoSpaces.authorizations.get (plainAuthorization (plainSpace 10 1) 1 1) =
      some ⟨plainSpace 10 1, 1, .all, 1⟩ := by
    decide +kernel
  have h : (machine .plain).accepts twoSpaces removeForeign = true := by
    decide +kernel
  rw [Machine.accepts_iff] at h
  have hiso := hall twoSpaces removeForeign _ _ _ ⟨_, rfl⟩ rfl ha h
  have hforeign := (hiso.authorizations (plainAuthorization (plainSpace 20 2) 2 2)
    ⟨plainSpace 20 2, 2, .all, 2⟩ (by decide)).mpr (by decide +kernel)
  revert hforeign
  decide +kernel

end Plain

end ChainSpace
