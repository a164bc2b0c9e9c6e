import Cord.ChainSpace.Lemmas.Isolation

/-!
This module contains the agreement of the two places that know the delegates of a space: the list
that is kept for the space, and the authorizations that were granted for it.
-/

open Frame Identifier

namespace ChainSpace

variable {T : Config} {s s' : State T} {call : Call T}

def authorizedDelegates (authorizations : StorageMap T.Ss58Identifier (SpaceAuthorization T))
    (spaceId : T.Ss58Identifier) : Multiset T.SpaceCreatorId :=
  -- The delegates of a space according to the authorizations, an account appears once for each
  -- authorization it holds.
  authorizations.sum fun _ a => if a.spaceId = spaceId then {a.delegate} else 0

def State.DelegatesAgree (s : State T) : Prop :=
  ∀ spaceId, Multiset.ofList (s.delegatesOf spaceId).toList =
    authorizedDelegates s.authorizations spaceId

def Config.CollisionFree (T : Config) : Prop :=
  -- Two authorizations have the same identifier only if they are for the same space, delegate
  -- and delegator: hashes do not collide and the encodings they are made of can be told apart.
  ∀ s1 d1 c1 s2 d2 c2 id, authorizationIdentifier T s1 d1 c1 = some id →
    authorizationIdentifier T s2 d2 c2 = some id → s1 = s2 ∧ d1 = d2 ∧ c1 = c2

/--
What agreement rests on: an authorization is stored under its own identifier, and its space exists.
-/
structure DelegatesInv (s : State T) : Prop where
  agree : s.DelegatesAgree
  keyed : ∀ id a, s.authorizations.get id = some a →
    authorizationIdentifier T a.spaceId a.delegate a.delegator = some id
  anchored : ∀ id a, s.authorizations.get id = some a → (s.spaces.get a.spaceId).isSome

section Insert

variable {authorizations : StorageMap T.Ss58Identifier (SpaceAuthorization T)}
  {id spaceId : T.Ss58Identifier} {a : SpaceAuthorization T}

theorem authorizedDelegates_insert_self (hfresh : authorizations.get id = none)
    : authorizedDelegates (authorizations.insert id a) a.spaceId =
        {a.delegate} + authorizedDelegates authorizations a.spaceId := by
  unfold authorizedDelegates
  rw [StorageMap.sum_insert_of_get_none _ _ hfresh]
  rw [if_pos rfl]

theorem authorizedDelegates_insert_of_ne (hfresh : authorizations.get id = none)
    (hne : a.spaceId ≠ spaceId)
    : authorizedDelegates (authorizations.insert id a) spaceId =
        authorizedDelegates authorizations spaceId := by
  unfold authorizedDelegates
  rw [StorageMap.sum_insert_of_get_none _ _ hfresh]
  rw [if_neg hne, zero_add]

theorem authorizedDelegates_remove_self (hget : authorizations.get id = some a)
    : authorizedDelegates authorizations a.spaceId =
        {a.delegate} + authorizedDelegates (authorizations.remove id) a.spaceId := by
  unfold authorizedDelegates
  rw [StorageMap.sum_remove _ hget]
  rw [if_pos rfl]

theorem authorizedDelegates_remove_of_ne (hget : authorizations.get id = some a)
    (hne : a.spaceId ≠ spaceId)
    : authorizedDelegates (authorizations.remove id) spaceId =
        authorizedDelegates authorizations spaceId := by
  unfold authorizedDelegates
  rw [StorageMap.sum_remove _ hget]
  rw [if_neg hne, zero_add]

theorem authorizedDelegates_eq_zero
    (h : ∀ id a, authorizations.get id = some a → a.spaceId ≠ spaceId)
    : authorizedDelegates authorizations spaceId = 0 := by
  apply StorageMap.sum_eq_zero
  intro id a ha
  rw [if_neg (h id a ha)]

end Insert

theorem delegatesOf_insert_self {spaceId : T.Ss58Identifier}
    {delegates : BoundedVec T.SpaceCreatorId T.maxSpaceDelegates}
    (h : s'.delegates = s.delegates.insert spaceId delegates)
    : s'.delegatesOf spaceId = delegates := by
  unfold State.delegatesOf
  rw [h, StorageMap.getD_insert_self]

theorem delegatesOf_insert_of_ne {spaceId other : T.Ss58Identifier}
    {delegates : BoundedVec T.SpaceCreatorId T.maxSpaceDelegates}
    (h : s'.delegates = s.delegates.insert spaceId delegates) (hne : other ≠ spaceId)
    : s'.delegatesOf other = s.delegatesOf other := by
  unfold State.delegatesOf
  rw [h, StorageMap.getD_insert_of_ne _ _ _ hne]

theorem State.AddsDelegate.agree {spaceId authorization authorizationId : T.Ss58Identifier}
    {creator delegate : T.SpaceCreatorId} {permissions required : Permissions}
    {d : SpaceDetails T} {delegates : BoundedVec T.SpaceCreatorId T.maxSpaceDelegates}
    (h : s.AddsDelegate spaceId authorization creator delegate permissions required d
      authorizationId delegates s')
    (hs : s.DelegatesAgree) : s'.DelegatesAgree := by
  intro other
  rw [h.authorizations]
  by_cases hother : other = spaceId
  . subst hother
    have hpush := (BoundedVec.tryPush_eq_some h.pushed).1
    rw [delegatesOf_insert_self h.delegates, hpush]
    rw [authorizedDelegates_insert_self h.fresh, ← hs other]
    rw [← Multiset.coe_add, add_comm]
    rfl
  . rw [delegatesOf_insert_of_ne h.delegates hother]
    rw [authorizedDelegates_insert_of_ne h.fresh (Ne.symm hother)]
    exact hs other

theorem State.RemovesDelegate.agree
    {spaceId removeAuthorization authorization : T.Ss58Identifier} {creator : T.SpaceCreatorId}
    {d : SpaceDetails T} {removed : SpaceAuthorization T} {index : Nat}
    (h : s.RemovesDelegate spaceId removeAuthorization authorization creator d removed index s')
    (hown : removed.spaceId = spaceId) (hs : s.DelegatesAgree) : s'.DelegatesAgree := by
  intro other
  rw [h.authorizations]
  by_cases hother : other = spaceId
  . subst hother
    subst hown
    rw [delegatesOf_insert_self h.delegates, BoundedVec.toList_remove]
    rw [eraseIdx_of_idxOf? h.position, ← Multiset.coe_erase, hs]
    rw [authorizedDelegates_remove_self h.stored, Multiset.singleton_add]
    rw [Multiset.erase_cons_head]
  . rw [delegatesOf_insert_of_ne h.delegates hother]
    rw [authorizedDelegates_remove_of_ne h.stored]
    . exact hs other
    . rw [hown]
      exact Ne.symm hother

theorem State.AnchorsSpace.fresh_authorization {creator : T.SpaceCreatorId}
    {identifier authorizationId : T.Ss58Identifier}
    {delegates : BoundedVec T.SpaceCreatorId T.maxSpaceDelegates} (hT : T.CollisionFree)
    (h : s.AnchorsSpace creator identifier authorizationId delegates s') (hs : DelegatesInv s)
    : s.authorizations.get authorizationId = none := by
  rw [Option.eq_none_iff_forall_ne_some]
  intro a ha
  have heq := (hT _ _ _ _ _ _ _ (hs.keyed _ a ha) h.authIdentifier).1
  have hsome := hs.anchored _ a ha
  rw [heq, h.fresh] at hsome
  cases hsome

theorem State.AnchorsSpace.agree {creator : T.SpaceCreatorId}
    {identifier authorizationId : T.Ss58Identifier}
    {delegates : BoundedVec T.SpaceCreatorId T.maxSpaceDelegates} (hT : T.CollisionFree)
    (h : s.AnchorsSpace creator identifier authorizationId delegates s') (hs : DelegatesInv s)
    : s'.DelegatesAgree := by
  have hfresh := h.fresh_authorization hT hs
  intro other
  rw [h.authorizations]
  by_cases hother : other = identifier
  . subst hother
    have hzero : authorizedDelegates s.authorizations other = 0 := by
      apply authorizedDelegates_eq_zero
      intro id a ha heq
      have hsome := hs.anchored id a ha
      rw [heq, h.fresh] at hsome
      cases hsome
    rw [delegatesOf_insert_self h.delegates, h.pushed]
    rw [authorizedDelegates_insert_self hfresh, hzero]
    rfl
  . rw [delegatesOf_insert_of_ne h.delegates hother]
    rw [authorizedDelegates_insert_of_ne hfresh (Ne.symm hother)]
    exact hs.agree other

theorem DelegatesStep.agree (hT : T.CollisionFree) (h : DelegatesStep s call s')
    (hcall : call.RemovesOwn s) (hs : DelegatesInv s) : s'.DelegatesAgree := by
  cases h with
  | keep _ hauthorizations hdelegates =>
    intro other
    unfold State.delegatesOf
    rw [hauthorizations, hdelegates]
    exact hs.agree other
  | add _ _ hadd => exact hadd.agree hs.agree
  | remove hremove => exact hremove.agree (hremove.removesOwn_iff.mp hcall) hs.agree
  | anchor _ _ hanchor => exact hanchor.agree hT hs

theorem DelegatesStep.authorization_cases (h : DelegatesStep s call s')
    (hspaces : SpacesStep s.spaces call s'.spaces) {id : T.Ss58Identifier}
    {a : SpaceAuthorization T} (ha : s'.authorizations.get id = some a)
    : s.authorizations.get id = some a ∨
        (authorizationIdentifier T a.spaceId a.delegate a.delegator = some id ∧
          (s'.spaces.get a.spaceId).isSome) := by
  cases h with
  | keep _ hauthorizations =>
    rw [hauthorizations] at ha
    exact .inl ha
  | add _ _ hadd =>
    rw [hadd.authorizations, StorageMap.get_insert] at ha
    split at ha
    . next heq =>
      injection ha with ha
      subst ha heq
      refine .inr ⟨hadd.authIdentifier, hspaces.isSome ?_⟩
      rw [hadd.space]
      rfl
    . exact .inl ha
  | remove hremove =>
    rw [hremove.authorizations, StorageMap.get_remove] at ha
    split at ha
    . cases ha
    . exact .inl ha
  | anchor _ _ hanchor stored =>
    rw [hanchor.authorizations, StorageMap.get_insert] at ha
    split at ha
    . next heq =>
      injection ha with ha
      subst ha heq
      exact .inr ⟨hanchor.authIdentifier, stored⟩
    . exact .inl ha

theorem DelegatesStep.delegatesInv (hT : T.CollisionFree) (h : DelegatesStep s call s')
    (hspaces : SpacesStep s.spaces call s'.spaces) (hcall : call.RemovesOwn s)
    (hs : DelegatesInv s) : DelegatesInv s' := by
  constructor
  . exact h.agree hT hcall hs
  . intro id a ha
    rcases h.authorization_cases hspaces ha with hold | ⟨hkeyed, _⟩
    . exact hs.keyed id a hold
    . exact hkeyed
  . intro id a ha
    rcases h.authorization_cases hspaces ha with hold | ⟨_, hsome⟩
    . exact hspaces.isSome (hs.anchored id a hold)
    . exact hsome

theorem delegatesInv_genesis : DelegatesInv (State.genesis T) := by
  constructor
  . intro spaceId
    rfl
  . intro id a ha
    cases ha
  . intro id a ha
    cases ha

/--
The list of the delegates of a space and the authorizations for it agree in every state of a run as
long as no call removes an authorization from a space it does not belong to.
-/
theorem run_delegatesAgree (hT : T.CollisionFree) {exts : List (Extrinsic T)}
    (h : (machine T).Meets (fun s ext => ext.call.RemovesOwn s) (State.genesis T) exts)
    : ((machine T).run (State.genesis T) exts).DelegatesAgree := by
  have hinv : DelegatesInv ((machine T).run (State.genesis T) exts) := by
    apply Machine.run_of_meets _ delegatesInv_genesis h
    intro s ext s' hs hown hsucc
    have hcall := Extrinsic.dispatch_iff.mp hsucc
    exact (dispatch_delegates hcall).delegatesInv hT (dispatch_spaces hcall) hown
      ⟨hs.agree, hs.keyed, hs.anchored⟩
  exact hinv.agree

section Plain

theorem plain_collisionFree : Config.plain.CollisionFree := by
  intro s1 d1 c1 s2 d2 c2 id h1 h2
  rw [← h2] at h1
  have happend : s1 ++ [d1, c1] = s2 ++ [d2, c2] := by
    simpa [authorizationIdentifier] using h1
  have hparts := List.append_inj' happend rfl
  simpa using hparts

theorem removeOwn_delegatesAgree
    : ((machine .plain).run (State.genesis .plain)
        (twoSpacesRun ++ [removeOwn])).DelegatesAgree := by
  apply run_delegatesAgree plain_collisionFree
  decide +kernel

theorem removeForeign_not_delegatesAgree
    : ¬ ∀ exts : List (Extrinsic .plain),
        ((machine .plain).run (State.genesis .plain) exts).DelegatesAgree := by
  intro h
  have hagree := h (twoSpacesRun ++ [removeForeign]) (plainSpace 10 1)
  revert hagree
  decide +kernel

end Plain

end ChainSpace
