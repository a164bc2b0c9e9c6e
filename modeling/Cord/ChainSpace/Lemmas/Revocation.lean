import Cord.ChainSpace.Lemmas.Steps

/-!
This module contains what is left to a delegate that was removed from a space. A removal takes out
one entry of the list and one authorization, but an account has one of each for every delegator that
has added it.
-/

open Frame Identifier

namespace ChainSpace

variable {T : Config} {s s' : State T} {spaceId removeAuthorization authorization : T.Ss58Identifier}

def ensureAuthorizationChecks (T : Config)
    : List (T.Ss58Identifier → T.SpaceCreatorId → CallM T T.Ss58Identifier) :=
  [
    ensureAuthorizationOrigin,
    ensureAuthorizationRestoreOrigin,
    ensureAuthorizationAdminOrigin,
    ensureAuthorizationDelegatorOrigin,
    ensureAuthorizationAdminRemoveOrigin
  ]

/--
An account has no part in a space: it is not in the list, no authorization of the space names it and
it passes none of the checks for the space.
-/
structure State.Revoked (s : State T) (spaceId : T.Ss58Identifier) (delegate : T.SpaceCreatorId)
    : Prop where
  notListed : isADelegate s spaceId delegate = false
  notNamed : ∀ id a, s.authorizations.get id = some a → a.spaceId = spaceId → a.delegate ≠ delegate
  notAdmitted : ∀ check ∈ ensureAuthorizationChecks T, ∀ id s',
    ¬ Succeeds (check id delegate) s spaceId s'

/--
An account holds a single authorization of a space, and it is in the list of the space once.
-/
structure State.HeldOnce (s : State T) (spaceId id : T.Ss58Identifier)
    (delegate : T.SpaceCreatorId) : Prop where
  listed : (s.delegatesOf spaceId).toList.count delegate = 1
  named : ∀ other a, s.authorizations.get other = some a → a.spaceId = spaceId →
    a.delegate = delegate → other = id

def Revokes (s : State T) (ext : Extrinsic T) (s' : State T) : Prop :=
  (machine T).accepts s ext = true →
    match ext.call with
    | .removeDelegate spaceId removeAuthorization _ =>
      ∀ a ∈ s.authorizations.get removeAuthorization, a.spaceId = spaceId →
        s'.Revoked spaceId a.delegate
    | _ => True

def Call.RemovesOnly (call : Call T) (s : State T) : Prop :=
  match call with
  | .removeDelegate spaceId removeAuthorization _ =>
    ∀ a ∈ s.authorizations.get removeAuthorization, a.spaceId = spaceId →
      s.HeldOnce spaceId removeAuthorization a.delegate
  | _ => True

theorem isADelegate_eq_false_iff {delegate : T.SpaceCreatorId}
    : isADelegate s spaceId delegate = false ↔ delegate ∉ (s.delegatesOf spaceId).toList := by
  unfold isADelegate
  rw [List.any_eq_false]
  simp only [decide_eq_true_eq]
  constructor
  . intro h hmem
    exact h delegate hmem rfl
  . rintro h _ hmem rfl
    exact h hmem

theorem authorizes_of_check {check : T.Ss58Identifier → T.SpaceCreatorId → CallM T T.Ss58Identifier}
    {id : T.Ss58Identifier} {delegate : T.SpaceCreatorId}
    (hcheck : check ∈ ensureAuthorizationChecks T) (h : Succeeds (check id delegate) s spaceId s')
    : ∃ required, s.Authorizes required id delegate spaceId := by
  simp only [ensureAuthorizationChecks, List.mem_cons, List.not_mem_nil, or_false] at hcheck
  rcases hcheck with rfl | rfl | rfl | rfl | rfl
  . obtain ⟨_, hauth, _⟩ := ensureAuthorizationOrigin_iff.mp h
    exact ⟨_, hauth⟩
  . obtain ⟨_, hauth, _⟩ := ensureAuthorizationRestoreOrigin_iff.mp h
    exact ⟨_, hauth⟩
  . obtain ⟨_, hauth, _⟩ := ensureAuthorizationAdminOrigin_iff.mp h
    exact ⟨_, hauth⟩
  . obtain ⟨_, hauth, _⟩ := ensureAuthorizationDelegatorOrigin_iff.mp h
    exact ⟨_, hauth⟩
  . obtain ⟨_, hauth, _⟩ := ensureAuthorizationAdminRemoveOrigin_iff.mp h
    exact ⟨_, hauth⟩

theorem State.revoked_iff {delegate : T.SpaceCreatorId}
    : s.Revoked spaceId delegate ↔
        delegate ∉ (s.delegatesOf spaceId).toList ∧
        ∀ id a, s.authorizations.get id = some a → a.spaceId = spaceId →
          a.delegate ≠ delegate := by
  constructor
  . intro h
    exact ⟨isADelegate_eq_false_iff.mp h.notListed, h.notNamed⟩
  . rintro ⟨hlisted, hnamed⟩
    refine ⟨isADelegate_eq_false_iff.mpr hlisted, hnamed, ?_⟩
    -- A check that passes has found an authorization of the space that names the account.
    intro check hcheck id s' hsucc
    obtain ⟨_, a, ha, hdelegate, hspace, _⟩ := authorizes_of_check hcheck hsucc
    exact hnamed id a ha hspace hdelegate

theorem not_mem_erase_iff {α : Type} [DecidableEq α] {l : List α} {x : α} (h : x ∈ l)
    : x ∉ l.erase x ↔ l.count x = 1 := by
  rw [← List.count_eq_zero, List.count_erase_self]
  have hpos := List.count_pos_iff.mpr h
  omega

theorem State.RemovesDelegate.revoked_iff {creator : T.SpaceCreatorId} {d : SpaceDetails T}
    {removed : SpaceAuthorization T} {index : Nat}
    (h : s.RemovesDelegate spaceId removeAuthorization authorization creator d removed index s')
    : s'.Revoked spaceId removed.delegate
        ↔
      s.HeldOnce spaceId removeAuthorization removed.delegate := by
  have hdelegates : s'.delegatesOf spaceId = (s.delegatesOf spaceId).remove index := by
    unfold State.delegatesOf
    rw [h.delegates, StorageMap.getD_insert_self]
    rfl
  have hmem := mem_of_idxOf? h.position
  rw [State.revoked_iff, hdelegates, BoundedVec.toList_remove, eraseIdx_of_idxOf? h.position,
    not_mem_erase_iff hmem, h.authorizations]
  constructor
  . rintro ⟨hcount, hnamed⟩
    refine ⟨hcount, ?_⟩
    intro other a ha hspace hdelegate
    by_contra hne
    apply hnamed other a _ hspace hdelegate
    rw [StorageMap.get_remove_of_ne _ hne]
    exact ha
  . intro honce
    refine ⟨honce.listed, ?_⟩
    intro other a ha hspace hdelegate
    rw [StorageMap.get_remove] at ha
    split at ha
    . cases ha
    . next hne => exact hne (honce.named other a ha hspace hdelegate)

theorem dispatch_revokes_iff {ext : Extrinsic T} (h : Succeeds ((machine T).dispatch ext) s () s')
    : Revokes s ext s' ↔ ext.call.RemovesOnly s := by
  unfold Revokes
  simp only [Machine.Succeeds.accepts h, true_imp_iff]
  obtain ⟨origin, timepoint, call⟩ := ext
  have hcall := Extrinsic.dispatch_iff.mp h
  cases call with
  | removeDelegate spaceId removeAuthorization authorization =>
    obtain ⟨_, _, removed, _, _, hremove⟩ := removeDelegate_spec hcall
    have hstored : s.authorizations.get removeAuthorization = some removed := hremove.stored
    have hiff := hremove.revoked_iff
    unfold Call.RemovesOnly
    simp only [hstored, Option.mem_def, Option.some.injEq, forall_eq']
    apply imp_congr_right
    intro _
    -- The step starts at a new point in time, which neither side looks at.
    exact ⟨fun hr => ⟨(hiff.mp hr).listed, (hiff.mp hr).named⟩,
      fun ho => hiff.mpr ⟨ho.listed, ho.named⟩⟩
  | _ => exact Iff.rfl

/--
Removing a delegate revokes it, throughout a run, exactly if every removal finds the account once in
the list of the space and holding no other authorization of the space than the removed one.
-/
theorem run_revokes_iff (exts : List (Extrinsic T))
    : (machine T).EveryStep Revokes (State.genesis T) exts
        ↔
      (machine T).Meets (fun s ext => ext.call.RemovesOnly s) (State.genesis T) exts := by
  apply Machine.everyStep_iff_meets (J := fun _ => True)
  . intro s ext hfails haccepts
    rw [hfails] at haccepts
    cases haccepts
  . intros
    trivial
  . intro s ext s' _ h
    exact dispatch_revokes_iff h
  . trivial

section Plain

def twoGrantsRun : List (Extrinsic .plain) := [
    -- Subject 3 is made a delegate of the same space by subject 1, who created it, and by
    -- subject 2, who is an admin of it.
    plainExtrinsic (some 1) (.create [10]),
    plainExtrinsic none (.approve (plainSpace 10 1) 100),
    plainExtrinsic (some 1)
      (.addAdminDelegate (plainSpace 10 1) 2 (plainAuthorization (plainSpace 10 1) 1 1)),
    plainExtrinsic (some 1)
      (.addDelegate (plainSpace 10 1) 3 (plainAuthorization (plainSpace 10 1) 1 1)),
    plainExtrinsic (some 2)
      (.addAdminDelegate (plainSpace 10 1) 3 (plainAuthorization (plainSpace 10 1) 2 1))
  ]

def removeOneGrant : Extrinsic .plain :=
  plainExtrinsic (some 1)
    (.removeDelegate (plainSpace 10 1) (plainAuthorization (plainSpace 10 1) 3 1)
      (plainAuthorization (plainSpace 10 1) 1 1))

theorem removeOneGrant_not_revokes
    : ¬ ∀ exts : List (Extrinsic .plain),
        (machine .plain).EveryStep Revokes (State.genesis .plain) exts := by
  intro hall
  have haccepts : (machine .plain).accepts
      ((machine .plain).run (State.genesis .plain) twoGrantsRun) removeOneGrant = true := by
    decide +kernel
  have hrevoked := (hall (twoGrantsRun ++ [removeOneGrant])).last haccepts
    ⟨plainSpace 10 1, 3, .assert, 1⟩ (by decide +kernel) rfl
  have hlisted := hrevoked.notListed
  revert hlisted
  decide +kernel

end Plain

end ChainSpace
