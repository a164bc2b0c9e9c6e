import Cord.ChainSpace.Lemmas.Steps

/-!
This module contains how many transactions of its delegates a space takes. A single transaction is
counted first and then compared with the capacity as if it was yet to come, so the last unit of the
capacity is never given out. A batch is compared with what it leaves behind.
-/

open Frame Identifier

namespace ChainSpace

variable {T : Config} {s s' : State T} {spaceId : T.Ss58Identifier} {d : SpaceDetails T}

/--
What happens to the spaces: a transaction of a delegate, which is a call of another pallet that asks
for the authorization, or a call of the pallet itself.
-/
inductive Action (T : Config) where
  | transaction (authorizationId : T.Ss58Identifier) (delegate : T.SpaceCreatorId)
  | extrinsic (ext : Extrinsic T)

def Action.dispatch : Action T → CallM T Unit
  | .transaction authorizationId delegate => do
    let _ ← ensureAuthorizationOrigin authorizationId delegate
  | .extrinsic ext => ext.dispatch

def usage (T : Config) : Machine (State T) Error (Action T) where
  dispatch := Action.dispatch

def Action.authorised (spaceId : T.Ss58Identifier) (s : State T) : Action T → Bool
  | .transaction authorizationId delegate =>
    (s.authorizations.get authorizationId).any fun a =>
      a.delegate = delegate ∧ a.spaceId = spaceId ∧ a.permissions.contains .assert
  | .extrinsic _ => false

def Action.LeavesSpace (spaceId : T.Ss58Identifier) (s : State T) (action : Action T)
    (s' : State T) : Prop :=
  match action with
  | .transaction .. => True
  | .extrinsic _ => s'.spaces.get spaceId = s.spaces.get spaceId

def transactions (spaceId : T.Ss58Identifier) (s : State T) (actions : List (Action T)) : Nat :=
  (usage T).countSteps (Action.authorised spaceId) s actions

def acceptedTransactions (spaceId : T.Ss58Identifier) (s : State T) (actions : List (Action T))
    : Nat :=
  (usage T).countSteps
    (fun s action => action.authorised spaceId s && (usage T).accepts s action) s actions

/--
Capacity means capacity: the authorised transactions are accepted as long as there are not more of
them than the capacity, those that are not accepted fail because of it, and a batch is accepted
exactly if it fits.
-/
structure MeansCapacity (spaceId : T.Ss58Identifier) (capacity : UInt64) (s : State T)
    (actions : List (Action T)) : Prop where
  accepted : acceptedTransactions spaceId s actions =
    min capacity.toNat (transactions spaceId s actions)
  rejected : (usage T).EveryStep
    (fun s action _ => action.authorised spaceId s = true → (usage T).accepts s action = false →
      Fails action.dispatch s (.module .capacityLimitExceeded)) s actions
  batch : (usage T).Always
    (fun s => ∀ d ∈ s.spaces.get spaceId, ∀ entries : UInt16,
      Succeeds (validateSpaceForTransactionEntries spaceId entries) s () s ↔
        d.txnCount.toNat + entries.toNat ≤ capacity.toNat) s actions

def State.Takes (s : State T) (spaceId : T.Ss58Identifier) (capacity : UInt64) (count : Nat)
    : Prop :=
  ∃ d, s.spaces.get spaceId = some d ∧ d.archive = false ∧ d.approved = true ∧
    d.txnCapacity = capacity ∧ d.txnCount.toNat = count

theorem authorised_iff {authorizationId : T.Ss58Identifier} {delegate : T.SpaceCreatorId}
    : (Action.transaction authorizationId delegate).authorised spaceId s = true ↔
        s.Authorizes .assert authorizationId delegate spaceId := by
  simp [Action.authorised, State.Authorizes, Option.any_eq_true]

theorem transaction_iff {authorizationId : T.Ss58Identifier} {delegate : T.SpaceCreatorId}
    : Succeeds ((usage T).dispatch (.transaction authorizationId delegate)) s () s'
        ↔
      ∃ spaceId d, s.Authorizes .assert authorizationId delegate spaceId ∧
        s.spaces.get spaceId = some d ∧ d.charge.CanTransact ∧
        s' = { s with spaces := s.spaces.insert spaceId d.charge } := by
  simp only [usage, Action.dispatch, Succeeds.bind_iff, ensureAuthorizationOrigin_iff,
    Succeeds.pure_iff, true_and]
  constructor
  . rintro ⟨spaceId, t, ⟨d, hauth, hd, hvalid, rfl⟩, rfl⟩
    exact ⟨spaceId, d, hauth, hd, hvalid, rfl⟩
  . rintro ⟨spaceId, d, hauth, hd, hvalid, rfl⟩
    exact ⟨spaceId, _, ⟨d, hauth, hd, hvalid, rfl⟩, rfl⟩

theorem transaction_fails {authorizationId : T.Ss58Identifier} {delegate : T.SpaceCreatorId}
    (hauth : s.Authorizes .assert authorizationId delegate spaceId)
    (hd : s.spaces.get spaceId = some d) (hactive : d.archive = false)
    (happroved : d.approved = true)
    (hfull : ¬ (d.charge.txnCapacity = 0 ∨ d.charge.txnCount < d.charge.txnCapacity))
    : Fails (Action.dispatch (.transaction authorizationId delegate)) s
        (.module .capacityLimitExceeded) := by
  obtain ⟨a, ha, hdelegate, rfl, _⟩ := hauth
  have hvalidate : Fails (validateSpaceForTransaction a.spaceId)
      { s with spaces := s.spaces.insert a.spaceId d.charge } (.module .capacityLimitExceeded) := by
    simp only [validateSpaceForTransaction, Fails.bind_iff, Fails.ensure_iff, Succeeds.ensure_iff,
      getSpace_iff, Bool.not_eq_true']
    right
    refine ⟨d.charge, _, ⟨StorageMap.get_insert_self .., rfl⟩, .inr ?_⟩
    refine ⟨(), _, ⟨hactive, rfl⟩, .inr ?_⟩
    exact ⟨(), _, ⟨happroved, rfl⟩, hfull, trivial⟩
  -- The authorization is found, names the delegate and the usage is counted.
  unfold Action.dispatch ensureAuthorizationOrigin ensureAuthorization incrementUsage
  simp only [Fails.bind_iff, Succeeds.bind_iff, Succeeds.get_iff, Succeeds.okOr_iff,
    Succeeds.ensure_iff, mutateUsage_iff, Fails.pure_iff]
  left
  right
  refine ⟨s, s, ⟨rfl, rfl⟩, .inr ?_⟩
  refine ⟨a, s, ⟨ha, rfl⟩, .inr ?_⟩
  refine ⟨(), s, ⟨hdelegate, rfl⟩, .inr ?_⟩
  exact ⟨(), _, ⟨d, hd, rfl⟩, .inl hvalidate⟩

section Steps

variable {capacity : UInt64} {count : Nat} {action : Action T} {actions : List (Action T)}

theorem takes_of_unauthorised (hs : s.Takes spaceId capacity count)
    (hleaves : action.LeavesSpace spaceId s ((usage T).next s action))
    (hauth : action.authorised spaceId s = false)
    : ((usage T).next s action).Takes spaceId capacity count := by
  have hget : ((usage T).next s action).spaces.get spaceId = s.spaces.get spaceId := by
    cases action with
    | extrinsic ext => exact hleaves
    | transaction authorizationId delegate =>
      cases Machine.next_cases (usage T) s (.transaction authorizationId delegate) with
      | inr hnext => rw [hnext]
      | inl hsucc =>
        obtain ⟨other, d, hother, _, _, hnext⟩ := transaction_iff.mp hsucc
        rw [hnext]
        apply StorageMap.get_insert_of_ne
        rintro rfl
        rw [authorised_iff.mpr hother] at hauth
        cases hauth
  unfold State.Takes
  rw [hget]
  exact hs

/--
What an action does to a space that takes transactions: it does not touch the space, it is a
transaction and counted, or it asks for the last unit of the capacity.
-/
theorem takes_cases (hs : s.Takes spaceId capacity count) (hlt : count < capacity.toNat)
    (hleaves : action.LeavesSpace spaceId s ((usage T).next s action))
    : (action.authorised spaceId s = false ∧
          ((usage T).next s action).Takes spaceId capacity count) ∨
        (action.authorised spaceId s = true ∧ (usage T).accepts s action = true ∧
          count + 1 < capacity.toNat ∧
          ((usage T).next s action).Takes spaceId capacity (count + 1)) ∨
        (action.authorised spaceId s = true ∧ (usage T).accepts s action = false ∧
          count + 1 = capacity.toNat ∧
          ((usage T).next s action).Takes spaceId capacity count ∧
          Fails action.dispatch s (.module .capacityLimitExceeded)) := by
  cases hauth : action.authorised spaceId s with
  | false => exact .inl ⟨rfl, takes_of_unauthorised hs hleaves hauth⟩
  | true =>
    right
    cases action with
    | extrinsic ext => cases hauth
    | transaction authorizationId delegate =>
      rw [authorised_iff] at hauth
      obtain ⟨d, hd, hactive, happroved, rfl, rfl⟩ := hs
      have hremaining : d.txnCapacity = 0 ∨ d.txnCount < d.txnCapacity := .inr hlt
      by_cases hlast : d.LastUnit
      . right
        have hfull := mt (charge_remaining_iff hremaining).mp (not_not.mpr hlast)
        have hfails := transaction_fails hauth hd hactive happroved hfull
        have hnot : ∀ s', ¬ Succeeds ((usage T).dispatch (.transaction authorizationId delegate)) s
            () s' := by
          intro s' hsucc
          cases hfails.symm.trans hsucc
        rw [Machine.next_of_fails hnot]
        exact ⟨rfl, Machine.accepts_eq_false_iff.mpr hnot, hlast,
          ⟨d, hd, hactive, happroved, rfl, rfl⟩, hfails⟩
      . left
        have hvalid := (charge_canTransact_iff hactive happroved hremaining).mpr hlast
        have hsucc := transaction_iff.mpr ⟨spaceId, d, hauth, hd, hvalid, rfl⟩
        have hmore : d.txnCount.toNat + 1 < d.txnCapacity.toNat := by
          unfold SpaceDetails.LastUnit at hlast
          omega
        refine ⟨rfl, Machine.Succeeds.accepts hsucc, hmore, ?_⟩
        rw [Machine.next_of_succeeds hsucc]
        refine ⟨d.charge, StorageMap.get_insert_self .., hactive, happroved, rfl, ?_⟩
        have hcapacity := d.txnCapacity.toNat_lt
        unfold SpaceDetails.charge
        rw [toNat_saturatingAdd, UInt64.toNat_one]
        omega

theorem accepted_eq_min (hs : s.Takes spaceId capacity count) (hlt : count < capacity.toNat)
    (hrun : (usage T).EveryStep (fun s action s' => action.LeavesSpace spaceId s s') s actions)
    : acceptedTransactions spaceId s actions =
        min (capacity.toNat - 1 - count) (transactions spaceId s actions) := by
  unfold acceptedTransactions transactions
  induction actions generalizing s count with
  | nil => simp [Machine.countSteps]
  | cons action actions ih =>
    unfold Machine.countSteps
    rcases takes_cases hs hlt hrun.1 with ⟨hauth, hnext⟩ | ⟨hauth, haccepts, hmore, hnext⟩ |
      ⟨hauth, haccepts, hlast, hnext, _⟩
    . rw [ih hnext hlt hrun.2, hauth]
      simp
    . rw [ih hnext hmore hrun.2, hauth, haccepts]
      simp only [Bool.and_self, Bool.toNat_true]
      omega
    . rw [ih hnext hlt hrun.2, hauth, haccepts]
      simp only [Bool.and_false, Bool.toNat_false, Bool.toNat_true]
      omega

theorem rejected_of_takes (hs : s.Takes spaceId capacity count) (hlt : count < capacity.toNat)
    (hrun : (usage T).EveryStep (fun s action s' => action.LeavesSpace spaceId s s') s actions)
    : (usage T).EveryStep
        (fun s action _ => action.authorised spaceId s = true →
          (usage T).accepts s action = false →
          Fails action.dispatch s (.module .capacityLimitExceeded)) s actions := by
  induction actions generalizing s count with
  | nil => trivial
  | cons action actions ih =>
    rcases takes_cases hs hlt hrun.1 with ⟨hauth, hnext⟩ | ⟨_, haccepts, hmore, hnext⟩ |
      ⟨_, _, _, hnext, hfails⟩
    . exact ⟨fun h => absurd h (by rw [hauth]; nofun), ih hnext hlt hrun.2⟩
    . exact ⟨fun _ h => absurd h (by rw [haccepts]; nofun), ih hnext hmore hrun.2⟩
    . exact ⟨fun _ _ => hfails, ih hnext hlt hrun.2⟩

theorem batch_iff (hs : s.Takes spaceId capacity count) (hlt : count < capacity.toNat)
    (hd : s.spaces.get spaceId = some d) (entries : UInt16)
    : Succeeds (validateSpaceForTransactionEntries spaceId entries) s () s
        ↔
      d.txnCount.toNat + entries.toNat ≤ capacity.toNat := by
  obtain ⟨d', hd', hactive, happroved, rfl, rfl⟩ := hs
  rw [hd, Option.some.injEq] at hd'
  subst hd'
  have hcapacity := d.txnCapacity.toNat_lt
  have hentries : entries.toUInt64.toNat = entries.toNat := UInt16.toNat_toUInt64 entries
  simp only [validateSpaceForTransactionEntries, Succeeds.bind_iff, getSpace_iff,
    Succeeds.ensure_iff, Succeeds.okOr_iff, Bool.not_eq_true', checkedAdd_eq_some, and_assoc,
    exists_and_left, exists_eq_left, exists_const]
  constructor
  . rintro ⟨e, he, _, _, hno, hroom, _⟩
    rw [hd, Option.some.injEq] at he
    subst he
    rw [UInt64.le_iff_toNat_le, toNat_add_of_lt hno, hentries] at hroom
    rcases hroom with hzero | hle
    . rw [hzero] at hlt
      exact absurd hlt (Nat.not_lt_zero _)
    . exact hle
  . intro hfits
    have hno : d.txnCount.toNat + entries.toUInt64.toNat < 2 ^ 64 := by
      omega
    refine ⟨d, hd, hactive, happroved, hno, .inr ?_, trivial⟩
    rw [UInt64.le_iff_toNat_le, toNat_add_of_lt hno, hentries]
    exact hfits

theorem batch_of_takes (hs : s.Takes spaceId capacity count) (hlt : count < capacity.toNat)
    (hrun : (usage T).EveryStep (fun s action s' => action.LeavesSpace spaceId s s') s actions)
    : (usage T).Always
        (fun s => ∀ d ∈ s.spaces.get spaceId, ∀ entries : UInt16,
          Succeeds (validateSpaceForTransactionEntries spaceId entries) s () s ↔
            d.txnCount.toNat + entries.toNat ≤ capacity.toNat) s actions := by
  induction actions generalizing s count with
  | nil =>
    intro d hd
    exact batch_iff hs hlt hd
  | cons action actions ih =>
    refine ⟨fun d hd => batch_iff hs hlt hd, ?_⟩
    rcases takes_cases hs hlt hrun.1 with ⟨_, hnext⟩ | ⟨_, _, hmore, hnext⟩ | ⟨_, _, _, hnext, _⟩
    . exact ih hnext hlt hrun.2
    . exact ih hnext hmore hrun.2
    . exact ih hnext hlt hrun.2

/--
A space that was just approved takes as many transactions as it has capacity, in every sequence that
uses it for nothing else, exactly if fewer transactions than that are attempted.
-/
theorem meansCapacity_iff (hd : s.spaces.get spaceId = some d) (hactive : d.archive = false)
    (happroved : d.approved = true) (hcount : d.txnCount = 0) (hcapacity : 0 < d.txnCapacity)
    (hrun : (usage T).EveryStep (fun s action s' => action.LeavesSpace spaceId s s') s actions)
    : MeansCapacity spaceId d.txnCapacity s actions ↔
        transactions spaceId s actions < d.txnCapacity.toNat := by
  have hs : s.Takes spaceId d.txnCapacity 0 := ⟨d, hd, hactive, happroved, rfl, by rw [hcount]; rfl⟩
  have hlt : 0 < d.txnCapacity.toNat := hcapacity
  have heq := accepted_eq_min hs hlt hrun
  constructor
  . intro h
    have haccepted := h.accepted
    omega
  . intro hfewer
    refine ⟨?_, rejected_of_takes hs hlt hrun, batch_of_takes hs hlt hrun⟩
    omega

end Steps

section Plain

def approvedRun (capacity : UInt64) : List (Extrinsic .plain) := [
    plainExtrinsic (some 1) (.create [10]),
    plainExtrinsic none (.approve (plainSpace 10 1) capacity)
  ]

def approvedSpace (capacity : UInt64) : State .plain :=
  (machine .plain).run (State.genesis .plain) (approvedRun capacity)

def creatorTransaction : Action .plain :=
  .transaction (plainAuthorization (plainSpace 10 1) 1 1) 1

theorem twoOfThree_meansCapacity
    : MeansCapacity (plainSpace 10 1) 3 (approvedSpace 3)
        [creatorTransaction, creatorTransaction] := by
  have hd : (approvedSpace 3).spaces.get (plainSpace 10 1) =
      some ⟨[10], 1, 3, 0, 0, true, false, plainSpace 10 1⟩ := by
    decide +kernel
  have hrun : (usage .plain).EveryStep
      (fun s action s' => action.LeavesSpace (plainSpace 10 1) s s') (approvedSpace 3)
      [creatorTransaction, creatorTransaction] := ⟨trivial, trivial, trivial⟩
  apply (meansCapacity_iff hd rfl rfl rfl (by decide) hrun).mpr
  decide +kernel

theorem oneOfOne_not_meansCapacity
    : (approvedSpace 1).spaces.get (plainSpace 10 1) =
          some ⟨[10], 1, 1, 0, 0, true, false, plainSpace 10 1⟩ ∧
        ¬ MeansCapacity (plainSpace 10 1) 1 (approvedSpace 1) [creatorTransaction] := by
  constructor
  . decide +kernel
  . intro h
    have haccepted := h.accepted
    revert haccepted
    decide +kernel

end Plain

end ChainSpace
