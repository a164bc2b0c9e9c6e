import Cord.ChainSpace.Lemmas.Client
import Cord.ChainSpace.Lemmas.Steps
import Cord.Frame.Respects

/-!
This module contains what happens to a space while it is archived. Every call checks the archive flag
of the space it names, but a new capacity of a sub space is written to the reserve of its parent as
well, and the flag of the parent is not looked at.
-/

open Frame Identifier

namespace ChainSpace

variable {T : Config} {spaces : StorageMap T.Ss58Identifier (SpaceDetails T)}
  {spaceId : T.Ss58Identifier} {restored : Option T.Ss58Identifier} {d d' : SpaceDetails T}

def Call.restored? : Call T → Option T.Ss58Identifier
  | .restore spaceId _ => some spaceId
  | _ => none

def ArchivedKept (restored : Option T.Ss58Identifier)
    (spaces spaces' : StorageMap T.Ss58Identifier (SpaceDetails T)) : Prop :=
  ∀ spaceId d, spaces.get spaceId = some d → d.archive = true → restored ≠ some spaceId →
    spaces'.get spaceId = some d

instance : IsPreorder _ (ArchivedKept (T := T) none) where
  refl _ _ _ hd _ _ := hd
  trans _ _ _ h h' spaceId d hd harchive hne :=
    h' spaceId d (h spaceId d hd harchive hne) harchive hne

theorem ArchivedKept.refl (restored : Option T.Ss58Identifier)
    (spaces : StorageMap T.Ss58Identifier (SpaceDetails T))
    : ArchivedKept restored spaces spaces := by
  intro spaceId d hd _ _
  exact hd

theorem ArchivedKept.insert {spaces' : StorageMap T.Ss58Identifier (SpaceDetails T)}
    (h : ArchivedKept restored spaces spaces')
    (hspace : ∀ d, spaces.get spaceId = some d → d.archive = true → restored ≠ some spaceId → d' = d)
    : ArchivedKept restored spaces (spaces'.insert spaceId d') := by
  intro id d hd harchive hne
  rw [StorageMap.get_insert]
  split
  . next hid =>
    subst hid
    rw [hspace d hd harchive hne]
  . exact h id d hd harchive hne

theorem ArchivedKept.insert_of_active {spaces' : StorageMap T.Ss58Identifier (SpaceDetails T)}
    (h : ArchivedKept restored spaces spaces') (hget : spaces.get spaceId = some d)
    (hactive : d.archive = false) : ArchivedKept restored spaces (spaces'.insert spaceId d') := by
  apply h.insert
  intro e he harchive
  rw [hget, Option.some.injEq] at he
  rw [← he, hactive] at harchive
  cases harchive

theorem ArchivedKept.insert_of_fresh {spaces' : StorageMap T.Ss58Identifier (SpaceDetails T)}
    (h : ArchivedKept restored spaces spaces') (hfresh : spaces.get spaceId = none)
    : ArchivedKept restored spaces (spaces'.insert spaceId d') := by
  apply h.insert
  intro e he
  rw [hfresh] at he
  cases he

def SparesArchived (spaces : StorageMap T.Ss58Identifier (SpaceDetails T))
    (spaceId : T.Ss58Identifier) (newTxnCapacity : UInt64) : Prop :=
  -- The capacity that an archived parent has reserved for the space does not change.
  ∀ d ∈ spaces.get spaceId, spaceId ≠ d.parent →
    ∀ p ∈ spaces.get d.parent, p.archive = true → newTxnCapacity = d.txnCapacity

instance (spaces : StorageMap T.Ss58Identifier (SpaceDetails T)) (spaceId : T.Ss58Identifier)
    (newTxnCapacity : UInt64) : Decidable (SparesArchived spaces spaceId newTxnCapacity) :=
  inferInstanceAs (Decidable (∀ d ∈ spaces.get spaceId, _))

def Call.KeepsArchived (spaces : StorageMap T.Ss58Identifier (SpaceDetails T)) : Call T → Prop
  | .updateTransactionCapacity spaceId newTxnCapacity =>
    SparesArchived spaces spaceId newTxnCapacity
  | .updateTransactionCapacitySub spaceId newTxnCapacity =>
    SparesArchived spaces spaceId newTxnCapacity
  | _ => True

theorem reserve_eq_iff {reserve capacity newCapacity : UInt64}
    : reserve - capacity + newCapacity = reserve ↔ newCapacity = capacity := by
  constructor
  . intro h
    have hsum : reserve - capacity + newCapacity = reserve - capacity + capacity := by
      rw [h, UInt64.sub_add_cancel]
    exact (UInt64.add_right_inj _).mp hsum
  . rintro rfl
    apply UInt64.sub_add_cancel

variable {s s' : State T} {origin : T.Origin} {call : Call T}

theorem State.MovesReserve.archivedKept_iff {newTxnCapacity : UInt64} {p : SpaceDetails T}
    (hget : s.spaces.get spaceId = some d) (hactive : d.archive = false)
    (h : s.MovesReserve spaceId newTxnCapacity d p s')
    : ArchivedKept none s.spaces s'.spaces ↔ SparesArchived s.spaces spaceId newTxnCapacity := by
  rw [h.spaces]
  constructor
  . intro hkept e he hsub q hq harchive
    rw [Option.mem_def] at he hq
    rw [hget, Option.some.injEq] at he
    subst he
    rw [h.parent, Option.some.injEq] at hq
    subst hq
    have hparent := hkept d.parent p h.parent harchive nofun
    rw [StorageMap.get_insert_of_ne _ _ hsub.symm, StorageMap.get_insert_self,
      Option.some.injEq] at hparent
    exact reserve_eq_iff.mp (congrArg SpaceDetails.txnReserve hparent)
  . intro hspares
    apply ArchivedKept.insert_of_active _ hget hactive
    apply (ArchivedKept.refl _ _).insert
    intro q hq harchive _
    rw [h.parent, Option.some.injEq] at hq
    subst hq
    rw [reserve_eq_iff.mpr (hspares d hget h.isSub p h.parent harchive)]

theorem dispatch_archivedKept_iff (h : Succeeds (call.dispatch origin) s () s')
    : ArchivedKept call.restored? s.spaces s'.spaces ↔ call.KeepsArchived s.spaces := by
  have hrefl := ArchivedKept.refl call.restored? s.spaces
  cases call with
  | addDelegate spaceId delegate authorization =>
    obtain ⟨_, _, _, _, _, hadd⟩ := addDelegate_spec h
    rw [hadd.spaces]
    exact iff_of_true (hrefl.insert_of_active hadd.space hadd.canTransact.1) trivial
  | addAdminDelegate spaceId delegate authorization =>
    obtain ⟨_, _, _, _, _, hadd⟩ := addAdminDelegate_spec h
    rw [hadd.spaces]
    exact iff_of_true (hrefl.insert_of_active hadd.space hadd.canTransact.1) trivial
  | addDelegator spaceId delegate authorization =>
    obtain ⟨_, _, _, _, _, hadd⟩ := addDelegator_spec h
    rw [hadd.spaces]
    exact iff_of_true (hrefl.insert_of_active hadd.space hadd.canTransact.1) trivial
  | removeDelegate spaceId removeAuthorization authorization =>
    obtain ⟨_, _, _, _, _, hremove⟩ := removeDelegate_spec h
    rw [hremove.spaces]
    exact iff_of_true (hrefl.insert_of_active hremove.space hremove.canTransact.1) trivial
  | create spaceCode =>
    obtain ⟨_, _, _, _, hanchor, hspaces⟩ := create_spec h
    rw [hspaces]
    exact iff_of_true (hrefl.insert_of_fresh hanchor.fresh) trivial
  | approve spaceId txnCapacity =>
    obtain ⟨d, hd, hactive, _, hupdate⟩ := approve_spec h
    rw [hupdate.spaces]
    exact iff_of_true (hrefl.insert_of_active hd hactive) trivial
  | archive spaceId authorization =>
    obtain ⟨_, d, _, _, hd, hvalid, hupdate⟩ := archive_spec h
    rw [hupdate.spaces]
    exact iff_of_true (hrefl.insert_of_active hd hvalid.1) trivial
  | restore spaceId authorization =>
    obtain ⟨_, d, _, _, hd, _, hupdate⟩ := restore_spec h
    rw [hupdate.spaces]
    refine iff_of_true (hrefl.insert ?_) trivial
    intro e _ _ hne
    exact absurd rfl hne
  | updateTransactionCapacity spaceId newTxnCapacity =>
    obtain ⟨d, hd, hactive, _, _, hrest⟩ := updateTransactionCapacity_spec h
    rcases hrest with ⟨htop, hupdate⟩ | ⟨p, hmove⟩
    . rw [hupdate.spaces]
      refine iff_of_true (hrefl.insert_of_active hd hactive) ?_
      intro e he hsub
      rw [Option.mem_def, hd, Option.some.injEq] at he
      subst he
      exact absurd htop hsub
    . exact hmove.archivedKept_iff hd hactive
  | resetTransactionCount spaceId =>
    obtain ⟨d, hd, hactive, _, hupdate⟩ := resetTransactionCount_spec h
    rw [hupdate.spaces]
    exact iff_of_true (hrefl.insert_of_active hd hactive) trivial
  | approvalRevoke spaceId =>
    obtain ⟨d, hd, hactive, _, hupdate⟩ := approvalRevoke_spec h
    rw [hupdate.spaces]
    exact iff_of_true (hrefl.insert_of_active hd hactive) trivial
  | approvalRestore spaceId =>
    obtain ⟨d, hd, hactive, _, hupdate⟩ := approvalRestore_spec h
    rw [hupdate.spaces]
    exact iff_of_true (hrefl.insert_of_active hd hactive) trivial
  | subspaceCreate spaceCode count spaceId =>
    obtain ⟨_, d, _, _, _, _, hd, hactive, _, _, _, hanchor, hspaces⟩ := subspaceCreate_spec h
    rw [hspaces]
    refine iff_of_true (ArchivedKept.insert_of_fresh ?_ hanchor.fresh) trivial
    exact hrefl.insert_of_active hd hactive
  | updateTransactionCapacitySub spaceId newTxnCapacity =>
    obtain ⟨d, p, hd, hactive, _, _, hmove⟩ := updateTransactionCapacitySub_spec h
    exact hmove.archivedKept_iff hd hactive

namespace Client

variable {σ ε : Type}

def KeepsArchived (s s' : Client T σ) : Prop :=
  ArchivedKept none s.chainSpace.spaces s'.chainSpace.spaces

instance : IsPreorder (Client T σ) KeepsArchived where
  refl s := refl_of (ArchivedKept none) s.chainSpace.spaces
  trans _ _ _ := trans_of (ArchivedKept none)

variable {wrap : Error → ε}

theorem respects_getPallet : Respects (ε := ε) (KeepsArchived (T := T) (σ := σ)) getPallet :=
  .bind .get fun _ => .pure

theorem respects_blockNumber : Respects (ε := ε) (KeepsArchived (T := T) (σ := σ)) blockNumber :=
  .bind .get fun _ => .pure

theorem respects_modifyPallet {f : σ → σ}
    : Respects (ε := ε) (KeepsArchived (T := T) (σ := σ)) (modifyPallet f) := by
  apply Respects.modify
  intro s
  exact refl_of (ArchivedKept none) s.chainSpace.spaces

theorem respects_updateActivity {txId : T.Ss58Identifier} {txType : IdentifierTypeOf}
    {txAction : CallTypeOf}
    : Respects (KeepsArchived (T := T) (σ := σ)) (updateActivity wrap txId txType txAction) := by
  intro s _ s' h
  rw [updateActivity_iff] at h
  rw [h]
  exact refl_of (ArchivedKept none) s.chainSpace.spaces

theorem respects_ensureAuthorizationOrigin {authorizationId : T.Ss58Identifier}
    {delegate : T.SpaceCreatorId}
    : Respects (KeepsArchived (T := T) (σ := σ))
        (ensureAuthorizationOrigin wrap authorizationId delegate) := by
  intro s spaceId s' h
  obtain ⟨d, _, hd, hvalid, rfl⟩ := ensureAuthorizationOrigin_iff.mp h
  exact (ArchivedKept.refl _ _).insert_of_active hd hvalid.1

end Client

end ChainSpace
