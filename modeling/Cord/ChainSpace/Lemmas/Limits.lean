import Cord.ChainSpace.Lemmas.Forest

/-!
This module contains when the limit of a space is passed on to its sub spaces. A capacity of zero stands
for no limit, so a sub space to which nothing is allotted is not limited at all.
-/

open Frame Identifier

namespace ChainSpace

variable {T : Config} {spaces spaces' : StorageMap T.Ss58Identifier (SpaceDetails T)}
  {spaceId : T.Ss58Identifier} {d d' : SpaceDetails T} {call : Call T}

def Limited (spaces : StorageMap T.Ss58Identifier (SpaceDetails T)) (spaceId : T.Ss58Identifier)
    : Prop :=
  ∃ d, spaces.get spaceId = some d ∧ d.txnCapacity ≠ 0

def LimitsInherited (spaces : StorageMap T.Ss58Identifier (SpaceDetails T)) : Prop :=
  ∀ spaceId p, parentOf spaces spaceId = some p → p ≠ spaceId → Limited spaces p →
    Limited spaces spaceId

/--
The capacity of the space can be set: without a limit its parent has none either, and with one all of
its sub spaces have a limit.
-/
def AdmitsCapacity (spaces : StorageMap T.Ss58Identifier (SpaceDetails T))
    (spaceId : T.Ss58Identifier) (txnCapacity : UInt64) : Prop :=
  (txnCapacity = 0 → ∀ p, parentOf spaces spaceId = some p → p ≠ spaceId → ¬ Limited spaces p) ∧
    (txnCapacity ≠ 0 → ∀ c, parentOf spaces c = some spaceId → spaceId ≠ c → Limited spaces c)

def Call.KeepsLimits (spaces : StorageMap T.Ss58Identifier (SpaceDetails T)) : Call T → Prop
  | .approve spaceId txnCapacity => AdmitsCapacity spaces spaceId txnCapacity
  | .updateTransactionCapacity spaceId newTxnCapacity =>
    AdmitsCapacity spaces spaceId newTxnCapacity
  | .updateTransactionCapacitySub spaceId newTxnCapacity =>
    AdmitsCapacity spaces spaceId newTxnCapacity
  | .subspaceCreate _ count spaceId =>
    Limited spaces spaceId → subspaceCapacity T count ≠ some 0
  | _ => True

theorem limited_insert {id : T.Ss58Identifier}
    : Limited (spaces.insert spaceId d) id ↔
        (id = spaceId ∧ d.txnCapacity ≠ 0) ∨ (id ≠ spaceId ∧ Limited spaces id) := by
  unfold Limited
  rw [StorageMap.get_insert]
  split
  . next h => simp [h]
  . next h => simp [h]

theorem limited_insert_of_get (h : spaces.get spaceId = some d)
    (hcapacity : d'.txnCapacity = d.txnCapacity)
    : Limited (spaces.insert spaceId d') = Limited spaces := by
  funext id
  rw [limited_insert, hcapacity]
  by_cases hid : id = spaceId
  . simp [hid, Limited, h]
  . simp [hid]

theorem limitsInherited_congr (hparents : parentOf spaces' = parentOf spaces)
    (hlimited : Limited spaces' = Limited spaces) : LimitsInherited spaces' ↔ LimitsInherited spaces := by
  unfold LimitsInherited
  rw [hparents, hlimited]

theorem admitsCapacity_congr {txnCapacity : UInt64} (hparents : parentOf spaces' = parentOf spaces)
    (hlimited : Limited spaces' = Limited spaces)
    : AdmitsCapacity spaces' spaceId txnCapacity ↔ AdmitsCapacity spaces spaceId txnCapacity := by
  unfold AdmitsCapacity
  rw [hparents, hlimited]

theorem LimitsInherited.setCapacity_iff (hs : LimitsInherited spaces)
    (hget : spaces.get spaceId = some d) (hparent : d'.parent = d.parent)
    : LimitsInherited (spaces.insert spaceId d') ↔
        AdmitsCapacity spaces spaceId d'.txnCapacity := by
  unfold LimitsInherited
  rw [parentOf_insert_of_get hget hparent]
  constructor
  . intro h
    constructor
    . intro hzero p hp hne hlimit
      have hspace := h spaceId p hp hne (limited_insert.mpr (.inr ⟨hne, hlimit⟩))
      simp [limited_insert, hzero] at hspace
    . intro hpos c hc hne
      have hsub := h c spaceId hc hne (limited_insert.mpr (.inl ⟨rfl, hpos⟩))
      simpa [limited_insert, hne.symm] using hsub
  . intro h c p hc hne hlimit
    rw [limited_insert] at hlimit ⊢
    by_cases hid : c = spaceId
    . -- The space itself, its parent is another one and keeps its capacity.
      subst hid
      left
      refine ⟨rfl, ?_⟩
      intro hzero
      rcases hlimit with ⟨rfl, _⟩ | ⟨_, hlimit⟩
      . exact hne rfl
      . exact h.1 hzero p hc hne hlimit
    . right
      refine ⟨hid, ?_⟩
      rcases hlimit with ⟨rfl, hpos⟩ | ⟨_, hlimit⟩
      . exact h.2 hpos c hc hne
      . exact hs c p hc hne hlimit

theorem LimitsInherited.anchor_iff (hs : LimitsInherited spaces) (hf : Forest (parentOf spaces))
    (hfresh : spaces.get spaceId = none)
    : LimitsInherited (spaces.insert spaceId d) ↔
        (d.parent ≠ spaceId → Limited spaces d.parent → d.txnCapacity ≠ 0) := by
  have hunlimited : ¬ Limited spaces spaceId := by
    rintro ⟨d', hget, _⟩
    rw [hfresh] at hget
    cases hget
  have hself : parentOf (spaces.insert spaceId d) spaceId = some d.parent :=
    parentOf_of_get (StorageMap.get_insert_self ..)
  constructor
  . intro h hne hlimit
    have hnew := h spaceId d.parent hself hne (limited_insert.mpr (.inr ⟨hne, hlimit⟩))
    simpa [limited_insert] using hnew
  . intro h c p hc hne hlimit
    rw [limited_insert] at hlimit ⊢
    by_cases hid : c = spaceId
    . subst hid
      left
      rw [hself, Option.some.injEq] at hc
      subst hc
      refine ⟨rfl, ?_⟩
      rcases hlimit with ⟨heq, _⟩ | ⟨_, hlimit⟩
      . exact absurd heq hne
      . exact h hne hlimit
    . right
      have hold : parentOf spaces c = some p := by
        rwa [parentOf, StorageMap.get_insert_of_ne _ _ hid] at hc
      refine ⟨hid, ?_⟩
      rcases hlimit with ⟨rfl, _⟩ | ⟨_, hlimit⟩
      . -- No space that is stored has the new one for its parent.
        obtain ⟨q, hq⟩ := hf.parent_stored hold
        rw [parentOf, hfresh] at hq
        cases hq
      . exact hs c p hold hne hlimit

theorem LimitsInherited.updateSub_iff {newTxnCapacity : UInt64} {p : SpaceDetails T}
    (hs : LimitsInherited spaces) (hget : spaces.get spaceId = some d) (isSub : spaceId ≠ d.parent)
    (hp : spaces.get d.parent = some p)
    : LimitsInherited
        ((spaces.insert d.parent
          { p with txnReserve := p.txnReserve - d.txnCapacity + newTxnCapacity }).insert spaceId
          { d with txnCapacity := newTxnCapacity }) ↔
        AdmitsCapacity spaces spaceId newTxnCapacity := by
  have hparents : parentOf (spaces.insert d.parent
      { p with txnReserve := p.txnReserve - d.txnCapacity + newTxnCapacity }) = parentOf spaces :=
    parentOf_insert_of_get hp rfl
  have hlimited : Limited (spaces.insert d.parent
      { p with txnReserve := p.txnReserve - d.txnCapacity + newTxnCapacity }) = Limited spaces :=
    limited_insert_of_get hp rfl
  rw [← admitsCapacity_congr hparents hlimited]
  apply LimitsInherited.setCapacity_iff
  . exact (limitsInherited_congr hparents hlimited).mpr hs
  . rw [StorageMap.get_insert_of_ne _ _ isSub]
    exact hget
  . rfl

theorem LimitsInherited.subspace_iff {identifier : T.Ss58Identifier} {spaceCode : T.Hash}
    {creator : T.SpaceCreatorId} {value : UInt64} (hs : LimitsInherited spaces)
    (hf : Forest (parentOf spaces)) (hget : spaces.get spaceId = some d)
    (hfresh : spaces.get identifier = none)
    : LimitsInherited
        ((spaces.insert spaceId
          { d with txnCount := d.txnCount + 1, txnReserve := d.txnReserve + value }).insert
          identifier (.new spaceCode creator value true spaceId)) ↔
        (Limited spaces spaceId → value ≠ 0) := by
  have hparents : parentOf (spaces.insert spaceId
      { d with txnCount := d.txnCount + 1, txnReserve := d.txnReserve + value }) = parentOf spaces :=
    parentOf_insert_of_get hget rfl
  have hlimited : Limited (spaces.insert spaceId
      { d with txnCount := d.txnCount + 1, txnReserve := d.txnReserve + value }) = Limited spaces :=
    limited_insert_of_get hget rfl
  have hne : identifier ≠ spaceId := (StorageMap.ne_of_get hfresh hget).symm
  rw [LimitsInherited.anchor_iff, hlimited]
  . simp [SpaceDetails.new, hne.symm]
  . exact (limitsInherited_congr hparents hlimited).mpr hs
  . rw [hparents]
    exact hf
  . rw [StorageMap.get_insert_of_ne _ _ hne]
    exact hfresh

theorem SpacesStep.limitsInherited (h : SpacesStep spaces call spaces')
    (hcall : call.KeepsLimits spaces) (hf : Forest (parentOf spaces)) (hs : LimitsInherited spaces)
    : LimitsInherited spaces' := by
  cases h with
  | write stored capacity _ parent _ =>
    exact (limitsInherited_congr (parentOf_insert_of_get stored parent)
      (limited_insert_of_get stored capacity)).mpr hs
  | create fresh =>
    rw [hs.anchor_iff hf fresh]
    intro hne
    exact absurd rfl hne
  | approve stored => exact (hs.setCapacity_iff stored (by rfl)).mpr hcall
  | subspace stored capacity _ fresh =>
    rw [hs.subspace_iff hf stored fresh]
    intro hlimit hzero
    exact hcall hlimit (hzero ▸ capacity)
  | update hcall' stored _ _ =>
    subst hcall'
    exact (hs.setCapacity_iff stored (by rfl)).mpr hcall
  | updateSub hcall' stored _ isSub parent _ =>
    rw [hs.updateSub_iff stored isSub parent]
    rcases hcall' with rfl | rfl
    . exact hcall
    . exact hcall

variable {s s' : State T} {origin : T.Origin}

theorem dispatch_limitsInherited_iff (h : Succeeds (call.dispatch origin) s () s')
    (hf : Forest (parentOf s.spaces)) (hs : LimitsInherited s.spaces)
    : LimitsInherited s'.spaces ↔ call.KeepsLimits s.spaces := by
  constructor
  . intro hs'
    cases call with
    | approve spaceId txnCapacity =>
      obtain ⟨d, hd, _, _, hupdate⟩ := approve_spec h
      rw [hupdate.spaces] at hs'
      exact (hs.setCapacity_iff hd (by rfl)).mp hs'
    | updateTransactionCapacity spaceId newTxnCapacity =>
      obtain ⟨d, hd, _, _, _, ⟨_, hupdate⟩ | ⟨p, hmove⟩⟩ := updateTransactionCapacity_spec h
      . rw [hupdate.spaces] at hs'
        exact (hs.setCapacity_iff hd (by rfl)).mp hs'
      . rw [hmove.spaces] at hs'
        exact (hs.updateSub_iff hd hmove.isSub hmove.parent).mp hs'
    | updateTransactionCapacitySub spaceId newTxnCapacity =>
      obtain ⟨d, p, hd, _, _, _, hmove⟩ := updateTransactionCapacitySub_spec h
      rw [hmove.spaces] at hs'
      exact (hs.updateSub_iff hd hmove.isSub hmove.parent).mp hs'
    | subspaceCreate spaceCode count spaceId =>
      obtain ⟨_, d, value, _, _, _, hd, _, _, hvalue, _, hanchor, hspaces⟩ := subspaceCreate_spec h
      rw [hspaces, hs.subspace_iff hf hd hanchor.fresh] at hs'
      intro hlimit hzero
      rw [hvalue, Option.some.injEq] at hzero
      exact hs' hlimit hzero
    | _ => trivial
  . intro hcall
    exact (dispatch_spaces h).limitsInherited hcall hf hs

/--
Every sub space of a limited space is limited in every state of exactly those runs whose calls set
capacities, also those of new sub spaces, such that zero is not set below a limit and no limit is set
above zero.
-/
theorem run_limitsInherited_iff (exts : List (Extrinsic T))
    : (machine T).Always (fun s => LimitsInherited s.spaces) (State.genesis T) exts ↔
        (machine T).Meets (fun s ext => ext.call.KeepsLimits s.spaces) (State.genesis T) exts := by
  apply Machine.always_iff_meets (J := fun s : State T => Forest (parentOf s.spaces))
  . intro s ext s' hs h
    exact hs.grows (dispatch_spaces (Extrinsic.dispatch_iff.mp h)).grows
  . intro s ext s' hf hs h
    have hiff := dispatch_limitsInherited_iff (Extrinsic.dispatch_iff.mp h) hf hs
    exact hiff
  . intro spaceId p h
    cases h
  . intro spaceId p h
    cases h

section Plain

def unlimitedSubspace : List (Extrinsic .plain) := [
    -- A space with capacity 10 and a sub space to which none of it is allotted.
    plainExtrinsic (some 1) (.create [10]),
    plainExtrinsic none (.approve (plainSpace 10 1) 10),
    plainExtrinsic (some 1) (.subspaceCreate [11] (some 0) (plainSpace 10 1))
  ]

theorem unlimitedSubspace_not_limitsInherited
    : ¬ LimitsInherited ((machine .plain).run (State.genesis .plain) unlimitedSubspace).spaces := by
  intro h
  have hparent : Limited ((machine .plain).run (State.genesis .plain) unlimitedSubspace).spaces
      (plainSpace 10 1) :=
    ⟨⟨[10], 1, 10, 0, 1, true, false, plainSpace 10 1⟩, by decide +kernel, by decide⟩
  obtain ⟨d, hd, hpos⟩ := h (plainSpace 11 1) (plainSpace 10 1) (by decide +kernel) (by decide)
    hparent
  have hzero : ((machine .plain).run (State.genesis .plain) unlimitedSubspace).spaces.get
      (plainSpace 11 1) = some ⟨[11], 1, 0, 0, 0, true, false, plainSpace 10 1⟩ := by
    decide +kernel
  rw [hzero, Option.some.injEq] at hd
  rw [← hd] at hpos
  exact hpos rfl

end Plain

end ChainSpace
