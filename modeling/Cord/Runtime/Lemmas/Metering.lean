import Cord.ChainSpace.Lemmas.Metering
import Cord.Runtime.Lemmas.Archived
import Cord.Statement.Lemmas.Digests

/-!
This module contains the metering of the spaces over runs of all pallets that charge them: the
transaction count of a space is what the accepted calls have used of it, and no call is billed to a
space other than its own.
-/

open Frame Identifier
open ChainSpace (Client Bill MeterEntry Meters meter units counts)
open ChainSpace.Client (Unbilled unbilled_getPallet unbilled_blockNumber unbilled_modifyPallet
  unbilled_updateActivity meters_of_authorized)

namespace Statement

variable {T : Config} {s s' : State T} {origin : T.Origin} {call : Call T}

def Call.bills (call : Call T) (s : State T) : List (Bill T.toChainSpace) :=
  s.chainSpace.billFor call.authorization (.used call.cost (call.refund s))

theorem meters_of_charges {creator : T.SpaceCreatorId} {spaceId : T.Ss58Identifier}
    {d : ChainSpace.SpaceDetails T.toChainSpace} {count : UInt64}
    (hcharges : s.Charges origin call.authorization creator spaceId d)
    (hspaces : s'.chainSpace.spaces = s.chainSpace.spaces.insert spaceId { d with txnCount := count })
    (hcost : call.cost < 2 ^ 16)
    (hcount : d.txnCount.toNat + call.cost < 2 ^ 64 →
      d.txnCount.toNat + call.cost - call.refund s = count.toNat)
    : Meters (call.bills s) s.chainSpace.spaces s'.chainSpace.spaces ∧
        units (call.bills s) < 2 ^ 16 := by
  rw [hspaces, Call.bills, hcharges.authorizes.billFor]
  refine ⟨?_, hcost⟩
  apply ChainSpace.meters_of_entry hcharges.space
  intro hlt
  exact congrArg some (hcount hlt)

/-
Most calls cost one unit, and nothing is refunded.
-/
theorem meters_of_charge {creator : T.SpaceCreatorId} {spaceId : T.Ss58Identifier}
    {d : ChainSpace.SpaceDetails T.toChainSpace} (hcost : call.cost = 1) (hrefund : call.refund s = 0)
    (hcharges : s.Charges origin call.authorization creator spaceId d)
    (hspaces : s'.chainSpace.spaces = s.chainSpace.spaces.insert spaceId d.charge)
    : Meters (call.bills s) s.chainSpace.spaces s'.chainSpace.spaces ∧
        units (call.bills s) < 2 ^ 16 := by
  apply meters_of_charges hcharges hspaces
  . rw [hcost]
    exact Nat.one_lt_two_pow (by decide)
  . intro hlt
    rw [hcost] at hlt ⊢
    rw [hrefund]
    exact (d.toNat_charge hlt).symm

theorem dispatch_meters (h : Succeeds (call.dispatch origin) s () s')
    : Meters (call.bills s) s.chainSpace.spaces s'.chainSpace.spaces ∧
        units (call.bills s) < 2 ^ 16 := by
  cases call with
  | register digest authorization schemaId =>
    obtain ⟨creator, spaceId, d, _, hcharges, _, _, hspaces, _⟩ := register_spec h
    exact meters_of_charge rfl rfl hcharges hspaces
  | update statementId newStatementDigest authorization =>
    obtain ⟨creator, spaceId, d, _, hcharges, _, _, _, _, hspaces, _⟩ := update_spec h
    exact meters_of_charge rfl rfl hcharges hspaces
  | revoke statementId authorization =>
    obtain ⟨creator, spaceId, d, _, hcharges, _, _, _, hspaces, _⟩ := revoke_spec h
    exact meters_of_charge rfl rfl hcharges hspaces
  | restore statementId authorization =>
    obtain ⟨creator, spaceId, d, _, hcharges, _, _, _, hspaces, _⟩ := restore_spec h
    exact meters_of_charge rfl rfl hcharges hspaces
  | addPresentation statementId presentationDigest presentationType authorization =>
    obtain ⟨creator, spaceId, d, _, hcharges, _, _, _, _, hspaces, _⟩ := addPresentation_spec h
    exact meters_of_charge rfl rfl hcharges hspaces
  | remove statementId authorization =>
    obtain ⟨creator, spaceId, d, _, hcharges, _, _, hspaces⟩ := remove_spec h
    apply meters_of_charges hcharges hspaces
    . exact Nat.one_lt_two_pow (by decide)
    . intro hlt
      have hle : s.removals statementId ≤ T.maxRemoveEntries.toNat := Nat.min_le_right _ _
      rw [toNat_saturatingSub, toNat_toUInt16_toUInt64 hle, d.toNat_charge hlt]
      rfl
  | registerBatch digests authorization schemaId =>
    obtain ⟨creator, spaceId, d, hcharges, hpos, hmax, hspaces⟩ := registerBatch_spec h
    have hlen : digests.length - 1 ≤ T.maxDigestsPerBatch.toNat := by omega
    apply meters_of_charges hcharges hspaces
    . exact Nat.lt_of_le_of_lt hmax T.maxDigestsPerBatch.toNat_lt
    . intro hlt
      change d.txnCount.toNat + digests.length < 2 ^ 64 at hlt
      change d.txnCount.toNat + digests.length - 0 = _
      rw [toNat_saturatingAdd, toNat_toUInt16_toUInt64 hlen, d.toNat_charge (by omega)]
      omega
  | removePresentation statementId presentationDigest authorization =>
    obtain ⟨creator, spaceId, d, _, hcharges, _, _, hspaces, _⟩ := removePresentation_spec h
    apply meters_of_charges hcharges hspaces
    . exact Nat.one_lt_two_pow (by decide)
    . intro hlt
      rw [toNat_saturatingSub, d.toNat_charge hlt]
      rfl

end Statement

namespace Asset

variable {T : Config} {origin : T.Origin} {k : AssetKind}

theorem unbilled_getAsset {assetId : T.Ss58Identifier}
    : Unbilled (getAsset (T := T) k assetId) :=
  .bind unbilled_getPallet fun _ => .okOr

theorem unbilled_getInstance {assetId instanceId : T.Ss58Identifier}
    : Unbilled (getInstance (T := T) k assetId instanceId) :=
  .bind unbilled_getPallet fun _ => .okOr

theorem unbilled_anchorAsset {digest : T.Hash} {spaceId : T.Ss58Identifier}
    {creator : T.SpaceCreatorId} {asset : UInt32 → AssetOf T k}
    : Unbilled (anchorAsset k digest spaceId creator asset) := by
  unfold anchorAsset
  refine .bind .okOr fun identifier => ?_
  refine .bind unbilled_getPallet fun p => .bind .ensure fun _ => ?_
  refine .bind unbilled_blockNumber fun createdAt => ?_
  refine .bind unbilled_modifyPallet fun _ => ?_
  exact .bind unbilled_updateActivity fun _ => unbilled_modifyPallet

theorem unbilled_transferOf {entry : AssetTransferEntry T} {digest : T.Hash}
    : Unbilled (transferOf k origin entry digest) := by
  unfold transferOf
  refine .bind .ensureOrigin fun owner => ?_
  refine .bind unbilled_getAsset fun asset => .bind unbilled_getInstance fun inst => ?_
  refine .bind .ensure fun _ => .bind .ensure fun _ => ?_
  refine .bind .ensure fun _ => .bind .ensure fun _ => ?_
  refine .bind unbilled_blockNumber fun createdAt => ?_
  refine .bind unbilled_modifyPallet fun _ => ?_
  exact .bind unbilled_updateActivity fun _ => unbilled_modifyPallet

theorem unbilled_statusChangeOf {assetId : T.Ss58Identifier} {instanceId : Option T.Ss58Identifier}
    {newStatus : AssetStatusOf}
    : Unbilled (statusChangeOf k origin assetId instanceId newStatus) := by
  unfold statusChangeOf
  refine .bind .ensureOrigin fun issuer => ?_
  refine .bind unbilled_getAsset fun asset => ?_
  refine .bind .ensure fun _ => .bind .ensure fun _ => ?_
  cases instanceId with
  | some instId =>
    refine .bind unbilled_getInstance fun inst => .bind .ensure fun _ => ?_
    refine .bind unbilled_modifyPallet fun _ => ?_
    exact .bind unbilled_updateActivity fun _ => unbilled_modifyPallet
  | none =>
    refine .bind .ensure fun _ => .bind unbilled_modifyPallet fun _ => ?_
    exact .bind unbilled_updateActivity fun _ => unbilled_modifyPallet

def Call.authorization? : Call T → Option T.Ss58Identifier
  | .create _ _ authorization => some authorization
  | .issue _ _ authorization => some authorization
  | .vcCreate _ _ authorization => some authorization
  | .vcIssue _ _ authorization => some authorization
  -- Transfers and changes of the status are free.
  | _ => none

def Call.bills (call : Call T) (s : ChainSpace.State T.toChainSpace) : List (Bill T.toChainSpace) :=
  match call.authorization? with
  | some authorization => s.billFor authorization (.used 1 0)
  | none => []

theorem units_bills_le (call : Call T) (s : ChainSpace.State T.toChainSpace)
    : units (call.bills s) ≤ 1 := by
  unfold Call.bills
  split
  . exact ChainSpace.units_billFor_le _ _ _
  . exact Nat.zero_le _

variable {s s' : State T} {call : Call T}

theorem issueOf_meters {entry : AssetIssuanceEntry T} {digest : T.Hash}
    {authorization : T.Ss58Identifier}
    (h : Succeeds (issueOf k origin entry digest authorization) s () s')
    : Meters (s.chainSpace.billFor authorization (.used 1 0)) s.spaces s'.spaces := by
  obtain ⟨issuer, _, horigin, hrest⟩ := Succeeds.bind_iff.mp h
  obtain ⟨_, rfl⟩ := Succeeds.ensureOrigin_iff.mp horigin
  refine meters_of_authorized (fun spaceId => ?_) hrest
  refine .bind unbilled_getAsset fun asset => ?_
  refine .bind .ensure fun _ => .bind .ensure fun _ => .bind .ensure fun _ => ?_
  refine .bind .okOr fun instanceId => ?_
  refine .bind unbilled_blockNumber fun createdAt => ?_
  refine .bind unbilled_getPallet fun p => .bind .okOr fun dist => ?_
  refine .bind unbilled_modifyPallet fun _ => ?_
  refine .bind unbilled_updateActivity fun _ => .bind unbilled_updateActivity fun _ => ?_
  exact unbilled_modifyPallet

theorem dispatch_meters (h : Succeeds (dispatch origin call) s () s')
    : Meters (call.bills s.chainSpace) s.spaces s'.spaces := by
  cases call with
  | create entry digest authorization =>
    obtain ⟨creator, _, horigin, hrest⟩ := Succeeds.bind_iff.mp h
    obtain ⟨_, rfl⟩ := Succeeds.ensureOrigin_iff.mp horigin
    refine meters_of_authorized (fun spaceId => ?_) hrest
    exact .bind .ensure fun _ => .bind .ensure fun _ => unbilled_anchorAsset
  | issue => exact issueOf_meters h
  | transfer => exact ChainSpace.meters_of_counts (congrArg counts (unbilled_transferOf _ _ _ h))
  | statusChange =>
    exact ChainSpace.meters_of_counts (congrArg counts (unbilled_statusChangeOf _ _ _ h))
  | vcCreate assetQty digest authorization =>
    obtain ⟨creator, _, horigin, hrest⟩ := Succeeds.bind_iff.mp h
    obtain ⟨_, rfl⟩ := Succeeds.ensureOrigin_iff.mp horigin
    refine meters_of_authorized (fun spaceId => ?_) hrest
    exact .bind .ensure fun _ => unbilled_anchorAsset
  | vcIssue => exact issueOf_meters h
  | vcTransfer => exact ChainSpace.meters_of_counts (congrArg counts (unbilled_transferOf _ _ _ h))
  | vcStatusChange =>
    exact ChainSpace.meters_of_counts (congrArg counts (unbilled_statusChangeOf _ _ _ h))

end Asset

namespace NetworkScore

variable {T : Config} {origin : T.Origin} {entry : RatingInputEntry T}
  {messageId : EncodedValue T}

theorem unbilled_ensureRatingValue : Unbilled (ensureRatingValue entry) :=
  .bind .ensure fun _ => .ensure

theorem unbilled_aggregateScore {rtype : EntryTypeOf} : Unbilled (aggregateScore entry rtype) := by
  unfold aggregateScore
  refine .bind unbilled_getPallet fun p => ?_
  split
  . exact .bind unbilled_modifyPallet fun _ => unbilled_modifyPallet
  . exact .bind unbilled_modifyPallet fun _ => unbilled_modifyPallet

theorem unbilled_anchorRating {provider : T.SpaceCreatorId} {spaceId : T.Ss58Identifier}
    {digest : T.Hash} {record : UInt64 → RatingEntry T} {entryType : EntryTypeOf}
    : Unbilled
        (anchorRatingWith aggregateScore provider spaceId digest messageId record entry entryType) := by
  unfold anchorRatingWith
  refine .bind unbilled_getPallet fun p => .bind .ensure fun _ => ?_
  refine .bind .okOr fun identifier => ?_
  refine .bind unbilled_getPallet fun p => .bind .ensure fun _ => ?_
  refine .bind unbilled_aggregateScore fun _ => ?_
  refine .bind (.bind unbilled_blockNumber fun _ => .pure) fun createdAt => ?_
  refine .bind unbilled_modifyPallet fun _ => ?_
  exact .bind unbilled_updateActivity fun _ => .pure

def Call.authorization : Call T → T.Ss58Identifier
  | .registerRating _ _ _ authorization => authorization
  | .revokeRating _ _ _ authorization => authorization
  | .reviseRating _ _ _ _ authorization => authorization

def Call.bills (call : Call T) (s : ChainSpace.State T.toChainSpace) : List (Bill T.toChainSpace) :=
  s.billFor call.authorization (.used 1 0)

variable {s s' : State T} {call : Call T}

theorem dispatch_meters (h : Succeeds (dispatch origin call) s () s')
    : Meters (call.bills s.chainSpace) s.spaces s'.spaces := by
  cases call with
  | registerRating entry digest messageId authorization =>
    obtain ⟨_, _, horigin, hrest⟩ := Succeeds.bind_iff.mp h
    obtain ⟨_, rfl⟩ := Succeeds.ensureOrigin_iff.mp horigin
    refine meters_of_authorized (fun spaceId => ?_) hrest
    refine .bind unbilled_ensureRatingValue fun _ => ?_
    exact .bind unbilled_anchorRating fun _ => unbilled_modifyPallet
  | revokeRating entryIdentifier messageId digest authorization =>
    obtain ⟨_, _, horigin, hrest⟩ := Succeeds.bind_iff.mp h
    obtain ⟨_, rfl⟩ := Succeeds.ensureOrigin_iff.mp horigin
    refine meters_of_authorized (fun spaceId => ?_) hrest
    refine .bind unbilled_getPallet fun p => .bind .okOr fun ratingDetails => ?_
    refine .bind .ensure fun _ => .bind unbilled_anchorRating fun identifier => ?_
    exact .bind unbilled_updateActivity fun _ => unbilled_modifyPallet
  | reviseRating entry digest messageId debitRefId authorization =>
    obtain ⟨_, _, horigin, hrest⟩ := Succeeds.bind_iff.mp h
    obtain ⟨_, rfl⟩ := Succeeds.ensureOrigin_iff.mp horigin
    refine meters_of_authorized (fun spaceId => ?_) hrest
    refine .bind unbilled_ensureRatingValue fun _ => ?_
    refine .bind unbilled_getPallet fun p => .bind .okOr fun ratingDetails => ?_
    refine .bind .ensure fun _ => .bind .ensure fun _ => .bind .ensure fun _ => ?_
    refine .bind unbilled_anchorRating fun identifier => ?_
    split
    . exact .bind unbilled_updateActivity fun _ => unbilled_modifyPallet
    . exact unbilled_modifyPallet

end NetworkScore

namespace Runtime

variable {T : Config} {s s' : State T}

def Extrinsic.bills (s : State T) : Extrinsic T → List (Bill T.toChainSpace)
  | .statement (.chainSpace ext) => ext.call.bills ext.origin
  | .statement (.statement _ _ call) => call.bills s.statement
  | .asset _ _ call => call.bills s.statement.chainSpace
  | .score _ _ call => call.bills s.statement.chainSpace

def State.bills (s : State T) (ext : Extrinsic T) : List (Bill T.toChainSpace) :=
  if (machine T).accepts s ext then ext.bills s else []

/--
The bills of all calls of a run that were accepted.
-/
def billed (T : Config) (exts : List (Extrinsic T)) : List (Bill T.toChainSpace) :=
  (machine T).collect State.bills (State.genesis T) exts

theorem dispatch_meters {ext : Extrinsic T} (h : Succeeds ext.dispatch s () s')
    : Meters (ext.bills s) s.spaces s'.spaces ∧ units (ext.bills s) < 2 ^ 16 := by
  cases ext with
  | statement ext =>
    obtain ⟨t, ht, rfl⟩ := Succeeds.zoom_iff.mp h
    cases ext with
    | chainSpace ext =>
      obtain ⟨u, hcall, rfl⟩ := Statement.chainSpace_iff.mp ht
      have hmeters := ChainSpace.dispatch_meters (ChainSpace.Extrinsic.dispatch_iff.mp hcall)
      exact ⟨hmeters, Nat.lt_of_le_of_lt (ChainSpace.units_bills_le _ _) (by decide)⟩
    | statement origin timepoint call =>
      have hmeters := Statement.dispatch_meters (Statement.machine_statement.mp ht)
      exact hmeters
  | asset origin timepoint call =>
    obtain ⟨_, t, ht, hcall⟩ := Succeeds.bind_iff.mp h
    obtain rfl := Succeeds.modify_iff.mp ht
    obtain ⟨u, hu, rfl⟩ := Succeeds.zoom_iff.mp hcall
    exact ⟨Asset.dispatch_meters hu, Nat.lt_of_le_of_lt (Asset.units_bills_le _ _) (by decide)⟩
  | score origin timepoint call =>
    obtain ⟨_, t, ht, hcall⟩ := Succeeds.bind_iff.mp h
    obtain rfl := Succeeds.modify_iff.mp ht
    obtain ⟨u, hu, rfl⟩ := Succeeds.zoom_iff.mp hcall
    exact ⟨NetworkScore.dispatch_meters hu,
      Nat.lt_of_le_of_lt (ChainSpace.units_billFor_le _ _ _) (by decide)⟩

/-
The record of the bills adds up to what the counts show, as long as it cannot have exceeded them.
-/
structure Metered (s : State T) (record : List (Bill T.toChainSpace)) : Prop where
  counts : units record < 2 ^ 64 → counts s.spaces = meter record fun _ => none

theorem Metered.step {ext : Extrinsic T} {record : List (Bill T.toChainSpace)} (hs : Metered s record)
    (h : Succeeds ((machine T).dispatch ext) s () s') : Metered s' (record ++ s.bills ext) := by
  constructor
  intro hunits
  rw [State.bills, if_pos (Machine.Succeeds.accepts h)] at hunits ⊢
  rw [ChainSpace.units_append] at hunits
  have hcounts := hs.counts (Nat.lt_of_le_of_lt (Nat.le_add_right _ _) hunits)
  rw [ChainSpace.meter_append, ← hcounts]
  apply (dispatch_meters h).1
  intro id d hd
  have hread : meter record (fun _ => none) id = some d.txnCount.toNat := by
    rw [← hcounts, ChainSpace.counts, hd]
    rfl
  have hle := ChainSpace.le_units_of_meter hread
  omega

theorem units_billed_le (s : State T) (exts : List (Extrinsic T))
    : units ((machine T).collect State.bills s exts) ≤ exts.length * 65535 := by
  induction exts generalizing s with
  | nil => exact Nat.zero_le _
  | cons ext exts ih =>
    have hbill : units (s.bills ext) ≤ 65535 := by
      unfold State.bills
      split
      . next haccepts => exact Nat.le_pred_of_lt (dispatch_meters (Machine.accepts_iff.mp haccepts)).2
      . exact Nat.zero_le _
    rw [Machine.collect, ChainSpace.units_append, List.length_cons, Nat.succ_mul]
    have htail := ih ((machine T).next s ext)
    omega

theorem bills_of_rejected {ext : Extrinsic T} (h : (machine T).accepts s ext = false)
    : s.bills ext = [] := by
  rw [State.bills, h]
  rfl

/--
The transaction counts of all spaces are what the bills of the accepted calls add up to, in every run
that is not too long for counts of 64 bits.
-/
theorem run_metered (exts : List (Extrinsic T)) (hlength : exts.length ≤ 2 ^ 48)
    (spaceId : T.Ss58Identifier)
    : ((((machine T).run (State.genesis T) exts).spaces.get spaceId).map fun d => d.txnCount.toNat) =
        meter (billed T exts) (fun _ => none) spaceId := by
  have hgenesis : Metered (State.genesis T) [] := ⟨fun _ => rfl⟩
  have hmetered : Metered _ ([] ++ (machine T).collect State.bills _ exts) :=
    Machine.collect_invariant (fun _ _ => bills_of_rejected) (fun _ _ _ _ => Metered.step) hgenesis
  have hunits := units_billed_le (State.genesis T) exts
  exact congrFun (hmetered.counts (by rw [List.nil_append]; omega)) spaceId

section Plain

def plainBills : List (Extrinsic .plain) := [
    -- A batch of two statements, the removal of one of them, and a sub space.
    plainSpaceCall (some 1) (.create [10]),
    plainSpaceCall none (.approve (ChainSpace.plainSpace 10 1) 10),
    .statement (Statement.statementCall (.registerBatch [[5], [6]]
      (ChainSpace.plainAuthorization (ChainSpace.plainSpace 10 1) 1 1) none)),
    .statement (Statement.statementCall (.remove (Statement.plainStatement 5)
      (ChainSpace.plainAuthorization (ChainSpace.plainSpace 10 1) 1 1))),
    plainSpaceCall (some 1) (.subspaceCreate [11] (some 4) (ChainSpace.plainSpace 10 1))
  ]

theorem plainBills_metered
    : meter (billed .plain plainBills) (fun _ => none) (ChainSpace.plainSpace 10 1) = some 3 := by
  rw [← run_metered plainBills (by decide)]
  decide +kernel

end Plain

end Runtime
