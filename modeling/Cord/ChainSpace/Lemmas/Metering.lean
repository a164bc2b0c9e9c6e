import Cord.ChainSpace.Lemmas.Client
import Cord.ChainSpace.Lemmas.Trail

/-!
This module contains the metering of the spaces: what the calls of the chain space pallet add to the
transaction counts, as entries of a bill that can be added up again.
-/

open Frame Identifier

namespace ChainSpace

variable {T : Config}

inductive MeterEntry where
  | opened
  | used (units refund : Nat)
  | reset
  deriving DecidableEq, Repr

abbrev Bill (T : Config) := T.Ss58Identifier × MeterEntry

def MeterEntry.read : MeterEntry → Option Nat → Option Nat
  | .opened, _ => some 0
  -- A refund does not go below zero.
  | .used units refund, count => count.map (· + units - refund)
  | .reset, count => count.map fun _ => 0

def MeterEntry.units : MeterEntry → Nat
  | .used units _ => units
  | _ => 0

/--
What the meters of the spaces show after the bills, if they showed `meters` before.
-/
def meter (bills : List (Bill T)) (meters : T.Ss58Identifier → Option Nat)
    : T.Ss58Identifier → Option Nat :=
  match bills with
  | [] => meters
  | (spaceId, entry) :: bills =>
    meter bills fun id => if id = spaceId then entry.read (meters id) else meters id

def units (bills : List (Bill T)) : Nat :=
  (bills.map fun bill => bill.2.units).sum

def counts (spaces : StorageMap T.Ss58Identifier (SpaceDetails T)) (id : T.Ss58Identifier)
    : Option Nat :=
  (spaces.get id).map fun d => d.txnCount.toNat

theorem meter_append (bills bills' : List (Bill T)) (meters : T.Ss58Identifier → Option Nat)
    : meter (bills ++ bills') meters = meter bills' (meter bills meters) := by
  induction bills generalizing meters with
  | nil => rfl
  | cons bill bills ih => exact ih _

theorem units_append (bills bills' : List (Bill T))
    : units (bills ++ bills') = units bills + units bills' := by
  unfold units
  rw [List.map_append, List.sum_append]

theorem MeterEntry.read_le {entry : MeterEntry} {count : Option Nat} {bound n : Nat}
    (hcount : ∀ m ∈ count, m ≤ bound) (h : entry.read count = some n) : n ≤ bound + entry.units := by
  cases entry with
  | opened =>
    injection h with h
    rw [← h]
    exact Nat.zero_le _
  | used units refund =>
    obtain ⟨m, hm, rfl⟩ := Option.map_eq_some_iff.mp h
    have hle := hcount m hm
    change m + units - refund ≤ bound + units
    omega
  | reset =>
    obtain ⟨m, hm, rfl⟩ := Option.map_eq_some_iff.mp h
    exact Nat.zero_le _

/-
No meter shows more than all units that were used together.
-/
theorem meter_le {bills : List (Bill T)} {meters : T.Ss58Identifier → Option Nat} {bound n : Nat}
    {id : T.Ss58Identifier} (hmeters : ∀ id, ∀ m ∈ meters id, m ≤ bound)
    (h : meter bills meters id = some n) : n ≤ bound + units bills := by
  induction bills generalizing meters bound with
  | nil => exact hmeters id n h
  | cons bill bills ih =>
    obtain ⟨spaceId, entry⟩ := bill
    have hunits : bound + units ((spaceId, entry) :: bills) = bound + entry.units + units bills := by
      rw [Nat.add_assoc]
      rfl
    rw [hunits]
    apply ih _ h
    intro id m hm
    split at hm
    . exact MeterEntry.read_le (hmeters id) hm
    . exact Nat.le_trans (hmeters id m hm) (Nat.le_add_right _ _)

theorem le_units_of_meter {bills : List (Bill T)} {n : Nat} {id : T.Ss58Identifier}
    (h : meter bills (fun _ => none) id = some n) : n ≤ units bills := by
  have hle : n ≤ 0 + units bills := by
    apply meter_le _ h
    intro _ m hm
    cases hm
  rw [Nat.zero_add] at hle
  exact hle

/--
The counts have changed by what is on the bills, as long as they are far from their largest value.
-/
def Meters (bills : List (Bill T)) (spaces spaces' : StorageMap T.Ss58Identifier (SpaceDetails T))
    : Prop :=
  (∀ id d, spaces.get id = some d → d.txnCount.toNat + units bills < 2 ^ 64) →
    counts spaces' = meter bills (counts spaces)

section Meters

variable {spaces : StorageMap T.Ss58Identifier (SpaceDetails T)} {spaceId : T.Ss58Identifier}
  {d d' : SpaceDetails T}

theorem counts_insert (spaces : StorageMap T.Ss58Identifier (SpaceDetails T))
    (spaceId : T.Ss58Identifier) (d : SpaceDetails T)
    : counts (spaces.insert spaceId d) =
        fun id => if id = spaceId then some d.txnCount.toNat else counts spaces id := by
  funext id
  unfold counts
  rw [StorageMap.get_insert]
  split
  . rfl
  . rfl

theorem counts_insert_of_same (hd : spaces.get spaceId = some d) (hcount : d'.txnCount = d.txnCount)
    : counts (spaces.insert spaceId d') = counts spaces := by
  rw [counts_insert]
  funext id
  split
  . next hid =>
    unfold counts
    rw [hid, hd, hcount]
    rfl
  . rfl

theorem meters_of_entry {entry : MeterEntry} (hd : spaces.get spaceId = some d)
    (hentry : d.txnCount.toNat + entry.units < 2 ^ 64 →
      entry.read (some d.txnCount.toNat) = some d'.txnCount.toNat)
    : Meters [(spaceId, entry)] spaces (spaces.insert spaceId d') := by
  intro hroom
  rw [counts_insert]
  funext id
  unfold meter meter
  split
  . next hid =>
    subst hid
    have hcounts : counts spaces id = some d.txnCount.toNat := by
      unfold counts
      rw [hd]
      rfl
    rw [hcounts]
    exact (hentry (hroom id d hd)).symm
  . rfl

theorem SpaceDetails.toNat_charge (d : SpaceDetails T) (hlt : d.txnCount.toNat + 1 < 2 ^ 64)
    : d.charge.txnCount.toNat = d.txnCount.toNat + 1 := by
  unfold SpaceDetails.charge
  rw [toNat_saturatingAdd, UInt64.toNat_one, Nat.min_eq_left]
  exact Nat.le_pred_of_lt hlt

theorem meters_charge (hd : spaces.get spaceId = some d)
    (hcount : d'.txnCount = d.charge.txnCount)
    : Meters [(spaceId, .used 1 0)] spaces (spaces.insert spaceId d') := by
  apply meters_of_entry hd
  intro hlt
  rw [hcount, d.toNat_charge hlt]
  rfl

theorem meters_of_counts (h : counts spaces' = counts spaces) : Meters [] spaces spaces' :=
  fun _ => h

theorem Meters.opened {bills : List (Bill T)} {identifier : T.Ss58Identifier}
    {spaces' : StorageMap T.Ss58Identifier (SpaceDetails T)} {spaceCode : T.Hash}
    {creator : T.SpaceCreatorId} {txnCapacity : UInt64} {approved : Bool} {parent : T.Ss58Identifier}
    (h : Meters bills spaces spaces')
    : Meters (bills ++ [(identifier, .opened)]) spaces
        (spaces'.insert identifier (.new spaceCode creator txnCapacity approved parent)) := by
  intro hroom
  rw [units_append] at hroom
  rw [meter_append, counts_insert, h hroom]
  rfl

end Meters

variable {s s' : State T} {origin : T.Origin} {call : Call T}

def Call.bills (call : Call T) (origin : T.Origin) : List (Bill T) :=
  match call with
  | .addDelegate spaceId _ _ => [(spaceId, .used 1 0)]
  | .addAdminDelegate spaceId _ _ => [(spaceId, .used 1 0)]
  | .addDelegator spaceId _ _ => [(spaceId, .used 1 0)]
  | .removeDelegate spaceId _ _ => [(spaceId, .used 0 1)]
  | .archive spaceId _ => [(spaceId, .used 1 0)]
  | .restore spaceId _ => [(spaceId, .used 1 0)]
  | .resetTransactionCount spaceId => [(spaceId, .reset)]
  | .create spaceCode =>
    match (T.ensureOrigin origin).bind (spaceIdentifier T spaceCode) with
    | some identifier => [(identifier, .opened)]
    | none => []
  | .subspaceCreate spaceCode _ spaceId =>
    match (T.ensureOrigin origin).bind (spaceIdentifier T spaceCode) with
    | some identifier => [(spaceId, .used 1 0), (identifier, .opened)]
    | none => []
  | _ => []

/-
A new reserve leaves the count of the parent alone.
-/
theorem State.MovesReserve.counts {spaceId : T.Ss58Identifier} {newTxnCapacity : UInt64}
    {d p : SpaceDetails T} (hd : s.spaces.get spaceId = some d)
    (h : s.MovesReserve spaceId newTxnCapacity d p s')
    : ChainSpace.counts s'.spaces = ChainSpace.counts s.spaces := by
  have hparent : ChainSpace.counts (s.spaces.insert d.parent
      { p with txnReserve := p.txnReserve - d.txnCapacity + newTxnCapacity }) =
        ChainSpace.counts s.spaces := counts_insert_of_same h.parent rfl
  rw [h.spaces, ← hparent]
  refine counts_insert_of_same (d := d) ?_ rfl
  rw [StorageMap.get_insert_of_ne _ _ h.isSub, hd]

theorem dispatch_meters (h : Succeeds (call.dispatch origin) s () s')
    : Meters (call.bills origin) s.spaces s'.spaces := by
  cases call with
  | addDelegate spaceId delegate authorization =>
    obtain ⟨_, _, _, _, _, hadd⟩ := addDelegate_spec h
    rw [hadd.spaces]
    exact meters_charge hadd.space rfl
  | addAdminDelegate spaceId delegate authorization =>
    obtain ⟨_, _, _, _, _, hadd⟩ := addAdminDelegate_spec h
    rw [hadd.spaces]
    exact meters_charge hadd.space rfl
  | addDelegator spaceId delegate authorization =>
    obtain ⟨_, _, _, _, _, hadd⟩ := addDelegator_spec h
    rw [hadd.spaces]
    exact meters_charge hadd.space rfl
  | removeDelegate spaceId removeAuthorization authorization =>
    obtain ⟨_, d, _, _, _, hremove⟩ := removeDelegate_spec h
    rw [hremove.spaces]
    apply meters_of_entry hremove.space
    intro _
    rw [toNat_saturatingSub]
    rfl
  | create spaceCode =>
    obtain ⟨creator, identifier, _, _, hcreator, hid, hanchor, hspaces⟩ := create_anchors h
    rw [hspaces, Call.bills, hcreator, Option.bind_some, hid]
    exact (meters_of_counts rfl).opened
  | approve spaceId txnCapacity =>
    obtain ⟨d, hd, _, _, hupdate⟩ := approve_spec h
    rw [hupdate.spaces]
    exact meters_of_counts (counts_insert_of_same hd rfl)
  | archive spaceId authorization =>
    obtain ⟨_, d, _, _, hd, _, hupdate⟩ := archive_spec h
    rw [hupdate.spaces]
    exact meters_charge hd rfl
  | restore spaceId authorization =>
    obtain ⟨_, d, _, _, hd, _, hupdate⟩ := restore_spec h
    rw [hupdate.spaces]
    exact meters_charge hd rfl
  | updateTransactionCapacity spaceId newTxnCapacity =>
    obtain ⟨d, hd, _, _, _, ⟨_, hupdate⟩ | ⟨p, hmove⟩⟩ := updateTransactionCapacity_spec h
    . rw [hupdate.spaces]
      exact meters_of_counts (counts_insert_of_same hd rfl)
    . exact meters_of_counts (hmove.counts hd)
  | resetTransactionCount spaceId =>
    obtain ⟨d, hd, _, _, hupdate⟩ := resetTransactionCount_spec h
    rw [hupdate.spaces]
    exact meters_of_entry hd fun _ => rfl
  | approvalRevoke spaceId =>
    obtain ⟨d, hd, _, _, hupdate⟩ := approvalRevoke_spec h
    rw [hupdate.spaces]
    exact meters_of_counts (counts_insert_of_same hd rfl)
  | approvalRestore spaceId =>
    obtain ⟨d, hd, _, _, hupdate⟩ := approvalRestore_spec h
    rw [hupdate.spaces]
    exact meters_of_counts (counts_insert_of_same hd rfl)
  | subspaceCreate spaceCode count spaceId =>
    obtain ⟨creator, d, value, identifier, _, _, hcreator, hid, hd, hanchor, hspaces⟩ :=
      subspaceCreate_anchors h
    rw [hspaces, Call.bills, hcreator, Option.bind_some, hid]
    have hcharge : Meters [(spaceId, .used 1 0)] s.spaces (s.spaces.insert spaceId
        { d with txnCount := d.txnCount + 1, txnReserve := d.txnReserve + value }) := by
      apply meters_of_entry hd
      intro hlt
      change d.txnCount.toNat + 1 < _ at hlt
      change some (d.txnCount.toNat + 1) = some (d.txnCount + 1).toNat
      rw [UInt64.toNat_add, UInt64.toNat_one, Nat.mod_eq_of_lt hlt]
    exact hcharge.opened
  | updateTransactionCapacitySub spaceId newTxnCapacity =>
    obtain ⟨d, p, hd, _, _, _, hmove⟩ := updateTransactionCapacitySub_spec h
    exact meters_of_counts (hmove.counts hd)

/--
The bill goes to the space that the authorization is for.
-/
def State.billFor (s : State T) (authorization : T.Ss58Identifier) (entry : MeterEntry)
    : List (Bill T) :=
  match s.authorizations.get authorization with
  | some a => [(a.spaceId, entry)]
  | none => []

theorem State.Authorizes.billFor {required : Permissions} {authorization spaceId : T.Ss58Identifier}
    {delegate : T.SpaceCreatorId} (h : s.Authorizes required authorization delegate spaceId)
    (entry : MeterEntry) : s.billFor authorization entry = [(spaceId, entry)] := by
  obtain ⟨a, ha, _, rfl, _⟩ := h
  unfold State.billFor
  rw [ha]

theorem units_billFor_le (s : State T) (authorization : T.Ss58Identifier) (refund : Nat)
    : units (s.billFor authorization (.used 1 refund)) ≤ 1 := by
  unfold State.billFor
  split
  . exact Nat.le_refl 1
  . exact Nat.zero_le 1

theorem units_bills_le (call : Call T) (origin : T.Origin) : units (call.bills origin) ≤ 1 := by
  unfold Call.bills
  split
  . exact Nat.le_refl 1
  . exact Nat.le_refl 1
  . exact Nat.le_refl 1
  . exact Nat.zero_le 1
  . exact Nat.le_refl 1
  . exact Nat.le_refl 1
  . exact Nat.zero_le 1
  . split
    . exact Nat.zero_le 1
    . exact Nat.zero_le 1
  . split
    . exact Nat.le_refl 1
    . exact Nat.zero_le 1
  . exact Nat.zero_le 1

namespace Client

variable {σ ε α : Type} {wrap : Error → ε}

def spaces (s : Client T σ) : StorageMap T.Ss58Identifier (SpaceDetails T) :=
  s.chainSpace.spaces

abbrev Unbilled (x : DispatchM (Client T σ) ε α) : Prop :=
  Respects (SameView Client.spaces) x

theorem unbilled_getPallet : Unbilled (ε := ε) (getPallet (T := T) (σ := σ)) :=
  .bind .get fun _ => .pure

theorem unbilled_blockNumber : Unbilled (ε := ε) (blockNumber (T := T) (σ := σ)) :=
  .bind .get fun _ => .pure

theorem unbilled_modifyPallet {f : σ → σ} : Unbilled (T := T) (ε := ε) (modifyPallet f) :=
  .modify fun _ => rfl

theorem unbilled_updateActivity {txId : T.Ss58Identifier} {txType : IdentifierTypeOf}
    {txAction : CallTypeOf} : Unbilled (σ := σ) (updateActivity wrap txId txType txAction) := by
  intro s _ s' h
  rw [updateActivity_iff] at h
  rw [h]
  rfl

/-
A call that is authorized first and unbilled after that costs one unit.
-/
theorem meters_of_authorized {s s' : Client T σ} {authorization : T.Ss58Identifier}
    {delegate : T.SpaceCreatorId} {f : T.Ss58Identifier → DispatchM (Client T σ) ε Unit}
    (hf : ∀ spaceId, Unbilled (f spaceId))
    (h : Succeeds (ensureAuthorizationOrigin wrap authorization delegate >>= f) s () s')
    : Meters (s.chainSpace.billFor authorization (.used 1 0)) s.spaces s'.spaces := by
  obtain ⟨spaceId, t, hauth, hrest⟩ := Succeeds.bind_iff.mp h
  obtain ⟨d, hauthorizes, hd, _, rfl⟩ := ensureAuthorizationOrigin_iff.mp hauth
  have hspaces : s'.spaces = s.spaces.insert spaceId d.charge := hf spaceId _ _ _ hrest
  rw [hspaces, hauthorizes.billFor]
  exact meters_charge hd rfl

end Client

end ChainSpace
