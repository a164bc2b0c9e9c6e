import Cord.ChainSpace.Lemmas.Client
import Cord.ChainSpace.Lemmas.Trail
import Cord.Frame.Addressed
import Cord.Schema.Impl

/-!
This module contains what stays of the schemas that are anchored: nothing changes or removes them, their
identifiers name their content, and each one is announced and recorded once.
-/

open Frame Identifier
open ChainSpace (Client SpaceDetails)
open ChainSpace.Client (getPallet_iff modifyPallet_iff ensureAuthorizationOrigin_iff
  updateActivity_iff)

namespace Schema

variable {T : Config} {s s' : State T} {origin : T.Origin} {txSchema : InputSchema T}
  {authorization identifier : T.Ss58Identifier} {entry : SchemaEntry T}

def SchemaEntry.content (entry : SchemaEntry T)
    : InputSchema T × T.Ss58Identifier × T.SpaceCreatorId :=
  (entry.schema, entry.space, entry.creator)

def address (content : InputSchema T × T.Ss58Identifier × T.SpaceCreatorId)
    : Option T.Ss58Identifier :=
  schemaIdentifier T content.1 content.2.1 content.2.2

def SchemaEntry.new (txSchema : InputSchema T) (creator : T.SpaceCreatorId)
    (spaceId : T.Ss58Identifier) : SchemaEntry T where
  schema := txSchema
  digest := T.hash txSchema.toList
  creator
  space := spaceId

def Storage.anchor (p : Storage T) (identifier : T.Ss58Identifier) (entry : SchemaEntry T)
    : Storage T where
  schemas := p.schemas.insert identifier entry
  events := p.events ++ [.created identifier entry.creator]

def State.anchor (s : State T) (d : SpaceDetails T.toChainSpace) (identifier : T.Ss58Identifier)
    (entry : SchemaEntry T) : State T where
  chainSpace := (s.setSpace entry.space d.charge).chainSpace.logActivity identifier .schema .genesis
  pallet := s.pallet.anchor identifier entry

theorem create_iff
    : Succeeds (create origin txSchema authorization) s () s'
        ↔
      ∃ creator spaceId d identifier, T.ensureSchemaOrigin origin = some creator ∧
        0 < txSchema.toList.length ∧
        s.chainSpace.Authorizes .assert authorization creator spaceId ∧
        s.chainSpace.spaces.get spaceId = some d ∧ d.charge.CanTransact ∧
        schemaIdentifier T txSchema spaceId creator = some identifier ∧
        s.pallet.schemas.get identifier = none ∧
        s' = s.anchor d identifier (.new txSchema creator spaceId) := by
  simp only [create, updateActivity, depositEvent, Succeeds.bind_iff, Succeeds.ensureOrigin_iff,
    Succeeds.ensure_iff, ensureAuthorizationOrigin_iff, Succeeds.okOr_iff, getPallet_iff,
    modifyPallet_iff, updateActivity_iff, Bool.not_eq_true', StorageMap.containsKey_eq_false_iff,
    and_assoc, exists_and_left, exists_eq_left, exists_const]
  constructor
  . rintro ⟨creator, horigin, hpos, _, spaceId, hauth, _, ⟨d, hd, hvalid, rfl⟩, identifier, hid,
      hfresh, rfl⟩
    exact ⟨creator, horigin, hpos, spaceId, hauth, d, hd, hvalid, identifier, hid, hfresh, rfl⟩
  . rintro ⟨creator, horigin, hpos, spaceId, hauth, d, hd, hvalid, identifier, hid, hfresh, rfl⟩
    exact ⟨creator, horigin, hpos, txSchema.length_le, spaceId, hauth, _, ⟨d, hd, hvalid, rfl⟩,
      identifier, hid, hfresh, rfl⟩

/--
What holds of a schema under its identifier. Its timeline is complete with the creation.
-/
structure Anchored (s : State T) (identifier : T.Ss58Identifier) (entry : SchemaEntry T) : Prop where
  address : schemaIdentifier T entry.schema entry.space entry.creator = some identifier
  digest : entry.digest = T.hash entry.schema.toList
  nonempty : 0 < entry.schema.toList.length
  space : s.chainSpace.spaces.containsKey entry.space = true
  timeline : ∃ timepoint events,
    s.chainSpace.identifiers.get (identifier, .schema) = some events ∧
      events.toList = [⟨.genesis, timepoint⟩]
  announced : s.pallet.events.count (.created identifier entry.creator) = 1

structure Store (s : State T) : Prop where
  anchored : ∀ identifier entry, s.pallet.schemas.get identifier = some entry →
    Anchored s identifier entry
  absent : ∀ identifier, s.pallet.schemas.get identifier = none →
    s.chainSpace.identifiers.get (identifier, .schema) = none ∧
      ∀ creator, .created identifier creator ∉ s.pallet.events

/-
What a step may do to the schemas that are stored: add to them, and to their timelines not even that.
-/
structure Keeps (s s' : State T) : Prop where
  schemas : s.pallet.schemas.Extends s'.pallet.schemas
  timelines : ∀ identifier, (s.pallet.schemas.get identifier).isSome →
    s'.chainSpace.identifiers.get (identifier, .schema) =
      s.chainSpace.identifiers.get (identifier, .schema)

@[simp]
theorem schemas_anchor {d : SpaceDetails T.toChainSpace}
    : (s.anchor d identifier entry).pallet.schemas = s.pallet.schemas.insert identifier entry := rfl

@[simp]
theorem events_anchor {d : SpaceDetails T.toChainSpace}
    : (s.anchor d identifier entry).pallet.events =
        s.pallet.events ++ [.created identifier entry.creator] := rfl

@[simp]
theorem spaces_anchor {d : SpaceDetails T.toChainSpace}
    : (s.anchor d identifier entry).chainSpace.spaces =
        s.chainSpace.spaces.insert entry.space d.charge := rfl

theorem timeline_anchor_of_ne {d : SpaceDetails T.toChainSpace} {identifier' : T.Ss58Identifier}
    (h : identifier' ≠ identifier)
    : (s.anchor d identifier entry).chainSpace.identifiers.get (identifier', .schema) =
        s.chainSpace.identifiers.get (identifier', .schema) := by
  unfold State.anchor
  rw [ChainSpace.identifiers_logActivity, get_apply]
  exact if_neg fun hkey => h (congrArg Prod.fst hkey).symm

theorem timeline_anchor_self {d : SpaceDetails T.toChainSpace}
    (h : s.chainSpace.identifiers.get (identifier, .schema) = none)
    : ∃ events,
        (s.anchor d identifier entry).chainSpace.identifiers.get (identifier, .schema) = some events ∧
          events.toList = [⟨.genesis, s.chainSpace.timepoint⟩] := by
  refine ⟨appendEvent .empty ⟨.genesis, s.chainSpace.timepoint⟩, ?_, ?_⟩
  . have hnone : (s.setSpace entry.space d.charge).chainSpace.identifiers.get (identifier, .schema) =
        none := h
    unfold State.anchor
    rw [ChainSpace.identifiers_logActivity, get_apply]
    refine (if_pos rfl).trans ?_
    rw [hnone]
    rfl
  . have htwo := T.two_le_maxEventsHistory
    rw [toList_appendEvent]
    exact if_neg (by rw [BoundedVec.empty, List.length_nil]; omega)

namespace Store

theorem congr (h : Store s) (hpallet : s'.pallet = s.pallet)
    (hspaces : ∀ spaceId, s.chainSpace.spaces.containsKey spaceId = true →
      s'.chainSpace.spaces.containsKey spaceId = true)
    (hidentifiers : ∀ identifier, s'.chainSpace.identifiers.get (identifier, .schema) =
      s.chainSpace.identifiers.get (identifier, .schema))
    : Store s' := by
  constructor
  . intro identifier entry hget
    rw [hpallet] at hget
    obtain ⟨haddress, hdigest, hnonempty, hspace, htimeline, hannounced⟩ := h.anchored _ _ hget
    refine ⟨haddress, hdigest, hnonempty, hspaces _ hspace, ?_, ?_⟩
    . rw [hidentifiers]
      exact htimeline
    . rw [hpallet]
      exact hannounced
  . intro identifier hget
    rw [hpallet] at hget ⊢
    rw [hidentifiers]
    exact h.absent identifier hget

theorem atTime (h : Store s) (timepoint : Timepoint) : Store (s.atTime timepoint) :=
  h.congr rfl (fun _ => id) fun _ => rfl

theorem anchor {d : SpaceDetails T.toChainSpace} {creator : T.SpaceCreatorId}
    {spaceId : T.Ss58Identifier} (h : Store s) (hpos : 0 < txSchema.toList.length)
    (hid : schemaIdentifier T txSchema spaceId creator = some identifier)
    (hfresh : s.pallet.schemas.get identifier = none)
    : Store (s.anchor d identifier (.new txSchema creator spaceId)) := by
  obtain ⟨hnone, hunannounced⟩ := h.absent identifier hfresh
  constructor
  . intro identifier' entry hget
    rw [schemas_anchor, StorageMap.get_insert] at hget
    split at hget
    . next heq =>
      obtain rfl := Option.some.inj hget
      subst heq
      refine ⟨hid, rfl, hpos, ?_, ⟨_, timeline_anchor_self hnone⟩, ?_⟩
      . rw [spaces_anchor, StorageMap.containsKey_insert]
        left
        rfl
      . rw [events_anchor, List.count_append, List.count_singleton_self,
          List.count_eq_zero_of_not_mem (hunannounced _)]
    . next hne =>
      obtain ⟨haddress, hdigest, hnonempty, hspace, htimeline, hannounced⟩ := h.anchored _ _ hget
      refine ⟨haddress, hdigest, hnonempty, ?_, ?_, ?_⟩
      . rw [spaces_anchor, StorageMap.containsKey_insert]
        right
        exact hspace
      . rw [timeline_anchor_of_ne hne]
        exact htimeline
      . have hother : .created identifier' entry.creator ∉ [Event.created identifier creator] := by
          rw [List.mem_singleton]
          intro heq
          injection heq with heq
          exact hne heq
        rw [events_anchor, List.count_append, hannounced]
        exact congrArg (1 + ·) (List.count_eq_zero_of_not_mem hother)
  . intro identifier' hget
    rw [schemas_anchor, StorageMap.get_insert] at hget
    split at hget
    . cases hget
    . next hne =>
      obtain ⟨htimeline, hannounced⟩ := h.absent identifier' hget
      refine ⟨?_, ?_⟩
      . rw [timeline_anchor_of_ne hne]
        exact htimeline
      . intro creator' hmem
        rw [events_anchor, List.mem_append, List.mem_singleton] at hmem
        rcases hmem with hmem | hmem
        . exact hannounced creator' hmem
        . injection hmem with heq
          exact hne heq

theorem genesis (T : Config) : Store (State.genesis T) := by
  constructor
  . intro identifier entry hget
    cases hget
  . intro identifier _
    exact ⟨rfl, nofun⟩

end Store

theorem Keeps.of_anchor {d : SpaceDetails T.toChainSpace}
    (hfresh : s.pallet.schemas.get identifier = none) : Keeps s (s.anchor d identifier entry) := by
  constructor
  . exact StorageMap.Extends.insert _ _ hfresh
  . intro identifier' hstored
    apply timeline_anchor_of_ne
    rintro rfl
    rw [hfresh] at hstored
    cases hstored

section Runs

variable {ext : Extrinsic T}

/-
A step either leaves the schemas and their timelines alone or anchors one more.
-/
theorem dispatch_cases (h : Succeeds ((machine T).dispatch ext) s () s')
    : s'.pallet = s.pallet ∧
        (∀ spaceId, s.chainSpace.spaces.containsKey spaceId = true →
          s'.chainSpace.spaces.containsKey spaceId = true) ∧
        (∀ identifier, s'.chainSpace.identifiers.get (identifier, .schema) =
          s.chainSpace.identifiers.get (identifier, .schema)) ∨
      ∃ timepoint txSchema creator spaceId d identifier, 0 < txSchema.toList.length ∧
        schemaIdentifier T txSchema spaceId creator = some identifier ∧
        s.pallet.schemas.get identifier = none ∧
        s' = State.anchor (s.atTime timepoint) d identifier (.new txSchema creator spaceId) := by
  cases ext with
  | chainSpace ext =>
    left
    obtain ⟨t, ht, rfl⟩ := Succeeds.zoom_iff.mp h
    refine ⟨rfl, ?_, ?_⟩
    . intro spaceId hspace
      exact (ChainSpace.dispatch_spaces (ChainSpace.Extrinsic.dispatch_iff.mp ht)).isSome hspace
    . intro identifier
      exact ChainSpace.get_identifiers_of_ne nofun nofun ht
  | pallet origin timepoint call =>
    right
    cases call with
    | create txSchema authorization =>
      obtain ⟨creator, spaceId, d, identifier, _, hpos, _, _, _, hid, hfresh, rfl⟩ :=
        create_iff.mp (Client.machine_pallet.mp h)
      exact ⟨timepoint, txSchema, creator, spaceId, d, identifier, hpos, hid, hfresh, rfl⟩

theorem Store.step (hs : Store s) (h : Succeeds ((machine T).dispatch ext) s () s') : Store s' := by
  rcases dispatch_cases h with ⟨hpallet, hspaces, hidentifiers⟩ |
    ⟨timepoint, _, _, _, _, _, hpos, hid, hfresh, rfl⟩
  . exact hs.congr hpallet hspaces hidentifiers
  . exact (hs.atTime timepoint).anchor hpos hid hfresh

theorem dispatch_keeps (h : Succeeds ((machine T).dispatch ext) s () s') : Keeps s s' := by
  rcases dispatch_cases h with ⟨hpallet, _, hidentifiers⟩ |
    ⟨timepoint, _, _, _, _, _, _, _, hfresh, rfl⟩
  . constructor
    . rw [hpallet]
      exact refl_of StorageMap.Extends _
    . intro identifier _
      exact hidentifiers identifier
  . obtain ⟨hschemas, htimelines⟩ := Keeps.of_anchor (s := s.atTime timepoint) hfresh
    exact ⟨hschemas, htimelines⟩

theorem Keeps.trans {t : State T} (h : Keeps s t) (h' : Keeps t s') : Keeps s s' := by
  constructor
  . exact trans_of StorageMap.Extends h.schemas h'.schemas
  . intro identifier hstored
    obtain ⟨entry, hentry⟩ := Option.isSome_iff_exists.mp hstored
    have hlater := h.schemas _ _ hentry
    rw [h'.timelines identifier (by rw [hlater]; rfl), h.timelines identifier hstored]

theorem run_keeps (s : State T) (exts : List (Extrinsic T)) : Keeps s ((machine T).run s exts) := by
  apply Machine.run_invariant (I := Keeps s)
  . intro t ext t' ht h
    exact ht.trans (dispatch_keeps h)
  . exact ⟨refl_of StorageMap.Extends _, fun _ _ => rfl⟩

theorem run_store (exts : List (Extrinsic T)) : Store ((machine T).run (State.genesis T) exts) := by
  apply Machine.run_invariant
  . intro s ext s' hs h
    exact hs.step h
  . exact Store.genesis T

/--
Whatever is called afterwards, in the chain space pallet as well, a schema that is anchored stays as it is
under its identifier, and so does its timeline, which its creation is all of.
-/
theorem run_schemas (exts exts' : List (Extrinsic T))
    : let s := (machine T).run (State.genesis T) exts
      Store s ∧ Keeps s ((machine T).run s exts') :=
  ⟨run_store exts, run_keeps _ exts'⟩

/--
A delegate whose authorization allows to assert can anchor a text that is not empty and has an identifier,
in a space that is approved, not archived, and still below its capacity when this transaction is counted.
-/
structure CanAnchor (s : State T) (txSchema : InputSchema T) (authorization : T.Ss58Identifier)
    (creator : T.SpaceCreatorId) (spaceId : T.Ss58Identifier) : Prop where
  nonempty : txSchema.toList ≠ []
  authorizes : s.chainSpace.Authorizes .assert authorization creator spaceId
  canTransact : ∃ d, s.chainSpace.spaces.get spaceId = some d ∧ d.charge.CanTransact
  addressable : (address (txSchema, spaceId, creator)).isSome
  isNew : ∀ identifier entry, s.pallet.schemas.get identifier = some entry →
    entry.content ≠ (txSchema, spaceId, creator)

theorem Store.addressed (h : Store s)
    : s.pallet.schemas.Addressed SchemaEntry.content address :=
  fun identifier entry hget => (h.anchored identifier entry hget).address

theorem Store.get_eq_none_iff (h : Store s) {creator : T.SpaceCreatorId} {spaceId : T.Ss58Identifier}
    (hid : schemaIdentifier T txSchema spaceId creator = some identifier)
    (hfree : s.pallet.schemas.CollisionFree SchemaEntry.content address (txSchema, spaceId, creator))
    : s.pallet.schemas.get identifier = none ↔
        ∀ identifier entry, s.pallet.schemas.get identifier = some entry →
          entry.content ≠ (txSchema, spaceId, creator) :=
  h.addressed.get_eq_none_iff (c := (txSchema, spaceId, creator)) hid hfree

/--
What is relied on of the hash: the identifier of the one content that this call can anchor is not that of
another content in the store.
-/
def Distinguishes (s : State T) (origin : T.Origin) (txSchema : InputSchema T)
    (authorization : T.Ss58Identifier) : Prop :=
  ∀ creator spaceId, T.ensureSchemaOrigin origin = some creator →
    s.chainSpace.Authorizes .assert authorization creator spaceId →
      s.pallet.schemas.CollisionFree SchemaEntry.content address (txSchema, spaceId, creator)

/--
A schema can be anchored by a delegate of a space that takes the transaction exactly if that delegate has
not anchored it there before. Whether somebody else did, or the delegate in another space, does not matter.
-/
theorem run_create_iff (exts : List (Extrinsic T)) (origin : T.Origin) (timepoint : Timepoint)
    (txSchema : InputSchema T) (authorization : T.Ss58Identifier)
    (hhash : Distinguishes ((machine T).run (State.genesis T) exts) origin txSchema authorization)
    : let s := (machine T).run (State.genesis T) exts
      (machine T).accepts s (.pallet origin timepoint (.create txSchema authorization)) = true
        ↔
      ∃ creator spaceId, T.ensureSchemaOrigin origin = some creator ∧
        CanAnchor s txSchema authorization creator spaceId := by
  dsimp only
  have hs := run_store exts
  generalize (machine T).run (State.genesis T) exts = s at hs hhash
  rw [Machine.accepts_iff_exists]
  constructor
  . rintro ⟨s', h⟩
    obtain ⟨creator, spaceId, d, identifier, horigin, hpos, hauth, hd, hvalid, hid, hfresh, _⟩ :=
      create_iff.mp (Client.machine_pallet.mp h)
    have hnew := (hs.get_eq_none_iff hid (hhash creator spaceId horigin hauth)).mp hfresh
    exact ⟨creator, spaceId, horigin, List.length_pos_iff.mp hpos, hauth, ⟨d, hd, hvalid⟩,
      Option.isSome_iff_exists.mpr ⟨identifier, hid⟩, hnew⟩
  . rintro ⟨creator, spaceId, horigin, hnonempty, hauth, ⟨d, hd, hvalid⟩, haddressable, hnew⟩
    obtain ⟨identifier, hid⟩ := Option.isSome_iff_exists.mp haddressable
    have hfresh := (hs.get_eq_none_iff hid (hhash creator spaceId horigin hauth)).mpr hnew
    have hcreate := (create_iff (s := s.atTime timepoint)).mpr
      ⟨creator, spaceId, d, identifier, horigin, List.length_pos_iff.mpr hnonempty, hauth, hd, hvalid,
        hid, hfresh, rfl⟩
    exact ⟨_, Client.machine_pallet.mpr hcreate⟩

end Runs

section Plain

theorem encodeSchema_append_inj {txSchema txSchema' : InputSchema .plain} {rest rest' : List UInt8}
    (h : Config.plain.encodeSchema txSchema.toList ++ rest =
      Config.plain.encodeSchema txSchema'.toList ++ rest')
    : txSchema = txSchema' ∧ rest = rest' := by
  -- The first byte tells how much of the rest is text, which has at most eight bytes.
  rw [List.cons_append, List.cons_append, List.cons.injEq] at h
  obtain ⟨hlength, happend⟩ := h
  have hle : txSchema.toList.length ≤ 8 := txSchema.length_le
  have hle' : txSchema'.toList.length ≤ 8 := txSchema'.length_le
  have heq : txSchema.toList.length = txSchema'.toList.length := by
    have hnat := congrArg UInt8.toNat hlength
    simp only [Nat.toUInt8, UInt8.toNat_ofNat'] at hnat
    omega
  obtain ⟨htext, hrest⟩ := List.append_inj happend heq
  exact ⟨BoundedVec.toList_injective htext, hrest⟩

theorem plain_address_injective : Function.Injective (address (T := .plain)) := by
  rintro ⟨txSchema, spaceId, creator⟩ ⟨txSchema', spaceId', creator'⟩ h
  have hbytes : Config.plain.encodeSchema txSchema.toList ++ spaceId ++ [creator] =
      Config.plain.encodeSchema txSchema'.toList ++ spaceId' ++ [creator'] :=
    (List.cons.inj (Option.some.inj h)).2
  obtain ⟨htexts, hcreator⟩ := List.append_inj' hbytes rfl
  obtain ⟨rfl, rfl⟩ := encodeSchema_append_inj htexts
  obtain rfl := List.singleton_inj.mp hcreator
  rfl

theorem plain_distinguishes (s : State .plain) (origin : Config.plain.Origin)
    (txSchema : InputSchema .plain) (authorization : Config.plain.Ss58Identifier)
    : Distinguishes s origin txSchema authorization :=
  fun _ _ _ _ _ _ _ h => plain_address_injective h

def plainSchema (text : UInt8) : InputSchema .plain :=
  ⟨[text], by rw [List.length_singleton]; decide⟩

def plainCreate (text : UInt8) : Extrinsic .plain :=
  .pallet (some 1) ⟨1, 0⟩ (.create (plainSchema text)
    (ChainSpace.plainAuthorization (ChainSpace.plainSpace 10 1) 1 1))

def plainAnchored : List (Extrinsic .plain) := [
    -- A space with room for four transactions, in which a schema is anchored.
    .chainSpace (ChainSpace.plainExtrinsic (some 1) (.create [10])),
    .chainSpace (ChainSpace.plainExtrinsic none (.approve (ChainSpace.plainSpace 10 1) 5)),
    plainCreate 7
  ]

theorem plainCreate_iff
    : let s := (machine .plain).run (State.genesis .plain) plainAnchored
      (machine .plain).accepts s (plainCreate 8) = true
        ↔
      ∃ creator spaceId, Config.plain.ensureSchemaOrigin (some 1) = some creator ∧
        CanAnchor s (plainSchema 8)
          (ChainSpace.plainAuthorization (ChainSpace.plainSpace 10 1) 1 1) creator spaceId :=
  run_create_iff plainAnchored _ _ _ _ (plain_distinguishes _ _ _ _)

example : (machine .plain).rejected (State.genesis .plain)
    (plainAnchored ++ [plainCreate 8, plainCreate 7]) = [4] := by
  decide +kernel

end Plain

end Schema
