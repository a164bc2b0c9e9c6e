import Cord.Frame.Avoids
import Cord.NodeAuthorization.Lemmas.Bookkeeping

/-!
This module contains which of the nodes that are added can be managed later on: all but those with an id of
the maximal length, which is too long for every call but the one that adds it.
-/

open Frame

namespace NodeAuthorization

variable {T : Config} {s s' : State T} {origin : T.Origin} {nodeId connectionId : NodeId}

def TooLong (e : DispatchError Error) : Prop :=
  e = .module .nodeIdTooLong ∨ e = .module .peerIdTooLong

instance : DecidablePred TooLong := fun _ => inferInstanceAs (Decidable (_ ∨ _))

/--
What every call asks of an id that it is given: a short peer id, if the id is an encoding of one.
-/
def ShortPeerId (T : Config) (nodeId : NodeId) : Prop :=
  ∀ peer, generatePeerId T nodeId = .ok peer → peer.length < T.maxPeerIdLength.toNat

structure Short (T : Config) (nodeId : NodeId) : Prop where
  node : nodeId.length < T.maxNodeIdLength.toNat
  peer : ShortPeerId T nodeId

def State.Owns (s : State T) (origin : T.Origin) (nodeId : NodeId) : Prop :=
  ∃ who peer info, T.ensureSigned origin = some who ∧ generatePeerId T nodeId = .ok peer ∧
    s.owners.get peer = some info ∧ info.owner = who

/--
The calls that manage a node, made by those who may do so. A second id that a call is given is none that
could be rejected instead: the text of a connection may be of any length, that of a node may not.
-/
def Extrinsic.Manages (ext : Extrinsic T) (s : State T) (nodeId : NodeId) : Prop :=
  match ext.call with
  | .addWellKnownNode _ _ => False
  | .removeWellKnownNode id => id = nodeId ∧ T.nodeAuthorizationOrigin ext.origin = some ()
  | .swapWellKnownNode removeId addId => removeId = nodeId ∧ s.Owns ext.origin nodeId ∧ Short T addId
  | .transferNode id _ => id = nodeId ∧ s.Owns ext.origin nodeId
  | .addConnection id connectionId =>
    id = nodeId ∧ s.Owns ext.origin nodeId ∧ ShortPeerId T connectionId
  | .removeConnection id connectionId =>
    id = nodeId ∧ s.Owns ext.origin nodeId ∧ ShortPeerId T connectionId

def State.Manageable (s : State T) (nodeId : NodeId) : Prop :=
  -- No call that manages the node rejects its id, in this state and in every later one.
  ∀ (exts : List (Extrinsic T)) (ext : Extrinsic T), ext.Manages ((machine T).run s exts) nodeId →
    ∀ e, Fails ext.dispatch ((machine T).run s exts) e → ¬ TooLong e

section Avoids

theorem generatePeerId_not_tooLong (err : Error) (h : generatePeerId T nodeId = .error err)
    : ¬ TooLong (.module err) := by
  unfold generatePeerId at h
  split at h
  . injection h with h
    rw [← h]
    decide
  . split at h
    . injection h with h
      rw [← h]
      decide
    . cases h

theorem ShortPeerId.avoids (h : ShortPeerId T nodeId) : Avoids TooLong (peerIdOf (T := T) nodeId) := by
  intro s e hfails
  simp only [peerIdOf, Fails.bind_iff, Fails.mapErr_iff, Succeeds.mapErr_iff, Fails.ensure_iff,
    Fails.pure_iff, and_false, exists_false, or_false] at hfails
  rcases hfails with ⟨err, herr, rfl⟩ | ⟨peer, t, ⟨hpeer, _⟩, hlong, _⟩
  . exact generatePeerId_not_tooLong err herr
  . exact absurd (h peer hpeer) hlong

theorem Short.tryFrom_ne_none (h : Short T nodeId)
    : (BoundedVec.tryFrom nodeId : Option (BoundedVec UInt8 T.maxNodeIdLength.toNat)) ≠ none := by
  have hbytes : BoundedVec.tryFrom nodeId = some ⟨nodeId, Nat.le_of_lt h.node⟩ :=
    BoundedVec.tryFrom_eq_some.mpr rfl
  rw [hbytes]
  exact Option.some_ne_none _

theorem ensureOwner_avoids {node : PeerId} {sender : T.AccountId}
    : Avoids TooLong (ensureOwner node sender) := by
  unfold ensureOwner
  apply Avoids.bind .get
  intro s
  apply Avoids.bind (.okOr fun _ => by decide)
  intro info
  apply Avoids.bind (.ensure fun _ => by decide)
  intro _
  exact .pure

theorem removeWellKnownNode_avoids (h : Short T nodeId)
    : Avoids TooLong (removeWellKnownNode origin nodeId) := by
  unfold removeWellKnownNode
  apply Avoids.bind (.ensureOrigin (by decide))
  intro _
  apply Avoids.bind (.ensure (absurd h.node))
  intro _
  apply Avoids.bind h.peer.avoids
  intro node
  apply Avoids.bind .get
  intro s
  apply Avoids.bind (.ensure fun _ => by decide)
  intro _
  exact .bind .modify fun _ => .bind .modify fun _ => .bind .modify fun _ => .modify

theorem swapWellKnownNode_avoids {removeId addId : NodeId} (hremove : Short T removeId)
    (hadd : Short T addId) : Avoids TooLong (swapWellKnownNode origin removeId addId) := by
  unfold swapWellKnownNode swapNodes
  apply Avoids.bind (.ensureOrigin (by decide))
  intro sender
  apply Avoids.bind (.ensure (absurd hremove.node))
  intro _
  apply Avoids.bind (.ensure (absurd hadd.node))
  intro _
  apply Avoids.ite .pure
  apply Avoids.bind hremove.peer.avoids
  intro remove
  apply Avoids.bind ensureOwner_avoids
  intro info
  apply Avoids.bind hadd.peer.avoids
  intro add
  apply Avoids.bind .get
  intro s
  apply Avoids.bind (.ensure fun _ => by decide)
  intro _
  apply Avoids.bind (.ensure fun _ => by decide)
  intro _
  apply Avoids.bind .modify
  intro _
  apply Avoids.bind (.okOr fun hnone => absurd hnone hadd.tryFrom_ne_none)
  intro bytes
  exact .bind .modify fun _ => .bind .modify fun _ => .bind .modify fun _ => .modify

theorem transferNode_avoids {owner : T.LookupSource} (h : Short T nodeId)
    : Avoids TooLong (transferNode origin nodeId owner) := by
  unfold transferNode
  apply Avoids.bind (.ensureOrigin (by decide))
  intro sender
  apply Avoids.bind (.okOr fun _ => by decide)
  intro owner'
  apply Avoids.bind (.ensure (absurd h.node))
  intro _
  apply Avoids.bind h.peer.avoids
  intro node
  apply Avoids.bind ensureOwner_avoids
  intro info
  apply Avoids.bind (.okOr fun hnone => absurd hnone h.tryFrom_ne_none)
  intro bytes
  exact .bind .modify fun _ => .modify

theorem addConnection_avoids (h : Short T nodeId) (hconnection : ShortPeerId T connectionId)
    : Avoids TooLong (addConnection origin nodeId connectionId) := by
  unfold addConnection
  apply Avoids.bind (.ensureOrigin (by decide))
  intro sender
  apply Avoids.bind (.ensure (absurd h.node))
  intro _
  apply Avoids.bind h.peer.avoids
  intro node
  apply Avoids.bind ensureOwner_avoids
  intro info
  apply Avoids.bind hconnection.avoids
  intro connection
  apply Avoids.bind .get
  intro s
  apply Avoids.bind (.ensure fun _ => by decide)
  intro _
  exact .bind .modify fun _ => .modify

theorem removeConnection_avoids (h : Short T nodeId) (hconnection : ShortPeerId T connectionId)
    : Avoids TooLong (removeConnection origin nodeId connectionId) := by
  unfold removeConnection
  apply Avoids.bind (.ensureOrigin (by decide))
  intro sender
  apply Avoids.bind (.ensure (absurd h.node))
  intro _
  apply Avoids.bind h.peer.avoids
  intro node
  apply Avoids.bind ensureOwner_avoids
  intro info
  apply Avoids.bind hconnection.avoids
  intro connection
  apply Avoids.bind .get
  intro s
  apply Avoids.bind (.ensure fun _ => by decide)
  intro _
  exact .bind .modify fun _ => .modify

theorem Extrinsic.Manages.avoids {ext : Extrinsic T} (hmanages : ext.Manages s nodeId)
    (h : Short T nodeId) : Avoids TooLong ext.dispatch := by
  obtain ⟨origin, call⟩ := ext
  cases call with
  | addWellKnownNode id owner => cases hmanages
  | removeWellKnownNode id =>
    obtain ⟨rfl, _⟩ := hmanages
    exact removeWellKnownNode_avoids h
  | swapWellKnownNode removeId addId =>
    obtain ⟨rfl, _, hadd⟩ := hmanages
    exact swapWellKnownNode_avoids h hadd
  | transferNode id owner =>
    obtain ⟨rfl, _⟩ := hmanages
    exact transferNode_avoids h
  | addConnection id connectionId =>
    obtain ⟨rfl, _, hconnection⟩ := hmanages
    exact addConnection_avoids h hconnection
  | removeConnection id connectionId =>
    obtain ⟨rfl, _, hconnection⟩ := hmanages
    exact removeConnection_avoids h hconnection

end Avoids

theorem addWellKnownNode_lengths {owner : T.LookupSource}
    (h : Succeeds (addWellKnownNode origin nodeId owner) s () s')
    : T.nodeAuthorizationOrigin origin = some () ∧ nodeId.length ≤ T.maxNodeIdLength.toNat ∧
        ShortPeerId T nodeId := by
  simp only [addWellKnownNode, Succeeds.bind_iff, Succeeds.ensureOrigin_iff, Succeeds.okOr_iff,
    peerIdOf_iff, and_assoc, exists_and_left, exists_eq_left] at h
  obtain ⟨_, horigin, owner', _, bytes, hbytes, node, hnode, hlength, _⟩ := h
  refine ⟨horigin, ?_, ?_⟩
  . rw [BoundedVec.tryFrom_eq_some] at hbytes
    rw [← hbytes]
    exact bytes.length_le
  . intro peer hpeer
    rw [hnode] at hpeer
    injection hpeer with hpeer
    rw [← hpeer]
    exact hlength

theorem removeWellKnownNode_fails (horigin : T.nodeAuthorizationOrigin origin = some ())
    (h : ¬ nodeId.length < T.maxNodeIdLength.toNat)
    : Fails (removeWellKnownNode origin nodeId) s (.module .nodeIdTooLong) := by
  rw [removeWellKnownNode, Fails.bind_iff]
  right
  refine ⟨(), s, Succeeds.ensureOrigin_iff.mpr ⟨horigin, rfl⟩, ?_⟩
  rw [Fails.bind_iff, Fails.ensure_iff]
  exact .inl ⟨h, rfl⟩

theorem addWellKnownNode_manageable_iff {owner : T.LookupSource}
    (h : Succeeds (addWellKnownNode origin nodeId owner) s () s')
    : s'.Manageable nodeId ↔ nodeId.length ≠ T.maxNodeIdLength.toNat := by
  obtain ⟨horigin, hle, hpeer⟩ := addWellKnownNode_lengths h
  constructor
  . intro hmanageable hlength
    let ext : Extrinsic T := ⟨origin, .removeWellKnownNode nodeId⟩
    have hfails : Fails ext.dispatch ((machine T).run s' []) (.module .nodeIdTooLong) :=
      removeWellKnownNode_fails horigin (Nat.not_lt_of_le (Nat.le_of_eq hlength.symm))
    exact hmanageable [] ext ⟨rfl, horigin⟩ _ hfails (by decide)
  . intro hne exts ext hmanages
    exact hmanages.avoids ⟨Nat.lt_of_le_of_ne hle hne, hpeer⟩ _

def Extrinsic.AddsManageable (s : State T) (ext : Extrinsic T) (s' : State T) : Prop :=
  (machine T).accepts s ext = true →
    ∀ nodeId owner, ext.call = .addWellKnownNode nodeId owner → s'.Manageable nodeId

def Extrinsic.BelowMaximum (_ : State T) (ext : Extrinsic T) : Prop :=
  ∀ nodeId owner, ext.call = .addWellKnownNode nodeId owner →
    nodeId.length ≠ T.maxNodeIdLength.toNat

/--
The nodes that are added in a run stay manageable if and only if none of their ids has the maximal length.
-/
theorem run_manageable_iff (s : State T) (exts : List (Extrinsic T))
    : (machine T).EveryStep Extrinsic.AddsManageable s exts ↔
        (machine T).Meets Extrinsic.BelowMaximum s exts := by
  apply Machine.everyStep_iff_meets (J := fun _ => True)
  . intro s ext hrejected haccepted
    rw [hrejected] at haccepted
    cases haccepted
  . intros
    trivial
  . intro s ext s' _ hsucc
    constructor
    . intro hadds nodeId owner hcall
      have hadd : Succeeds (addWellKnownNode ext.origin nodeId owner) s () s' := by
        simpa only [machine, Extrinsic.dispatch, hcall] using hsucc
      rw [← addWellKnownNode_manageable_iff hadd]
      exact hadds (Machine.Succeeds.accepts hsucc) nodeId owner hcall
    . intro hbelow _ nodeId owner hcall
      have hadd : Succeeds (addWellKnownNode ext.origin nodeId owner) s () s' := by
        simpa only [machine, Extrinsic.dispatch, hcall] using hsucc
      rw [addWellKnownNode_manageable_iff hadd]
      exact hbelow nodeId owner hcall
  . trivial

section Plain

def longNodeId : NodeId := "12D3KooWBmAwcd4PJNJvfV89HwE48nwkRmAgo8Vy3uQEyNNHBox2q".toUTF8.data.toList

/- A node id that is one character longer than those of the keys in use is added and can not be removed. -/
theorem longNodeId_not_manageable
    : ¬ (machine .base58).EveryStep Extrinsic.AddsManageable (.initializeNodes [])
        [⟨none, .addWellKnownNode longNodeId 1⟩] := by
  rintro ⟨hadds, _⟩
  have haccepted : (machine .base58).accepts (.initializeNodes [])
      ⟨none, .addWellKnownNode longNodeId 1⟩ = true := by
    decide +kernel
  have hadd := Machine.accepts_iff.mp haccepted
  have hmanageable := hadds haccepted longNodeId 1 rfl
  rw [addWellKnownNode_manageable_iff hadd] at hmanageable
  exact hmanageable (by decide +kernel)

end Plain

end NodeAuthorization
