import Cord.NodeAuthorization.Impl
import Mathlib.Data.Finset.Card

/-!
This module contains how the storages of the node authorization pallet are kept in step. Each call is
first reduced to what it does to them.
-/

open Frame

namespace NodeAuthorization

variable {T : Config} {s s' : State T} {origin : T.Origin} {nodeId : NodeId}

section Calls

variable {u : Unit}

@[simp]
theorem depositEvent_iff {event : Event T}
    : Succeeds (depositEvent event) s u s' ↔ s' = { s with events := s.events ++ [event] } := by
  simp [depositEvent]

@[simp]
theorem putWellKnownNodes_iff {nodes : Finset PeerId}
    : Succeeds (putWellKnownNodes nodes) s u s' ↔ s' = { s with wellKnownNodes := nodes } := by
  simp [putWellKnownNodes]

@[simp]
theorem insertOwner_iff {node : PeerId} {info : NodeInfo T}
    : Succeeds (insertOwner node info) s u s' ↔
        s' = { s with owners := s.owners.insert node info } := by
  simp [insertOwner]

@[simp]
theorem removeOwner_iff {node : PeerId}
    : Succeeds (removeOwner node) s u s' ↔ s' = { s with owners := s.owners.remove node } := by
  simp [removeOwner]

@[simp]
theorem insertConnections_iff {node : PeerId} {nodes : Finset PeerId}
    : Succeeds (insertConnections node nodes) s u s' ↔
        s' = { s with additionalConnections := s.additionalConnections.insert node nodes } := by
  simp [insertConnections]

@[simp]
theorem removeConnections_iff {node : PeerId}
    : Succeeds (removeConnections node) s u s' ↔
        s' = { s with additionalConnections := s.additionalConnections.remove node } := by
  simp [removeConnections]

@[simp]
theorem swapConnections_iff {remove add : PeerId}
    : Succeeds (swapConnections remove add) s u s' ↔
        s' = { s with additionalConnections := s.additionalConnections.swap remove add } := by
  simp [swapConnections]

@[simp]
theorem peerIdOf_iff {node : PeerId}
    : Succeeds (peerIdOf nodeId) s node s' ↔
        generatePeerId T nodeId = .ok node ∧ node.length < T.maxPeerIdLength.toNat ∧ s' = s := by
  simp only [peerIdOf, Succeeds.bind_iff, Succeeds.mapErr_iff, Succeeds.ensure_iff,
    Succeeds.pure_iff]
  constructor
  . rintro ⟨_, _, ⟨hnode, rfl⟩, _, _, ⟨hlength, rfl⟩, rfl, rfl⟩
    exact ⟨hnode, hlength, rfl⟩
  . rintro ⟨hnode, hlength, rfl⟩
    exact ⟨node, _, ⟨hnode, rfl⟩, (), _, ⟨hlength, rfl⟩, rfl, rfl⟩

@[simp]
theorem ensureOwner_iff {node : PeerId} {sender : T.AccountId} {info : NodeInfo T}
    : Succeeds (ensureOwner node sender) s info s' ↔
        s.owners.get node = some info ∧ info.owner = sender ∧ s' = s := by
  simp only [ensureOwner, Succeeds.bind_iff, Succeeds.get_iff, Succeeds.okOr_iff,
    Succeeds.ensure_iff, Succeeds.pure_iff]
  constructor
  . rintro ⟨_, _, ⟨rfl, rfl⟩, _, _, ⟨hinfo, rfl⟩, _, _, ⟨howner, rfl⟩, rfl, rfl⟩
    exact ⟨hinfo, howner, rfl⟩
  . rintro ⟨hinfo, howner, rfl⟩
    exact ⟨_, _, ⟨rfl, rfl⟩, info, _, ⟨hinfo, rfl⟩, (), _, ⟨howner, rfl⟩, rfl, rfl⟩

/--
What a successful call has done to the storages.
-/
inductive Effect (s : State T) : State T → Prop where
  | keep {s' : State T}
      (nodes : s'.wellKnownNodes = s.wellKnownNodes)
      (owners : s'.owners = s.owners)
      (connections : s'.additionalConnections = s.additionalConnections)
      : Effect s s'
  | add {s' : State T} {node : PeerId} {info : NodeInfo T}
      (fresh : node ∉ s.wellKnownNodes)
      (room : s.wellKnownNodes.card < T.maxWellKnownNodes.toNat)
      (nodes : s'.wellKnownNodes = insert node s.wellKnownNodes)
      (owners : s'.owners = s.owners.insert node info)
      (connections : s'.additionalConnections = s.additionalConnections)
      : Effect s s'
  | remove {s' : State T} {node : PeerId}
      (nodes : s'.wellKnownNodes = s.wellKnownNodes.erase node)
      (owners : s'.owners = s.owners.remove node)
      (connections : s'.additionalConnections = s.additionalConnections.remove node)
      : Effect s s'
  | swap {s' : State T} {remove add : PeerId} {info : NodeInfo T}
      (joined : remove ∈ s.wellKnownNodes)
      (fresh : add ∉ s.wellKnownNodes)
      (nodes : s'.wellKnownNodes = insert add (s.wellKnownNodes.erase remove))
      (owners : s'.owners = (s.owners.remove remove).insert add info)
      (connections : s'.additionalConnections = s.additionalConnections.swap remove add)
      : Effect s s'
  | transfer {s' : State T} {node : PeerId} {info info' : NodeInfo T}
      (owned : s.owners.get node = some info)
      (nodes : s'.wellKnownNodes = s.wellKnownNodes)
      (owners : s'.owners = s.owners.insert node info')
      (connections : s'.additionalConnections = s.additionalConnections)
      : Effect s s'
  | connect {s' : State T} {node : PeerId} {info : NodeInfo T} {conns : Finset PeerId}
      (owned : s.owners.get node = some info)
      (nodes : s'.wellKnownNodes = s.wellKnownNodes)
      (owners : s'.owners = s.owners)
      (connections : s'.additionalConnections = s.additionalConnections.insert node conns)
      : Effect s s'

theorem addWellKnownNode_effect {owner : T.LookupSource}
    (h : Succeeds (addWellKnownNode origin nodeId owner) s () s') : Effect s s' := by
  simp only [addWellKnownNode, Succeeds.bind_iff, Succeeds.ensureOrigin_iff, Succeeds.okOr_iff,
    Succeeds.get_iff, Succeeds.ensure_iff, peerIdOf_iff, putWellKnownNodes_iff, insertOwner_iff,
    depositEvent_iff, and_assoc, exists_and_left, exists_eq_left, exists_const] at h
  obtain ⟨_, _, owner', _, bytes, _, node, _, _, hfresh, _, hroom, rfl⟩ := h
  exact .add hfresh hroom rfl rfl rfl

theorem removeWellKnownNode_effect (h : Succeeds (removeWellKnownNode origin nodeId) s () s')
    : Effect s s' := by
  simp only [removeWellKnownNode, Succeeds.bind_iff, Succeeds.ensureOrigin_iff, Succeeds.get_iff,
    Succeeds.ensure_iff, peerIdOf_iff, putWellKnownNodes_iff, removeOwner_iff,
    removeConnections_iff, depositEvent_iff, and_assoc, exists_and_left, exists_eq_left,
    exists_const] at h
  obtain ⟨_, _, _, node, _, _, _, rfl⟩ := h
  exact .remove rfl rfl rfl

theorem swapNodes_effect {sender : T.AccountId} {removeId addId : NodeId}
    (h : Succeeds (swapNodes sender removeId addId) s () s') : Effect s s' := by
  simp only [swapNodes, Succeeds.bind_iff, Succeeds.okOr_iff, Succeeds.get_iff,
    Succeeds.ensure_iff, peerIdOf_iff, ensureOwner_iff, putWellKnownNodes_iff, removeOwner_iff,
    insertOwner_iff, swapConnections_iff, depositEvent_iff, and_assoc, exists_and_left,
    exists_eq_left, exists_const] at h
  obtain ⟨remove, _, _, info, _, _, add, _, _, hjoined, hfresh, bytes, _, rfl⟩ := h
  exact .swap hjoined hfresh rfl rfl rfl

theorem swapWellKnownNode_effect {removeId addId : NodeId}
    (h : Succeeds (swapWellKnownNode origin removeId addId) s () s') : Effect s s' := by
  simp only [swapWellKnownNode, Succeeds.bind_iff, Succeeds.ensureOrigin_iff, Succeeds.ensure_iff,
    Succeeds.ite_iff, Succeeds.pure_iff, and_assoc, exists_and_left, exists_eq_left,
    exists_const] at h
  obtain ⟨sender, _, _, _, ⟨_, _, rfl⟩ | ⟨_, hswap⟩⟩ := h
  . exact .keep rfl rfl rfl
  . exact swapNodes_effect hswap

theorem transferNode_effect {owner : T.LookupSource}
    (h : Succeeds (transferNode origin nodeId owner) s () s') : Effect s s' := by
  simp only [transferNode, Succeeds.bind_iff, Succeeds.ensureOrigin_iff, Succeeds.okOr_iff,
    Succeeds.ensure_iff, peerIdOf_iff, ensureOwner_iff, insertOwner_iff, depositEvent_iff, and_assoc,
    exists_and_left, exists_eq_left, exists_const] at h
  obtain ⟨_, _, owner', _, _, node, _, _, info, howned, _, bytes, _, rfl⟩ := h
  exact .transfer howned rfl rfl rfl

theorem addConnection_effect {connectionId : NodeId}
    (h : Succeeds (addConnection origin nodeId connectionId) s () s') : Effect s s' := by
  simp only [addConnection, Succeeds.bind_iff, Succeeds.ensureOrigin_iff, Succeeds.get_iff,
    Succeeds.ensure_iff, peerIdOf_iff, ensureOwner_iff, insertConnections_iff, depositEvent_iff,
    and_assoc, exists_and_left, exists_eq_left, exists_const] at h
  obtain ⟨_, _, _, node, _, _, info, howned, _, connection, _, _, _, rfl⟩ := h
  exact .connect howned rfl rfl rfl

theorem removeConnection_effect {connectionId : NodeId}
    (h : Succeeds (removeConnection origin nodeId connectionId) s () s') : Effect s s' := by
  simp only [removeConnection, Succeeds.bind_iff, Succeeds.ensureOrigin_iff, Succeeds.get_iff,
    Succeeds.ensure_iff, peerIdOf_iff, ensureOwner_iff, insertConnections_iff, depositEvent_iff,
    and_assoc, exists_and_left, exists_eq_left, exists_const] at h
  obtain ⟨_, _, _, node, _, _, info, howned, _, connection, _, _, _, rfl⟩ := h
  exact .connect howned rfl rfl rfl

theorem dispatch_effect {ext : Extrinsic T} (h : Succeeds ext.dispatch s () s') : Effect s s' := by
  obtain ⟨origin, call⟩ := ext
  cases call with
  | addWellKnownNode nodeId owner => exact addWellKnownNode_effect h
  | removeWellKnownNode nodeId => exact removeWellKnownNode_effect h
  | swapWellKnownNode removeId addId => exact swapWellKnownNode_effect h
  | transferNode nodeId owner => exact transferNode_effect h
  | addConnection nodeId connectionId => exact addConnection_effect h
  | removeConnection nodeId connectionId => exact removeConnection_effect h

end Calls

/--
Exactly the well known nodes have an owner, there are not too many of them, and only they have
connections.
-/
structure State.Bookkept (s : State T) : Prop where
  owned : ∀ node, s.owners.containsKey node = true ↔ node ∈ s.wellKnownNodes
  bounded : s.wellKnownNodes.card ≤ T.maxWellKnownNodes.toNat
  connected : ∀ node, s.connections node ≠ ∅ → node ∈ s.wellKnownNodes

theorem connections_congr (h : s'.additionalConnections = s.additionalConnections) (node : PeerId)
    : s'.connections node = s.connections node := by
  unfold State.connections
  rw [h]

theorem connections_of_get {node node' : PeerId}
    (h : s'.additionalConnections.get node' = s.additionalConnections.get node)
    : s'.connections node' = s.connections node := by
  unfold State.connections StorageMap.getD
  rw [h]

theorem State.Bookkept.not_connected (h : s.Bookkept) {node : PeerId}
    (hnode : node ∉ s.wellKnownNodes) : s.connections node = ∅ := by
  by_contra hne
  exact hnode (h.connected node hne)

theorem State.Bookkept.add {node : PeerId} {info : NodeInfo T} (h : s.Bookkept)
    (hroom : s.wellKnownNodes.card < T.maxWellKnownNodes.toNat)
    (hnodes : s'.wellKnownNodes = insert node s.wellKnownNodes)
    (howners : s'.owners = s.owners.insert node info)
    (hconns : s'.additionalConnections = s.additionalConnections) : s'.Bookkept where
  owned peer := by
    rw [howners, hnodes, StorageMap.containsKey_insert, Finset.mem_insert, h.owned]
  bounded := by
    rw [hnodes]
    exact Nat.le_trans (Finset.card_insert_le _ _) hroom
  connected peer hpeer := by
    rw [connections_congr hconns] at hpeer
    rw [hnodes]
    exact Finset.mem_insert_of_mem (h.connected peer hpeer)

theorem State.Bookkept.remove {node : PeerId} (h : s.Bookkept)
    (hnodes : s'.wellKnownNodes = s.wellKnownNodes.erase node)
    (howners : s'.owners = s.owners.remove node)
    (hconns : s'.additionalConnections = s.additionalConnections.remove node) : s'.Bookkept where
  owned peer := by
    rw [howners, hnodes, StorageMap.containsKey_remove, Finset.mem_erase, h.owned]
  bounded := by
    rw [hnodes]
    exact Nat.le_trans Finset.card_erase_le h.bounded
  connected peer hpeer := by
    unfold State.connections at hpeer
    rw [hconns, StorageMap.getD_remove] at hpeer
    rw [hnodes, Finset.mem_erase]
    split at hpeer
    . exact absurd rfl hpeer
    . next hne => exact ⟨hne, h.connected peer hpeer⟩

theorem State.Bookkept.swap {remove add : PeerId} {info : NodeInfo T} (h : s.Bookkept)
    (hjoined : remove ∈ s.wellKnownNodes) (hfresh : add ∉ s.wellKnownNodes)
    (hnodes : s'.wellKnownNodes = insert add (s.wellKnownNodes.erase remove))
    (howners : s'.owners = (s.owners.remove remove).insert add info)
    (hconns : s'.additionalConnections = s.additionalConnections.swap remove add)
    : s'.Bookkept where
  owned peer := by
    rw [howners, hnodes, StorageMap.containsKey_insert, StorageMap.containsKey_remove,
      Finset.mem_insert, Finset.mem_erase, h.owned]
  bounded := by
    have hadd : add ∉ s.wellKnownNodes.erase remove := by
      intro hmem
      exact hfresh (Finset.mem_of_mem_erase hmem)
    rw [hnodes, Finset.card_insert_of_notMem hadd, Finset.card_erase_add_one hjoined]
    exact h.bounded
  connected peer hpeer := by
    rw [hnodes, Finset.mem_insert, Finset.mem_erase]
    have hget := StorageMap.get_swap s.additionalConnections remove add peer
    rw [← hconns] at hget
    by_cases hadd : peer = add
    . exact .inl hadd
    . right
      rw [if_neg hadd] at hget
      by_cases hremove : peer = remove
      . -- The removed node has got the connections of the added one, which had none.
        rw [if_pos hremove] at hget
        rw [connections_of_get hget, h.not_connected hfresh] at hpeer
        exact absurd rfl hpeer
      . rw [if_neg hremove] at hget
        rw [connections_of_get hget] at hpeer
        exact ⟨hremove, h.connected peer hpeer⟩

theorem State.Bookkept.connect {node : PeerId} {info : NodeInfo T} {conns : Finset PeerId}
    (h : s.Bookkept) (howned : s.owners.get node = some info)
    (hnodes : s'.wellKnownNodes = s.wellKnownNodes) (howners : s'.owners = s.owners)
    (hconns : s'.additionalConnections = s.additionalConnections.insert node conns)
    : s'.Bookkept where
  owned peer := by
    rw [howners, hnodes]
    exact h.owned peer
  bounded := by
    rw [hnodes]
    exact h.bounded
  connected peer hpeer := by
    unfold State.connections at hpeer
    rw [hconns, StorageMap.getD_insert] at hpeer
    rw [hnodes]
    split at hpeer
    . next heq =>
      rw [heq, ← h.owned]
      exact StorageMap.containsKey_of_get howned
    . exact h.connected peer hpeer

theorem Effect.bookkept (he : Effect s s') (h : s.Bookkept) : s'.Bookkept := by
  cases he with
  | keep hnodes howners hconns =>
    constructor
    . rw [hnodes, howners]
      exact h.owned
    . rw [hnodes]
      exact h.bounded
    . intro node hnode
      rw [connections_congr hconns] at hnode
      rw [hnodes]
      exact h.connected node hnode
  | add _ hroom hnodes howners hconns => exact h.add hroom hnodes howners hconns
  | remove hnodes howners hconns => exact h.remove hnodes howners hconns
  | swap hjoined hfresh hnodes howners hconns =>
    exact h.swap hjoined hfresh hnodes howners hconns
  | transfer howned hnodes howners hconns =>
    constructor
    . intro node
      rw [hnodes, howners, StorageMap.containsKey_insert_of_get howned]
      exact h.owned node
    . rw [hnodes]
      exact h.bounded
    . intro node hnode
      rw [connections_congr hconns] at hnode
      rw [hnodes]
      exact h.connected node hnode
  | connect howned hnodes howners hconns => exact h.connect howned hnodes howners hconns

/--
The storages stay in step in every run from a state in which they are.
-/
theorem run_bookkept (h : s.Bookkept) (exts : List (Extrinsic T))
    : (machine T).Always State.Bookkept s exts := by
  apply Machine.always_invariant _ h
  intro s ext s' hs hsucc
  exact (dispatch_effect hsucc).bookkept hs

section Genesis

variable {nodes : List (NodeId × T.AccountId)}

theorem initializeOwner_containsKey {owners : StorageMap PeerId (NodeInfo T)}
    {node : NodeId × T.AccountId} (hlength : node.1.length ≤ T.maxNodeIdLength.toNat) (peer : PeerId)
    : (initializeOwner owners node).containsKey peer = true ↔
        generatePeerId T node.1 = .ok peer ∨ owners.containsKey peer = true := by
  unfold initializeOwner
  have hbytes : (BoundedVec.tryFrom node.1 : Option (BoundedVec UInt8 T.maxNodeIdLength.toNat)) =
      some ⟨node.1, hlength⟩ := BoundedVec.tryFrom_eq_some.mpr rfl
  rw [hbytes]
  cases hutf8 : fromUtf8 node.1 with
  | none => simp [generatePeerId, hutf8]
  | some text =>
    cases hpeer : generatePeerId T node.1 with
    | error err => simp
    | ok peerId =>
      rw [StorageMap.containsKey_insert, Except.ok.injEq]
      apply or_congr_left
      exact eq_comm

theorem foldl_initializeOwner_containsKey (owners : StorageMap PeerId (NodeInfo T))
    (hlength : ∀ node ∈ nodes, node.1.length ≤ T.maxNodeIdLength.toNat) (peer : PeerId)
    : (nodes.foldl initializeOwner owners).containsKey peer = true ↔
        (∃ node ∈ nodes, generatePeerId T node.1 = .ok peer) ∨ owners.containsKey peer = true := by
  induction nodes generalizing owners with
  | nil => simp
  | cons node nodes ih =>
    rw [List.forall_mem_cons] at hlength
    rw [List.foldl_cons, ih _ hlength.2, initializeOwner_containsKey hlength.1]
    simp only [List.mem_cons, exists_eq_or_imp]
    rw [← or_assoc, or_comm (b := generatePeerId T node.1 = .ok peer)]

theorem mem_initializeNodes (peer : PeerId)
    : peer ∈ (State.initializeNodes nodes).wellKnownNodes ↔
        ∃ node ∈ nodes, generatePeerId T node.1 = .ok peer := by
  have htoOption : ∀ result : Except Error PeerId,
      result.toOption = some peer ↔ result = .ok peer := by
    intro result
    cases result with
    | error err => simp [Except.toOption]
    | ok peer => simp [Except.toOption]
  simp only [State.initializeNodes, List.mem_toFinset, List.mem_filterMap, htoOption]

theorem initializeNodes_bookkept (hlength : ∀ node ∈ nodes, node.1.length ≤ T.maxNodeIdLength.toNat)
    (hcount : nodes.length ≤ T.maxWellKnownNodes.toNat) : (State.initializeNodes nodes).Bookkept where
  owned peer := by
    have howners := foldl_initializeOwner_containsKey ∅ hlength peer
    have hempty : (∅ : StorageMap PeerId (NodeInfo T)).containsKey peer = false := by
      rw [StorageMap.containsKey_eq_false_iff, StorageMap.get_empty]
    rw [hempty, Bool.false_eq_true, or_false] at howners
    rw [mem_initializeNodes]
    exact howners
  bounded :=
    calc
      (State.initializeNodes nodes).wellKnownNodes.card
      _ ≤ (nodes.filterMap fun node => (generatePeerId T node.1).toOption).length :=
        List.toFinset_card_le _
      _ ≤ nodes.length := List.length_filterMap_le _ _
      _ ≤ T.maxWellKnownNodes.toNat := hcount
  connected peer hpeer := absurd rfl hpeer

end Genesis

section Plain

def plainNodes : List (NodeId × Nat) := [([65], 1), ([66], 2)]

def plainSwap : List (Extrinsic .base58) := [
    -- A node is connected to another one and then swapped. The letter C is the encoding of 11.
    ⟨some 1, .addConnection [65] [66]⟩,
    ⟨some 1, .swapWellKnownNode [65] [67]⟩,
    ⟨none, .removeWellKnownNode [66]⟩
  ]

theorem plainSwap_bookkept
    : ((machine .base58).run (.initializeNodes plainNodes) plainSwap).wellKnownNodes = {[11]} ∧
        (machine .base58).Always State.Bookkept (.initializeNodes plainNodes) plainSwap := by
  refine ⟨by decide +kernel, run_bookkept ?_ _⟩
  exact initializeNodes_bookkept (by decide) (by decide)

end Plain

end NodeAuthorization
