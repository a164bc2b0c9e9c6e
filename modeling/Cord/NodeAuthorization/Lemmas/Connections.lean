import Cord.NodeAuthorization.Lemmas.Bookkeeping

/-!
This module contains the nodes that a node is told to connect to. It is told to connect to itself if it was
once connected to itself, or to the node whose place it has taken.
-/

open Frame

namespace NodeAuthorization

variable {T : Config} {s s' : State T} {origin : T.Origin} {nodeId : NodeId}

theorem mem_getAuthorizedNodes {node peer : PeerId}
    : peer ∈ s.getAuthorizedNodes node ↔
        peer ∈ s.connections node ∨
          node ∈ s.wellKnownNodes ∧ peer ≠ node ∧ peer ∈ s.wellKnownNodes := by
  unfold State.getAuthorizedNodes
  rw [← Multiset.mem_coe, sortByBytes_eq, Finset.mem_val]
  split
  . next hnode => simp [hnode]
  . next hnode => simp [hnode]

def State.SelfFree (s : State T) : Prop := ∀ node, node ∉ s.getAuthorizedNodes node

theorem selfFree_iff : s.SelfFree ↔ ∀ node, node ∉ s.connections node := by
  unfold State.SelfFree
  apply forall_congr'
  intro node
  rw [mem_getAuthorizedNodes]
  simp

/--
Only well known nodes have owners and connections. Unlike the rest of the bookkeeping this does not depend
on the nodes the chain is started with.
-/
structure State.Known (s : State T) : Prop where
  owned : ∀ node, s.owners.containsKey node = true → node ∈ s.wellKnownNodes
  connected : ∀ node, s.connections node ≠ ∅ → node ∈ s.wellKnownNodes

theorem connections_insert {node : PeerId} {conns : Finset PeerId}
    (h : s'.additionalConnections = s.additionalConnections.insert node conns) (peer : PeerId)
    : s'.connections peer = if peer = node then conns else s.connections peer := by
  unfold State.connections
  rw [h, StorageMap.getD_insert]

theorem connections_remove {node : PeerId}
    (h : s'.additionalConnections = s.additionalConnections.remove node) (peer : PeerId)
    : s'.connections peer = if peer = node then ∅ else s.connections peer := by
  unfold State.connections
  rw [h, StorageMap.getD_remove]

theorem connections_swap {remove add : PeerId}
    (h : s'.additionalConnections = s.additionalConnections.swap remove add) (peer : PeerId)
    : s'.connections peer =
        if peer = add then s.connections remove
        else if peer = remove then s.connections add
        else s.connections peer := by
  unfold State.connections StorageMap.getD
  rw [h, StorageMap.get_swap]
  split
  . rfl
  . split
    . rfl
    . rfl

namespace State.Known

theorem connections_eq_empty (h : s.Known) {node : PeerId} (hnode : node ∉ s.wellKnownNodes)
    : s.connections node = ∅ := by
  by_contra hne
  exact hnode (h.connected node hne)

theorem remove {node : PeerId} (h : s.Known)
    (hnodes : s'.wellKnownNodes = s.wellKnownNodes.erase node)
    (howners : s'.owners = s.owners.remove node)
    (hconns : s'.additionalConnections = s.additionalConnections.remove node) : s'.Known where
  owned peer hpeer := by
    rw [howners, StorageMap.containsKey_remove] at hpeer
    rw [hnodes, Finset.mem_erase]
    exact ⟨hpeer.1, h.owned peer hpeer.2⟩
  connected peer hpeer := by
    rw [connections_remove hconns] at hpeer
    rw [hnodes, Finset.mem_erase]
    split at hpeer
    . exact absurd rfl hpeer
    . next hne => exact ⟨hne, h.connected peer hpeer⟩

theorem swap {remove add : PeerId} {info : NodeInfo T} (h : s.Known)
    (hfresh : add ∉ s.wellKnownNodes)
    (hnodes : s'.wellKnownNodes = insert add (s.wellKnownNodes.erase remove))
    (howners : s'.owners = (s.owners.remove remove).insert add info)
    (hconns : s'.additionalConnections = s.additionalConnections.swap remove add) : s'.Known where
  owned peer hpeer := by
    rw [howners, StorageMap.containsKey_insert, StorageMap.containsKey_remove] at hpeer
    rw [hnodes, Finset.mem_insert, Finset.mem_erase]
    exact hpeer.imp_right fun hpeer => ⟨hpeer.1, h.owned peer hpeer.2⟩
  connected peer hpeer := by
    rw [connections_swap hconns] at hpeer
    rw [hnodes, Finset.mem_insert, Finset.mem_erase]
    split at hpeer
    . next hadd => exact .inl hadd
    . split at hpeer
      . rw [h.connections_eq_empty hfresh] at hpeer
        exact absurd rfl hpeer
      . next hremove => exact .inr ⟨hremove, h.connected peer hpeer⟩

end State.Known

theorem Effect.known (he : Effect s s') (h : s.Known) : s'.Known := by
  cases he with
  | keep hnodes howners hconns =>
    constructor
    . rw [hnodes, howners]
      exact h.owned
    . intro node hnode
      rw [connections_congr hconns] at hnode
      rw [hnodes]
      exact h.connected node hnode
  | add _ _ hnodes howners hconns =>
    constructor
    . intro peer hpeer
      rw [howners, StorageMap.containsKey_insert] at hpeer
      rw [hnodes, Finset.mem_insert]
      exact hpeer.imp_right (h.owned peer)
    . intro peer hpeer
      rw [connections_congr hconns] at hpeer
      rw [hnodes]
      exact Finset.mem_insert_of_mem (h.connected peer hpeer)
  | remove hnodes howners hconns => exact h.remove hnodes howners hconns
  | swap _ hfresh hnodes howners hconns => exact h.swap hfresh hnodes howners hconns
  | transfer howned hnodes howners hconns =>
    constructor
    . intro peer hpeer
      rw [howners, StorageMap.containsKey_insert_of_get howned] at hpeer
      rw [hnodes]
      exact h.owned peer hpeer
    . intro peer hpeer
      rw [connections_congr hconns] at hpeer
      rw [hnodes]
      exact h.connected peer hpeer
  | connect howned hnodes howners hconns =>
    constructor
    . rw [hnodes, howners]
      exact h.owned
    . intro peer hpeer
      rw [connections_insert hconns] at hpeer
      rw [hnodes]
      split at hpeer
      . next heq =>
        rw [heq]
        exact h.owned _ (StorageMap.containsKey_of_get howned)
      . exact h.connected peer hpeer

section Genesis

variable {nodes : List (NodeId × T.AccountId)}

theorem foldl_initializeOwner_generated {owners : StorageMap PeerId (NodeInfo T)} {peer : PeerId}
    (h : (nodes.foldl initializeOwner owners).containsKey peer = true)
    : (∃ node ∈ nodes, generatePeerId T node.1 = .ok peer) ∨ owners.containsKey peer = true := by
  induction nodes generalizing owners with
  | nil => exact .inr h
  | cons node nodes ih =>
    rw [List.foldl_cons] at h
    rcases ih h with ⟨other, hmem, hother⟩ | howner
    . exact .inl ⟨other, List.mem_cons_of_mem _ hmem, hother⟩
    . unfold initializeOwner at howner
      split at howner
      . next hpeer =>
        rw [StorageMap.containsKey_insert] at howner
        rcases howner with rfl | howner
        . exact .inl ⟨node, List.mem_cons_self .., hpeer⟩
        . exact .inr howner
      . exact .inr howner

theorem initializeNodes_known : (State.initializeNodes nodes).Known where
  owned peer hpeer := by
    rw [mem_initializeNodes]
    rcases foldl_initializeOwner_generated hpeer with h | hempty
    . exact h
    . cases hempty
  connected peer hpeer := absurd rfl hpeer

theorem initializeNodes_selfFree : (State.initializeNodes nodes).SelfFree := by
  rw [selfFree_iff]
  intro node
  exact Finset.notMem_empty node

end Genesis

/--
No node is connected to itself, and none takes the place of a node that is connected to it.
-/
def Extrinsic.ConnectsOthers (s : State T) (ext : Extrinsic T) : Prop :=
  match ext.call with
  | .addConnection nodeId connectionId => generatePeerId T connectionId ≠ generatePeerId T nodeId
  | .swapWellKnownNode removeId addId =>
    removeId ≠ addId → ∀ remove, generatePeerId T removeId = .ok remove →
      ∀ add, generatePeerId T addId = .ok add → add ∉ s.connections remove
  | _ => True

section Step

theorem addConnection_selfFree {connectionId : NodeId} (h : s.SelfFree)
    (hsucc : Succeeds (addConnection origin nodeId connectionId) s () s')
    : s'.SelfFree ↔ generatePeerId T connectionId ≠ generatePeerId T nodeId := by
  simp only [addConnection, Succeeds.bind_iff, Succeeds.ensureOrigin_iff, Succeeds.get_iff,
    Succeeds.ensure_iff, peerIdOf_iff, ensureOwner_iff, insertConnections_iff, depositEvent_iff,
    and_assoc, exists_and_left, exists_eq_left, exists_const] at hsucc
  obtain ⟨_, _, _, node, hnode, _, info, _, _, connection, hconnection, _, _, rfl⟩ := hsucc
  rw [selfFree_iff] at h ⊢
  rw [hnode, hconnection, ne_eq, Except.ok.injEq]
  constructor
  . intro hfree heq
    apply hfree node
    rw [connections_insert rfl, if_pos rfl, heq]
    exact Finset.mem_insert_self node _
  . intro hne peer hmem
    rw [connections_insert rfl] at hmem
    split at hmem
    . next heq =>
      rw [heq, Finset.mem_insert] at hmem
      rcases hmem with heq | hmem
      . exact hne heq.symm
      . exact h node hmem
    . exact h peer hmem

theorem removeConnection_selfFree {connectionId : NodeId} (h : s.SelfFree)
    (hsucc : Succeeds (removeConnection origin nodeId connectionId) s () s') : s'.SelfFree := by
  simp only [removeConnection, Succeeds.bind_iff, Succeeds.ensureOrigin_iff, Succeeds.get_iff,
    Succeeds.ensure_iff, peerIdOf_iff, ensureOwner_iff, insertConnections_iff, depositEvent_iff,
    and_assoc, exists_and_left, exists_eq_left, exists_const] at hsucc
  obtain ⟨_, _, _, node, _, _, info, _, _, connection, _, _, _, rfl⟩ := hsucc
  rw [selfFree_iff] at h ⊢
  intro peer hmem
  rw [connections_insert rfl] at hmem
  split at hmem
  . next heq =>
    rw [heq] at hmem
    exact h node (Finset.mem_of_mem_erase hmem)
  . exact h peer hmem

theorem removeWellKnownNode_selfFree (h : s.SelfFree)
    (hsucc : Succeeds (removeWellKnownNode origin nodeId) s () s') : s'.SelfFree := by
  simp only [removeWellKnownNode, Succeeds.bind_iff, Succeeds.ensureOrigin_iff, Succeeds.get_iff,
    Succeeds.ensure_iff, peerIdOf_iff, putWellKnownNodes_iff, removeOwner_iff,
    removeConnections_iff, depositEvent_iff, and_assoc, exists_and_left, exists_eq_left,
    exists_const] at hsucc
  obtain ⟨_, _, _, node, _, _, _, rfl⟩ := hsucc
  rw [selfFree_iff] at h ⊢
  intro peer hmem
  rw [connections_remove rfl] at hmem
  split at hmem
  . exact Finset.notMem_empty peer hmem
  . exact h peer hmem

theorem selfFree_of_unchanged (h : s.SelfFree)
    (hconns : s'.additionalConnections = s.additionalConnections) : s'.SelfFree := by
  rw [selfFree_iff] at h ⊢
  intro node
  rw [connections_congr hconns]
  exact h node

theorem addWellKnownNode_selfFree {owner : T.LookupSource} (h : s.SelfFree)
    (hsucc : Succeeds (addWellKnownNode origin nodeId owner) s () s') : s'.SelfFree := by
  simp only [addWellKnownNode, Succeeds.bind_iff, Succeeds.ensureOrigin_iff, Succeeds.okOr_iff,
    Succeeds.get_iff, Succeeds.ensure_iff, peerIdOf_iff, putWellKnownNodes_iff, insertOwner_iff,
    depositEvent_iff, and_assoc, exists_and_left, exists_eq_left, exists_const] at hsucc
  obtain ⟨_, _, owner', _, bytes, _, node, _, _, _, _, _, rfl⟩ := hsucc
  exact selfFree_of_unchanged h rfl

theorem transferNode_selfFree {owner : T.LookupSource} (h : s.SelfFree)
    (hsucc : Succeeds (transferNode origin nodeId owner) s () s') : s'.SelfFree := by
  simp only [transferNode, Succeeds.bind_iff, Succeeds.ensureOrigin_iff, Succeeds.okOr_iff,
    Succeeds.ensure_iff, peerIdOf_iff, ensureOwner_iff, insertOwner_iff, depositEvent_iff, and_assoc,
    exists_and_left, exists_eq_left, exists_const] at hsucc
  obtain ⟨_, _, owner', _, _, node, _, _, info, _, _, bytes, _, rfl⟩ := hsucc
  exact selfFree_of_unchanged h rfl

theorem swapNodes_selfFree {sender : T.AccountId} {removeId addId : NodeId} (hknown : s.Known)
    (h : s.SelfFree) (hsucc : Succeeds (swapNodes sender removeId addId) s () s')
    : s'.SelfFree ↔ ∀ remove, generatePeerId T removeId = .ok remove →
        ∀ add, generatePeerId T addId = .ok add → add ∉ s.connections remove := by
  simp only [swapNodes, Succeeds.bind_iff, Succeeds.okOr_iff, Succeeds.get_iff,
    Succeeds.ensure_iff, peerIdOf_iff, ensureOwner_iff, putWellKnownNodes_iff, removeOwner_iff,
    insertOwner_iff, swapConnections_iff, depositEvent_iff, and_assoc, exists_and_left,
    exists_eq_left, exists_const] at hsucc
  obtain ⟨remove, hremove, _, info, _, _, add, hadd, _, _, hfresh, bytes, _, rfl⟩ := hsucc
  rw [selfFree_iff] at h ⊢
  simp only [hremove, hadd, Except.ok.injEq, forall_eq']
  constructor
  . intro hfree hmem
    apply hfree add
    rw [connections_swap rfl, if_pos rfl]
    exact hmem
  . intro hnot peer hmem
    rw [connections_swap rfl] at hmem
    split at hmem
    . next heq =>
      rw [heq] at hmem
      exact hnot hmem
    . split at hmem
      . -- The added node was not well known, so it had no connections.
        rw [hknown.connections_eq_empty hfresh] at hmem
        exact Finset.notMem_empty peer hmem
      . exact h peer hmem

theorem swapWellKnownNode_selfFree {removeId addId : NodeId} (hknown : s.Known) (h : s.SelfFree)
    (hsucc : Succeeds (swapWellKnownNode origin removeId addId) s () s')
    : s'.SelfFree ↔ (removeId ≠ addId → ∀ remove, generatePeerId T removeId = .ok remove →
        ∀ add, generatePeerId T addId = .ok add → add ∉ s.connections remove) := by
  simp only [swapWellKnownNode, Succeeds.bind_iff, Succeeds.ensureOrigin_iff, Succeeds.ensure_iff,
    Succeeds.ite_iff, Succeeds.pure_iff, and_assoc, exists_and_left, exists_eq_left,
    exists_const] at hsucc
  obtain ⟨sender, _, _, _, ⟨heq, _, rfl⟩ | ⟨hne, hswap⟩⟩ := hsucc
  . simp [heq, h]
  . rw [swapNodes_selfFree hknown h hswap]
    exact ⟨fun hfree _ => hfree, fun hfree => hfree hne⟩

theorem dispatch_selfFree {ext : Extrinsic T} (hknown : s.Known) (h : s.SelfFree)
    (hsucc : Succeeds ext.dispatch s () s') : s'.SelfFree ↔ ext.ConnectsOthers s := by
  obtain ⟨origin, call⟩ := ext
  cases call with
  | addWellKnownNode nodeId owner => exact iff_of_true (addWellKnownNode_selfFree h hsucc) trivial
  | removeWellKnownNode nodeId => exact iff_of_true (removeWellKnownNode_selfFree h hsucc) trivial
  | swapWellKnownNode removeId addId => exact swapWellKnownNode_selfFree hknown h hsucc
  | transferNode nodeId owner => exact iff_of_true (transferNode_selfFree h hsucc) trivial
  | addConnection nodeId connectionId => exact addConnection_selfFree h hsucc
  | removeConnection nodeId connectionId => exact iff_of_true (removeConnection_selfFree h hsucc) trivial

end Step

/--
No node is ever told to connect to itself if and only if every call of the run connects others.
-/
theorem run_selfFree_iff (nodes : List (NodeId × T.AccountId)) (exts : List (Extrinsic T))
    : (machine T).Always State.SelfFree (.initializeNodes nodes) exts ↔
        (machine T).Meets Extrinsic.ConnectsOthers (.initializeNodes nodes) exts := by
  apply Machine.always_iff_meets (J := State.Known)
  . intro s ext s' hknown hsucc
    exact (dispatch_effect hsucc).known hknown
  . intro s ext s' hknown h hsucc
    exact dispatch_selfFree hknown h hsucc
  . exact initializeNodes_known
  . exact initializeNodes_selfFree

theorem selfConnection_not_selfFree
    : ¬ (machine .base58).Always State.SelfFree (.initializeNodes plainNodes)
        [⟨some 1, .addConnection [65] [65]⟩] := by
  rintro ⟨_, h⟩
  exact absurd (h [9]) (by decide +kernel)

/- A node takes the place of another one that was connected to it. -/
example
    : let exts : List (Extrinsic .base58) :=
        [⟨some 1, .addConnection [65] [67]⟩, ⟨some 1, .swapWellKnownNode [65] [67]⟩]
      [11] ∈ ((machine .base58).run (.initializeNodes plainNodes) exts).getAuthorizedNodes [11] := by
  decide +kernel

end NodeAuthorization
