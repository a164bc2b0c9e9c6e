import Cord.Statement.Lemmas.Digests

/-!
This module contains the refinement of single registrations by the batch: for a space without a limit
a batch does what registering its digests one after the other does. The loop of the batch and the run
of the single calls are compared step by step, both see the same statements.
-/

open Frame Identifier ChainSpace

namespace Statement

variable {T : Config} {s s' : State T} {origin : T.Origin} {authorization spaceId : T.Ss58Identifier}
  {creator : T.SpaceCreatorId} {schemaId : Option T.Ss58Identifier} {digest : T.Hash}

def State.Unlimited (s : State T) (origin : T.Origin) (authorization : T.Ss58Identifier)
    (creator : T.SpaceCreatorId) (spaceId : T.Ss58Identifier) : Prop :=
  ∃ d, s.Charges origin authorization creator spaceId d ∧ d.txnCapacity = 0

structure State.Agrees (s s' : State T) : Prop where
  statements : s.statements = s'.statements
  entries : s.entries = s'.entries
  identifierLookup : s.identifierLookup = s'.identifierLookup

theorem State.Agrees.trans {s'' : State T} (h : s.Agrees s') (h' : s'.Agrees s'')
    : s.Agrees s'' where
  statements := h.statements.trans h'.statements
  entries := h.entries.trans h'.entries
  identifierLookup := h.identifierLookup.trans h'.identifierLookup

theorem State.Charges.unique {creator' : T.SpaceCreatorId} {spaceId' : T.Ss58Identifier}
    {d d' : SpaceDetails T.toChainSpace} (h : s.Charges origin authorization creator spaceId d)
    (h' : s.Charges origin authorization creator' spaceId' d')
    : creator' = creator ∧ spaceId' = spaceId ∧ d' = d := by
  have horigin := h'.origin
  rw [h.origin] at horigin
  injection horigin with horigin
  obtain ⟨a, ha, _, hspace, _⟩ := h.authorizes
  obtain ⟨a', ha', _, hspace', _⟩ := h'.authorizes
  rw [ha] at ha'
  injection ha' with ha'
  rw [← ha', hspace] at hspace'
  have hd := h'.space
  rw [← hspace', h.space] at hd
  injection hd with hd
  exact ⟨horigin.symm, hspace'.symm, hd.symm⟩

theorem State.Charges.atTime {d : SpaceDetails T.toChainSpace}
    (h : s.Charges origin authorization creator spaceId d) (timepoint : Timepoint)
    : (s.atTime timepoint).Charges origin authorization creator spaceId d where
  origin := h.origin
  authorizes := h.authorizes
  space := h.space
  canTransact := h.canTransact

theorem register_of_charges {identifier : T.Ss58Identifier} {d : SpaceDetails T.toChainSpace}
    (h : s.Charges origin authorization creator spaceId d)
    (hid : statementIdentifier T digest spaceId creator = some identifier)
    (hfresh : s.statements.get identifier = none)
    : ∃ s', Succeeds (register origin digest authorization schemaId) s () s' ∧
        s'.chainSpace.authorizations = s.chainSpace.authorizations ∧
        s'.chainSpace.spaces = s.chainSpace.spaces.insert spaceId d.charge ∧
        s'.statements = s.statements.insert identifier ⟨digest, spaceId, schemaId⟩ ∧
        s'.entries = s.entries.insert (identifier, digest) creator ∧
        s'.identifierLookup = s.identifierLookup.insert (digest, spaceId) identifier := by
  simp only [register, anchorStatement, Succeeds.bind_iff, ensureAuthorized_iff, Succeeds.okOr_iff,
    Succeeds.get_iff, Succeeds.ensure_iff, Succeeds.modify_iff, updateActivity_iff,
    depositEvent_iff, Bool.not_eq_true', StorageMap.containsKey_eq_false_iff, and_assoc,
    exists_and_left, exists_eq_left, exists_const]
  exact ⟨_, ⟨(creator, spaceId), _, ⟨d, h, rfl⟩, identifier, hid, hfresh, rfl⟩, rfl, rfl, rfl, rfl,
    rfl⟩

theorem register_of_taken {d : SpaceDetails T.toChainSpace}
    (h : s.Charges origin authorization creator spaceId d)
    (htaken : ∀ identifier, statementIdentifier T digest spaceId creator = some identifier →
      s.statements.containsKey identifier = true) (s' : State T)
    : ¬ Succeeds (register origin digest authorization schemaId) s () s' := by
  intro hs
  obtain ⟨_, _, _, identifier, hcharges, hid, hfresh, _⟩ := register_spec hs
  obtain ⟨rfl, rfl, _⟩ := h.unique hcharges
  have hcontains := htaken identifier hid
  rw [StorageMap.containsKey, hfresh] at hcontains
  cases hcontains

/-
The calls of the sequence, each at a time of its own.
-/
def registerExt (origin : T.Origin) (authorization : T.Ss58Identifier)
    (schemaId : Option T.Ss58Identifier) (call : Timepoint × T.Hash) : Extrinsic T :=
  .statement origin call.1 (.register call.2 authorization schemaId)

section Sequence

variable {call : Timepoint × T.Hash}

theorem registerExt_taken (schemaId : Option T.Ss58Identifier)
    (h : s.Unlimited origin authorization creator spaceId)
    (htaken : ∀ identifier, statementIdentifier T call.2 spaceId creator = some identifier →
      s.statements.containsKey identifier = true)
    : (machine T).accepts s (registerExt origin authorization schemaId call) = false ∧
        (machine T).next s (registerExt origin authorization schemaId call) = s := by
  obtain ⟨d, hcharges, _⟩ := h
  have hfails : ∀ s', ¬ Succeeds
      ((machine T).dispatch (registerExt origin authorization schemaId call)) s () s' := by
    intro s' hs
    exact register_of_taken (hcharges.atTime call.1) htaken s' (machine_statement.mp hs)
  exact ⟨Machine.accepts_eq_false_iff.mpr hfails, Machine.next_of_fails hfails⟩

theorem registerExt_fresh (schemaId : Option T.Ss58Identifier) {identifier : T.Ss58Identifier}
    (h : s.Unlimited origin authorization creator spaceId)
    (hid : statementIdentifier T call.2 spaceId creator = some identifier)
    (hfresh : s.statements.get identifier = none)
    : ∃ t, Succeeds ((machine T).dispatch (registerExt origin authorization schemaId call)) s () t ∧
        t.Unlimited origin authorization creator spaceId ∧
        t.statements = s.statements.insert identifier ⟨call.2, spaceId, schemaId⟩ ∧
        t.entries = s.entries.insert (identifier, call.2) creator ∧
        t.identifierLookup = s.identifierLookup.insert (call.2, spaceId) identifier := by
  obtain ⟨d, hcharges, hcapacity⟩ := h
  obtain ⟨t, hs, hauth, hspaces, hwrites⟩ :=
    register_of_charges (hcharges.atTime call.1) hid hfresh
  refine ⟨t, machine_statement.mpr hs, ⟨d.charge, ⟨hcharges.origin, ?_, ?_, ?_⟩, hcapacity⟩, hwrites⟩
  . obtain ⟨a, ha, hdelegate⟩ := hcharges.authorizes
    exact ⟨a, by rw [hauth]; exact ha, hdelegate⟩
  . rw [hspaces, StorageMap.get_insert_self]
  . exact ⟨hcharges.canTransact.1, hcharges.canTransact.2.1, .inl hcapacity⟩

variable (origin authorization schemaId) in
/-
The loop has done what the run of the single calls does from `s`.
-/
structure LoopMeets (calls : List (Timepoint × T.Hash)) (index : Nat) (result : BatchResult)
    (s : State T) (result' : BatchResult) (s' : State T) : Prop where
  agrees : s'.Agrees
    ((machine T).run s (calls.map (registerExt origin authorization schemaId)))
  success : result'.success.toNat +
      ((machine T).rejected s (calls.map (registerExt origin authorization schemaId))).length =
    result.success.toNat + calls.length
  fail : result'.fail.toNat = result.fail.toNat +
    ((machine T).rejected s (calls.map (registerExt origin authorization schemaId))).length
  indices : result'.indices = result.indices ++
    ((machine T).rejected s (calls.map (registerExt origin authorization schemaId))).map
      fun i => (index + i).toUInt16

variable {calls : List (Timepoint × T.Hash)} {index : Nat} {result result' : BatchResult}

theorem LoopMeets.cons_rejected (hbound : result.fail.toNat + calls.length + 1 < 2 ^ 32)
    (haccepts : (machine T).accepts s (registerExt origin authorization schemaId call) = false)
    (hnext : (machine T).next s (registerExt origin authorization schemaId call) = s)
    (h : LoopMeets origin authorization schemaId calls (index + 1) (result.failAt index) s result' s')
    : LoopMeets origin authorization schemaId (call :: calls) index result s result' s' := by
  have hfail : (result.failAt index).fail.toNat = result.fail.toNat + 1 := by
    apply toNat_succ_of_lt
    omega
  have hrejected : (machine T).rejected s ((call :: calls).map
      (registerExt origin authorization schemaId)) =
        0 :: ((machine T).rejected s (calls.map
          (registerExt origin authorization schemaId))).map Nat.succ := by
    rw [List.map_cons, Machine.rejected_cons, haccepts, hnext]
    rfl
  have hsuccess := h.success
  have hcount := h.fail
  constructor
  . rw [List.map_cons, Machine.run_cons, hnext]
    exact h.agrees
  . rw [hrejected]
    simp only [List.length_cons, List.length_map, BatchResult.failAt] at hsuccess ⊢
    omega
  . rw [hrejected, hcount, hfail, List.length_cons, List.length_map]
    omega
  . rw [hrejected, h.indices]
    simp [BatchResult.failAt, Nat.add_assoc, Nat.add_comm 1]

theorem LoopMeets.cons_accepted {t : State T}
    (hbound : result.success.toNat + calls.length + 1 < 2 ^ 32)
    (hs : Succeeds ((machine T).dispatch (registerExt origin authorization schemaId call)) s () t)
    (h : LoopMeets origin authorization schemaId calls (index + 1)
      { result with success := result.success + 1 } t result' s')
    : LoopMeets origin authorization schemaId (call :: calls) index result s result' s' := by
  have hnext := Machine.next_of_succeeds hs
  have hsucc : (result.success + 1).toNat = result.success.toNat + 1 := by
    apply toNat_succ_of_lt
    omega
  have hrejected : (machine T).rejected s ((call :: calls).map
      (registerExt origin authorization schemaId)) =
        ((machine T).rejected t (calls.map
          (registerExt origin authorization schemaId))).map Nat.succ := by
    rw [List.map_cons, Machine.rejected_cons, Machine.Succeeds.accepts hs, hnext]
    rfl
  have hsuccess := h.success
  constructor
  . rw [List.map_cons, Machine.run_cons, hnext]
    exact h.agrees
  . rw [hrejected, List.length_map, List.length_cons]
    dsimp only at hsuccess
    omega
  . rw [hrejected, h.fail, List.length_map]
  . rw [hrejected, h.indices]
    simp [Nat.add_assoc, Nat.add_comm 1]

theorem registerDigests_run (schemaId : Option T.Ss58Identifier)
    (calls : List (Timepoint × T.Hash)) (index : Nat) (result : BatchResult) {t : State T}
    (hs : s.Unlimited origin authorization creator spaceId) (hagrees : t.Agrees s)
    (hsuccess : result.success.toNat + calls.length < 2 ^ 32)
    (hfail : result.fail.toNat + calls.length < 2 ^ 32)
    : ∃ result' t', Succeeds (registerDigests spaceId creator schemaId (calls.map Prod.snd) index
        result) t result' t' ∧
        LoopMeets origin authorization schemaId calls index result s result' t' := by
  induction calls generalizing s t index result with
  | nil =>
    refine ⟨result, t, Succeeds.pure_iff.mpr ⟨rfl, rfl⟩, hagrees, ?_, ?_, ?_⟩
    . rfl
    . rfl
    . simp
  | cons call calls ih =>
    rw [List.length_cons] at hsuccess hfail
    -- A digest whose identifier is in use, or which has none, is rejected by both.
    have hrejected : (∀ identifier, statementIdentifier T call.2 spaceId creator = some identifier →
        s.statements.containsKey identifier = true) →
          ∃ result' t', Succeeds (registerDigests spaceId creator schemaId (calls.map Prod.snd)
            (index + 1) (result.failAt index)) t result' t' ∧
            LoopMeets origin authorization schemaId (call :: calls) index result s result' t' := by
      intro htaken
      obtain ⟨haccepts, hnext⟩ := registerExt_taken schemaId hs htaken
      have hcount : (result.failAt index).fail.toNat = result.fail.toNat + 1 := by
        apply toNat_succ_of_lt
        omega
      have hsame : (result.failAt index).success.toNat = result.success.toNat := rfl
      obtain ⟨result', t', hloop, hmeets⟩ :=
        ih (index + 1) (result.failAt index) hs hagrees (by omega) (by omega)
      exact ⟨result', t', hloop, hmeets.cons_rejected (by omega) haccepts hnext⟩
    unfold registerDigests
    cases hid : statementIdentifier T call.2 spaceId creator with
    | none =>
      simp only [List.map_cons, hid]
      apply hrejected
      intro identifier hsome
      rw [hid] at hsome
      cases hsome
    | some identifier =>
      simp only [List.map_cons, hid, Succeeds.bind_iff, Succeeds.get_iff, Succeeds.ite_iff,
        and_assoc, exists_and_left, exists_eq_left, Bool.not_eq_true]
      cases hcontains : t.statements.containsKey identifier with
      | true =>
        obtain ⟨result', t', hloop, hmeets⟩ := hrejected <| by
          intro identifier' hsome
          rw [hid] at hsome
          injection hsome with hsome
          rw [← hsome, ← hagrees.statements]
          exact hcontains
        exact ⟨result', t', .inl ⟨rfl, hloop⟩, hmeets⟩
      | false =>
        have hfresh : s.statements.get identifier = none := by
          rw [← StorageMap.containsKey_eq_false_iff, ← hagrees.statements]
          exact hcontains
        obtain ⟨s1, hs1, hunlimited, hstatements, hentries, hlookup⟩ :=
          registerExt_fresh schemaId hs hid hfresh
        obtain ⟨t1, ht1⟩ := anchorStatement_succeeds t identifier call.2 spaceId creator schemaId
        obtain ⟨hstatements', hentries', hlookup', _⟩ := anchorStatement_spec ht1
        have hagrees1 : t1.Agrees s1 := by
          refine ⟨?_, ?_, ?_⟩
          . rw [hstatements', hstatements, hagrees.statements]
          . rw [hentries', hentries, hagrees.entries]
          . rw [hlookup', hlookup, hagrees.identifierLookup]
        have hcount : (result.success + 1).toNat = result.success.toNat + 1 := by
          apply toNat_succ_of_lt
          omega
        obtain ⟨result', t', hloop, hmeets⟩ :=
          ih (index + 1) { result with success := result.success + 1 } hunlimited hagrees1
            (by dsimp only; omega) (by dsimp only; omega)
        exact ⟨result', t', .inr ⟨rfl, (), t1, ht1, hloop⟩, hmeets.cons_accepted (by omega) hs1⟩

end Sequence

theorem registerDigests_events {digests : List T.Hash} {index : Nat} {result result' : BatchResult}
    (h : Succeeds (registerDigests spaceId creator schemaId digests index result) s result' s')
    : s'.events = s.events := by
  apply registerDigests_invariant (I := fun t => t.events = s.events) _ h rfl
  intro t t' identifier digest ht _ _ hanchor
  simp only [anchorStatement, Succeeds.bind_iff, Succeeds.modify_iff, updateActivity_iff,
    exists_eq_left, exists_const] at hanchor
  rw [hanchor]
  exact ht

theorem registerBatch_of_loop {digests : List T.Hash} {d : SpaceDetails T.toChainSpace}
    {result : BatchResult} {t : State T} (h : s.Charges origin authorization creator spaceId d)
    (hmax : digests.length ≤ T.maxDigestsPerBatch.toNat)
    (hloop : Succeeds (registerDigests spaceId creator schemaId digests 0 ⟨0, 0, []⟩)
      (s.setSpace spaceId d.charge) result t) (hsuccess : result.success > 0)
    : ∃ s', Succeeds (registerBatch origin digests authorization schemaId) s () s' ∧
        s'.Agrees t ∧
        s'.events =
          t.events ++ [.registerBatch result.success result.fail result.indices creator] := by
  simp only [registerBatch, incrementUsageEntries, Succeeds.bind_iff, ensureAuthorized_iff,
    Succeeds.ensure_iff, Succeeds.ite_iff, mutateUsage_iff, depositEvent_iff, and_assoc,
    exists_and_left, exists_eq_left, exists_const]
  have hspace : t.chainSpace.spaces.get spaceId = some d.charge := by
    rw [registerDigests_spaces hloop]
    apply StorageMap.get_insert_self
  by_cases hone : digests.length > 1
  . refine ⟨_, ⟨(creator, spaceId), _, ⟨d, h, rfl⟩, hmax, result, t, hloop, hsuccess,
      .inl ⟨hone, _, ⟨d.charge, hspace, rfl⟩, rfl⟩⟩, ?_, rfl⟩
    exact ⟨rfl, rfl, rfl⟩
  . refine ⟨_, ⟨(creator, spaceId), _, ⟨d, h, rfl⟩, hmax, result, t, hloop, hsuccess,
      .inr ⟨hone, rfl⟩⟩, ?_, rfl⟩
    exact ⟨rfl, rfl, rfl⟩

theorem registerBatch_success_pos {digests : List T.Hash} {d : SpaceDetails T.toChainSpace}
    {result : BatchResult} {t : State T} (h : s.Charges origin authorization creator spaceId d)
    (hloop : Succeeds (registerDigests spaceId creator schemaId digests 0 ⟨0, 0, []⟩)
      (s.setSpace spaceId d.charge) result t)
    (hs : Succeeds (registerBatch origin digests authorization schemaId) s () s')
    : result.success > 0 := by
  simp only [registerBatch, Succeeds.bind_iff, ensureAuthorized_iff, Succeeds.ensure_iff, and_assoc,
    exists_and_left, exists_eq_left, exists_const] at hs
  obtain ⟨⟨_, _⟩, _, ⟨_, hcharges, rfl⟩, _, _, _, hloop', hsuccess, _⟩ := hs
  obtain ⟨rfl, rfl, rfl⟩ := h.unique hcharges
  rw [← (hloop.unique hloop').1]
  exact hsuccess

def registerBatchExt (origin : T.Origin) (authorization : T.Ss58Identifier)
    (schemaId : Option T.Ss58Identifier) (timepoint : Timepoint) (digests : List T.Hash)
    : Extrinsic T :=
  .statement origin timepoint (.registerBatch digests authorization schemaId)

theorem toNat_toUInt16_of_mem_rejected {calls : List (Extrinsic T)}
    (hlen : calls.length ≤ T.maxDigestsPerBatch.toNat)
    : ((machine T).rejected s calls).map (fun i => (0 + i).toUInt16.toNat) =
        (machine T).rejected s calls := by
  conv =>
    rhs
    rw [← List.map_id ((machine T).rejected s calls)]
  apply List.map_congr_left
  intro i hi
  unfold Machine.rejected at hi
  rw [List.mem_filter, List.mem_range] at hi
  have hmax := UInt16.toNat_lt T.maxDigestsPerBatch
  rw [Nat.zero_add, id, Nat.toUInt16_eq, UInt16.toNat_ofNat']
  apply Nat.mod_eq_of_lt
  omega

/--
For an authorised creator whose space has no limit, a batch writes what the calls of `register` for
its digests write one after the other. It fails if and only if all of them fail, and its event counts
and lists those that do.
-/
theorem registerBatch_eq_run (hs : s.Unlimited origin authorization creator spaceId)
    (schemaId : Option T.Ss58Identifier) (timepoint : Timepoint)
    (calls : List (Timepoint × T.Hash)) (hlen : calls.length ≤ T.maxDigestsPerBatch.toNat)
    : let batch := registerBatchExt origin authorization schemaId timepoint (calls.map Prod.snd)
      let registers := calls.map (registerExt origin authorization schemaId)
      ((machine T).next s batch).Agrees ((machine T).run s registers) ∧
        ((machine T).accepts s batch = false ↔
          ∀ i < calls.length, (machine T).rejectsAt s registers i = true) ∧
        ((machine T).accepts s batch = true →
          ∃ successful failed indices,
            ((machine T).next s batch).events =
              s.events ++ [.registerBatch successful failed indices creator] ∧
            successful.toNat + failed.toNat = calls.length ∧
            indices.map UInt16.toNat =
              (List.range calls.length).filter ((machine T).rejectsAt s registers)) := by
  intro batch registers
  obtain ⟨d, hcharges, hcapacity⟩ := hs
  have hmax := UInt16.toNat_lt T.maxDigestsPerBatch
  have hnow := hcharges.atTime timepoint
  obtain ⟨result, t, hloop, hmeets⟩ := registerDigests_run (s := s)
    (t := (s.atTime timepoint).setSpace spaceId d.charge) schemaId calls 0 ⟨0, 0, []⟩
    ⟨d, hcharges, hcapacity⟩ ⟨rfl, rfl, rfl⟩ (by simp; omega) (by simp; omega)
  have hlength : registers.length = calls.length := List.length_map _
  have hall := Machine.rejected_eq_iff (machine T) s registers
  rw [hlength] at hall
  have hzero : ¬ result.success > 0 ↔ result.success.toNat = 0 := by
    rw [gt_iff_lt, UInt32.lt_iff_toNat_lt]
    exact Nat.not_lt.trans Nat.le_zero
  have hcount : result.success.toNat + ((machine T).rejected s registers).length = calls.length := by
    rw [hmeets.success]
    exact Nat.zero_add _
  by_cases hpos : result.success > 0
  . obtain ⟨s', hs', hagrees, hevents⟩ := registerBatch_of_loop hnow (by simpa using hlen) hloop hpos
    have hbatch : Succeeds ((machine T).dispatch batch) s () s' := machine_statement.mpr hs'
    have hnext : (machine T).next s batch = s' := Machine.next_of_succeeds hbatch
    have haccepts : (machine T).accepts s batch = true := Machine.Succeeds.accepts hbatch
    rw [hnext, haccepts]
    refine ⟨hagrees.trans hmeets.agrees, ?_, fun _ => ?_⟩
    . apply iff_of_false Bool.noConfusion
      rw [← hall]
      intro hrejected
      exact hzero.mpr (by omega) hpos
    . refine ⟨result.success, result.fail, result.indices, ?_, ?_, ?_⟩
      . rw [hevents, registerDigests_events hloop]
        rfl
      . have hfail : result.fail.toNat = 0 + ((machine T).rejected s registers).length := hmeets.fail
        omega
      . have hindices : result.indices =
            ((machine T).rejected s registers).map fun i => (0 + i).toUInt16 := hmeets.indices
        rw [hindices, List.map_map]
        have hrejected := toNat_toUInt16_of_mem_rejected (s := s) (hlength.trans_le hlen)
        unfold Machine.rejected at hrejected
        rw [hlength] at hrejected
        unfold Machine.rejected
        rw [hlength]
        exact hrejected
  . have hfails : ∀ s', ¬ Succeeds ((machine T).dispatch batch) s () s' := by
      intro s' hs'
      exact hpos (registerBatch_success_pos hnow hloop (machine_statement.mp hs'))
    have haccepts := Machine.accepts_eq_false_iff.mpr hfails
    have hrejected := hall.mp (by rw [hzero] at hpos; omega)
    have hrun : (machine T).run s registers = s := by
      apply Machine.run_of_rejected
      rw [hlength]
      exact hrejected
    rw [Machine.next_of_fails hfails, haccepts, hrun]
    exact ⟨⟨rfl, rfl, rfl⟩, iff_of_true rfl hrejected, Bool.noConfusion⟩

section Plain

def unlimited : State .plain :=
  (machine .plain).run (State.genesis .plain) [
    .chainSpace (plainExtrinsic (some 1) (.create [10])),
    .chainSpace (plainExtrinsic none (.approve (plainSpace 10 1) 0)),
    statementCall (.register [21] (plainAuthorization (plainSpace 10 1) 1 1) none)
  ]

def mixedCalls : List (Timepoint × List UInt8) := [
    -- A digest that is new, one that is anchored already and the first one again.
    (⟨1, 0⟩, [22]),
    (⟨1, 1⟩, [21]),
    (⟨2, 0⟩, [22])
  ]

theorem registerBatch_eq_run_mixed
    : ((machine .plain).next unlimited (registerBatchExt (some 1)
        (plainAuthorization (plainSpace 10 1) 1 1) none ⟨1, 0⟩ [[22], [21], [22]])).Agrees
          ((machine .plain).run unlimited (mixedCalls.map
            (registerExt (some 1) (plainAuthorization (plainSpace 10 1) 1 1) none))) ∧
      (machine .plain).rejected unlimited (mixedCalls.map
        (registerExt (some 1) (plainAuthorization (plainSpace 10 1) 1 1) none)) = [1, 2] := by
  have hcharges : unlimited.Charges (some 1) (plainAuthorization (plainSpace 10 1) 1 1) 1
      (plainSpace 10 1) ⟨[10], 1, 0, 0, 1, true, false, plainSpace 10 1⟩ := by
    refine ⟨rfl, ⟨⟨plainSpace 10 1, 1, .all, 1⟩, ?_, rfl, rfl, by decide⟩, ?_, ?_⟩
    . decide +kernel
    . decide +kernel
    . exact ⟨rfl, rfl, .inl rfl⟩
  have hbatch := registerBatch_eq_run ⟨_, hcharges, rfl⟩ none ⟨1, 0⟩ mixedCalls (by decide)
  refine ⟨hbatch.1, ?_⟩
  decide +kernel

end Plain

end Statement
