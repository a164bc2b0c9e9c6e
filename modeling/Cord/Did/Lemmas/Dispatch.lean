import Cord.Did.Lemmas.Calls

/-!
This module contains the rule by which an invariant is carried through the dispatch of a call, however
deep other calls are nested in it.
-/

open Frame

namespace Did

variable {T : Config} {s s' : State T} {origin : Origin T.toTypes}

/--
The calls of the pallet that are made in the course of a dispatch, or only those whose effects have
not been rolled back.
-/
inductive Scope where
  | made
  | kept

mutual

/--
The calls of the pallet in the scope meet `P` with the origin and in the state they are made in,
however deep they are nested.
-/
def RuntimeCall.Meets (scope : Scope) (P : Origin T.toTypes → Call T.toTypes → State T → Prop)
    (origin : Origin T.toTypes) : RuntimeCall T.toTypes → State T → Prop
  | .did call, s => call.Meets scope P origin s
  | .utility kind calls, s =>
    calls.length ≤ T.batchedCallsLimit → BatchMeets scope P origin kind calls s
  | .proxied proxy call, s =>
    match T.proxyOrigin proxy origin with
    | some origin =>
      match (call.dispatch origin).run s with
      | .ok _ => call.Meets scope P origin s
      | .error _ => scope = .made → call.Meets scope P origin s
    | none => True
  | .other _, _ => True

def BatchMeets (scope : Scope) (P : Origin T.toTypes → Call T.toTypes → State T → Prop)
    (origin : Origin T.toTypes) (kind : BatchKind)
    : List (RuntimeCall T.toTypes) → State T → Prop
  | [], _ => True
  | call :: calls, s =>
    match (call.dispatch origin).run s with
    | .ok (_, t) => call.Meets scope P origin s ∧ BatchMeets scope P origin kind calls t
    | .error _ =>
      (scope = .made → call.Meets scope P origin s) ∧
        (kind = .forceBatch → BatchMeets scope P origin kind calls s)

def Call.Meets (scope : Scope) (P : Origin T.toTypes → Call T.toTypes → State T → Prop)
    (origin : Origin T.toTypes) : Call T.toTypes → State T → Prop
  | .submitDidCall did txCounter call blockNumber submitter signature, s =>
    match (authorizeDidCall origin { did, txCounter, call, blockNumber, submitter } signature).run s
      with
    | .ok (_, t) => call.Meets scope P (.did did submitter) t
    | .error _ => True
  | .dispatchAs didIdentifier call, s =>
    match (authorizeDispatchAs origin didIdentifier call).run s with
    | .ok (who, t) => call.Meets scope P (.did didIdentifier who) t
    | .error _ => True
  | call, s => P origin call s

end

def Call.Dispatches : Call T.toTypes → Prop
  | .submitDidCall _ _ _ _ _ _ => True
  | .dispatchAs _ _ => True
  | _ => False

/--
The rule for the dispatch of calls: `I pending s` is preserved if it is preserved by each part of it,
and `P` is what can be assumed of the calls of the pallet. `pending` are the operations that have been
authorized and whose calls have not returned yet, the innermost comes first.
-/
structure DispatchRule (I : List (DidAuthorizedCallOperation T.toTypes) → State T → Prop)
    (P : Origin T.toTypes → Call T.toTypes → State T → Prop) : Prop where
  block : ∀ {pending s} blockNumber, I pending s → I pending { s with blockNumber }
  event : ∀ {pending s} event, I pending s → I pending { s with events := s.events ++ [event] }
  other : ∀ {pending s s' origin call}, Succeeds (dispatchOther origin call) s () s' →
    I pending s → I pending s'
  call : ∀ {pending s s' origin call}, P origin call s → ¬ call.Dispatches →
    Succeeds (call.dispatch origin) s () s' → I pending s → I pending s'
  authorize : ∀ {pending operation origin signature s s'},
    Succeeds (authorizeDidCall origin operation signature) s () s' →
      I pending s → I (operation :: pending) s'
  complete : ∀ {pending operation s s'}, Succeeds (completeDidCall operation) s () s' →
    I (operation :: pending) s → I pending s'

variable {I : List (DidAuthorizedCallOperation T.toTypes) → State T → Prop}
  {P : Origin T.toTypes → Call T.toTypes → State T → Prop} {scope : Scope}

mutual

/-
The induction is on the call, the origin, the state and the pending operations change on the way in.
-/
theorem RuntimeCall.dispatch_of_meets (hI : DispatchRule I P) (call : RuntimeCall T.toTypes)
    {pending origin} {s s' : State T} (hs : I pending s) (hmeets : call.Meets scope P origin s)
    (h : Succeeds (call.dispatch origin) s () s') : I pending s' := by
  match call with
  | .did call =>
    rw [RuntimeCall.dispatch] at h
    rw [RuntimeCall.Meets] at hmeets
    exact Call.dispatch_of_meets hI call hs hmeets h
  | .utility kind calls =>
    rw [RuntimeCall.dispatch] at h
    rw [RuntimeCall.Meets] at hmeets
    simp only [Succeeds.bind_iff, Succeeds.ensure_iff, and_assoc, exists_and_left, exists_eq_left,
      exists_const] at h
    exact dispatchBatch_of_meets hI calls hs (hmeets h.1) h.2
  | .proxied proxy call =>
    rw [RuntimeCall.dispatch] at h
    simp only [Succeeds.bind_iff, Succeeds.ensure_iff, Succeeds.ensureOrigin_iff, and_assoc,
      exists_and_left, exists_eq_left] at h
    obtain ⟨_, horigin, result, t, hattempt, _, rfl⟩ := h
    cases hattempt.attempt_cases with
    | inl h =>
      rw [RuntimeCall.Meets, horigin] at hmeets
      dsimp only at hmeets
      rw [h.2] at hmeets
      exact RuntimeCall.dispatch_of_meets hI call hs hmeets h.2
    | inr h =>
      obtain ⟨_, _, _, rfl⟩ := h
      exact hs
  | .other call =>
    rw [RuntimeCall.dispatch] at h
    exact hI.other h hs

theorem dispatchBatch_of_meets (hI : DispatchRule I P) (calls : List (RuntimeCall T.toTypes))
    {pending origin kind} {s s' : State T} (hs : I pending s)
    (hmeets : BatchMeets scope P origin kind calls s)
    (h : Succeeds (dispatchBatch origin kind calls) s () s') : I pending s' := by
  match calls with
  | [] =>
    rw [dispatchBatch, Succeeds.pure_iff] at h
    rw [h.2]
    exact hs
  | call :: calls =>
    rw [dispatchBatch, Succeeds.bind_iff] at h
    obtain ⟨result, t, hattempt, h⟩ := h
    rw [BatchMeets] at hmeets
    rcases hattempt.attempt_cases with ⟨rfl, hok⟩ | ⟨err, rfl, herror, rfl⟩
    . rw [hok] at hmeets
      have ht := RuntimeCall.dispatch_of_meets hI call hs hmeets.1 hok
      exact dispatchBatch_of_meets hI calls ht hmeets.2 h
    . rw [herror] at hmeets
      cases kind with
      | batch =>
        dsimp only at h
        rw [Succeeds.pure_iff] at h
        rw [h.2]
        exact hs
      | batchAll =>
        dsimp only at h
        rw [Succeeds.throw_iff] at h
        exact h.elim
      | forceBatch => exact dispatchBatch_of_meets hI calls hs (hmeets.2 rfl) h

theorem Call.dispatch_of_meets (hI : DispatchRule I P) (call : Call T.toTypes)
    {pending origin} {s s' : State T} (hs : I pending s) (hmeets : call.Meets scope P origin s)
    (h : Succeeds (call.dispatch origin) s () s') : I pending s' := by
  match call with
  | .submitDidCall did txCounter call blockNumber submitter signature =>
    simp only [Call.dispatch, Succeeds.bind_iff] at h
    obtain ⟨_, t, hauthorize, _, t', hcall, hcomplete⟩ := h
    rw [Call.Meets, hauthorize] at hmeets
    have ht := RuntimeCall.dispatch_of_meets hI call (hI.authorize hauthorize hs) hmeets hcall
    exact hI.complete hcomplete ht
  | .dispatchAs did call =>
    simp only [Call.dispatch, Succeeds.bind_iff, depositEvent_iff] at h
    obtain ⟨_, t, hauthorize, _, t', hcall, rfl⟩ := h
    rw [Call.Meets, hauthorize] at hmeets
    cases authorizeDispatchAs_spec hauthorize
    exact hI.event _ (RuntimeCall.dispatch_of_meets hI call hs hmeets hcall)
  | .create _ _ => exact hI.call hmeets id h hs
  | .setAuthenticationKey _ => exact hI.call hmeets id h hs
  | .setDelegationKey _ => exact hI.call hmeets id h hs
  | .removeDelegationKey => exact hI.call hmeets id h hs
  | .setAssertionKey _ => exact hI.call hmeets id h hs
  | .removeAssertionKey => exact hI.call hmeets id h hs
  | .addKeyAgreementKey _ => exact hI.call hmeets id h hs
  | .removeKeyAgreementKey _ => exact hI.call hmeets id h hs
  | .addServiceEndpoint _ => exact hI.call hmeets id h hs
  | .removeServiceEndpoint _ => exact hI.call hmeets id h hs
  | .delete _ => exact hI.call hmeets id h hs
  | .createFromAccount _ => exact hI.call hmeets id h hs

end

mutual

/-
What follows from the invariant holds whenever a call of the pallet is made.
-/
theorem RuntimeCall.meets_of_rule {scope : Scope}
    {Q : Origin T.toTypes → Call T.toTypes → State T → Prop}
    (hI : DispatchRule I fun _ _ _ => True)
    (hQ : ∀ {pending s origin call}, I pending s → Q origin call s) (call : RuntimeCall T.toTypes)
    {pending} (origin : Origin T.toTypes) {s : State T} (hs : I pending s)
    : call.Meets scope Q origin s := by
  match call with
  | .did call =>
    rw [RuntimeCall.Meets]
    exact Call.meets_of_rule hI hQ call origin hs
  | .utility kind calls =>
    rw [RuntimeCall.Meets]
    intro _
    exact batchMeets_of_rule hI hQ calls origin kind hs
  | .proxied proxy call =>
    rw [RuntimeCall.Meets]
    split
    . next origin' _ =>
      have hmeets : call.Meets scope Q origin' s :=
        RuntimeCall.meets_of_rule hI hQ call origin' hs
      split
      . exact hmeets
      . exact fun _ => hmeets
    . trivial
  | .other call =>
    rw [RuntimeCall.Meets]
    trivial

theorem batchMeets_of_rule {scope : Scope}
    {Q : Origin T.toTypes → Call T.toTypes → State T → Prop}
    (hI : DispatchRule I fun _ _ _ => True)
    (hQ : ∀ {pending s origin call}, I pending s → Q origin call s)
    (calls : List (RuntimeCall T.toTypes)) {pending} (origin : Origin T.toTypes) (kind : BatchKind)
    {s : State T} (hs : I pending s) : BatchMeets scope Q origin kind calls s := by
  match calls with
  | [] =>
    rw [BatchMeets]
    trivial
  | call :: calls =>
    have hmeets : call.Meets scope Q origin s := RuntimeCall.meets_of_rule hI hQ call origin hs
    rw [BatchMeets]
    split
    . next t hok =>
      have htrue : call.Meets .kept (fun _ _ _ => True) origin s :=
        RuntimeCall.meets_of_rule hI (fun _ => trivial) call origin hs
      have ht := RuntimeCall.dispatch_of_meets hI call hs htrue hok
      exact ⟨hmeets, batchMeets_of_rule hI hQ calls origin kind ht⟩
    . refine ⟨fun _ => hmeets, ?_⟩
      intro _
      exact batchMeets_of_rule hI hQ calls origin kind hs

theorem Call.meets_of_rule {scope : Scope}
    {Q : Origin T.toTypes → Call T.toTypes → State T → Prop}
    (hI : DispatchRule I fun _ _ _ => True)
    (hQ : ∀ {pending s origin call}, I pending s → Q origin call s) (call : Call T.toTypes)
    {pending} (origin : Origin T.toTypes) {s : State T} (hs : I pending s)
    : call.Meets scope Q origin s := by
  match call with
  | .submitDidCall did txCounter call blockNumber submitter signature =>
    rw [Call.Meets]
    split
    . next t hok =>
      exact RuntimeCall.meets_of_rule hI hQ call _ (hI.authorize hok hs)
    . trivial
  | .dispatchAs did call =>
    rw [Call.Meets]
    split
    . next who t hok =>
      cases authorizeDispatchAs_spec hok
      exact RuntimeCall.meets_of_rule hI hQ call _ hs
    . trivial
  | .create _ _ => exact hQ hs
  | .setAuthenticationKey _ => exact hQ hs
  | .setDelegationKey _ => exact hQ hs
  | .removeDelegationKey => exact hQ hs
  | .setAssertionKey _ => exact hQ hs
  | .removeAssertionKey => exact hQ hs
  | .addKeyAgreementKey _ => exact hQ hs
  | .removeKeyAgreementKey _ => exact hQ hs
  | .addServiceEndpoint _ => exact hQ hs
  | .removeServiceEndpoint _ => exact hQ hs
  | .delete _ => exact hQ hs
  | .createFromAccount _ => exact hQ hs

end

def Extrinsic.Meets (scope : Scope) (P : Origin T.toTypes → Call T.toTypes → State T → Prop)
    (s : State T) (ext : Extrinsic T) : Prop :=
  ext.call.Meets scope P ext.origin { s with blockNumber := ext.blockNumber }

theorem Extrinsic.dispatch_of_meets (hI : DispatchRule I P) {ext : Extrinsic T} (hs : I [] s)
    (hmeets : ext.Meets scope P s) (h : Succeeds ((machine T).dispatch ext) s () s') : I [] s' := by
  simp only [machine, Extrinsic.dispatch, Succeeds.bind_iff, Succeeds.modify_iff, exists_eq_left,
    exists_const] at h
  exact RuntimeCall.dispatch_of_meets hI ext.call (hI.block _ hs) hmeets h

theorem DispatchRule.always (hI : DispatchRule I P) (hs : I [] s) {extrinsics : List (Extrinsic T)}
    (h : (machine T).Meets (Extrinsic.Meets scope P) s extrinsics)
    : (machine T).Always (I []) s extrinsics := by
  apply Machine.always_of_meets _ hs h
  intro s ext s' hs hmeets hsucc
  exact Extrinsic.dispatch_of_meets hI hs hmeets hsucc

theorem DispatchRule.meets (hI : DispatchRule I fun _ _ _ => True)
    {Q : Origin T.toTypes → Call T.toTypes → State T → Prop}
    (hQ : ∀ {pending s origin call}, I pending s → Q origin call s) (hs : I [] s)
    (ext : Extrinsic T) : ext.Meets scope Q s :=
  RuntimeCall.meets_of_rule hI hQ ext.call ext.origin (hI.block _ hs)

theorem DispatchRule.run (hI : DispatchRule I fun _ _ _ => True) (hs : I [] s)
    (extrinsics : List (Extrinsic T)) : I [] ((machine T).run s extrinsics) := by
  apply Machine.run_invariant _ hs
  intro s ext s' hs hsucc
  have hmeets : ext.Meets .kept (fun _ _ _ => True) s := hI.meets (fun _ => trivial) hs ext
  exact Extrinsic.dispatch_of_meets hI hs hmeets hsucc

/--
`I pending s` is an invariant of the dispatch of calls that is about the stored DIDs only.
-/
structure DispatchInvariant (I : List (DidAuthorizedCallOperation T.toTypes) → State T → Prop)
    : Prop where
  same : ∀ {pending s s'}, SameDids s s' → I pending s → I pending s'
  step : ∀ {pending s s'}, DidStep s s' → I pending s → I pending s'
  authorize : ∀ {pending operation details s s'}, Authorized operation details s s' →
    I pending s → I (operation :: pending) s'
  complete : ∀ {pending operation s s'}, s'.did = s.did → s'.didBlacklist = s.didBlacklist →
    s'.accepted = s.accepted ++ [operation] → I (operation :: pending) s → I pending s'

theorem Call.dispatch_step {call : Call T.toTypes} (hcall : ¬ call.Dispatches)
    (h : Succeeds (call.dispatch origin) s () s') : DidStep s s' := by
  match call with
  | .submitDidCall _ _ _ _ _ _ => exact absurd trivial hcall
  | .dispatchAs _ _ => exact absurd trivial hcall
  | .create _ _ => exact create_step h
  | .setAuthenticationKey _ => exact setAuthenticationKey_step h
  | .setDelegationKey _ => exact setDelegationKey_step h
  | .removeDelegationKey => exact removeDelegationKey_step h
  | .setAssertionKey _ => exact setAssertionKey_step h
  | .removeAssertionKey => exact removeAssertionKey_step h
  | .addKeyAgreementKey _ => exact addKeyAgreementKey_step h
  | .removeKeyAgreementKey _ => exact removeKeyAgreementKey_step h
  | .addServiceEndpoint _ => exact addServiceEndpoint_step h
  | .removeServiceEndpoint _ => exact removeServiceEndpoint_step h
  | .delete _ => exact delete_step h
  | .createFromAccount _ => exact createFromAccount_step h

theorem DispatchInvariant.rule (hI : DispatchInvariant I)
    : DispatchRule I fun _ _ _ => True where
  block {_ s} _ hs := hI.same (s := s) ⟨rfl, rfl, rfl⟩ hs
  event {_ s} _ hs := hI.same (s := s) ⟨rfl, rfl, rfl⟩ hs
  other h hs := hI.same (dispatchOther_spec h) hs
  call _ hcall h hs := hI.step (Call.dispatch_step hcall h) hs
  authorize h hs := by
    obtain ⟨details, hauthorized⟩ := authorizeDidCall_spec h
    exact hI.authorize hauthorized hs
  complete {_ _ s _} h hs := by
    simp only [completeDidCall, Succeeds.bind_iff, Succeeds.modify_iff, depositEvent_iff,
      exists_eq_left, exists_const] at h
    subst h
    exact hI.complete (s := s) rfl rfl rfl hs

theorem DispatchInvariant.run (hI : DispatchInvariant I) (hs : I [] s)
    (extrinsics : List (Extrinsic T)) : I [] ((machine T).run s extrinsics) :=
  hI.rule.run hs extrinsics

end Did
