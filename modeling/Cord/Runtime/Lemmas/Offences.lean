import Cord.Authorities.Lemmas.Calls
import Cord.Frame.History
import Cord.Offences.Lemmas.Concurrent
import Cord.Runtime.Impl.Offences

/-!
This module contains whom a report punishes: those that were named for its kind and its time slot, by the
report itself or by one before it.
-/

open Frame

namespace Authorities

variable {T : Config}

theorem foldl_addAuthority_eq (vs l : List T.ValidatorId)
    : ∃ added, vs.foldl addAuthority l = l ++ added ∧ ∀ v ∈ added, v ∈ vs := by
  induction vs generalizing l with
  | nil => exact ⟨[], by simp⟩
  | cons v vs ih =>
    obtain ⟨added, heq, hadded⟩ := ih (addAuthority l v)
    rw [List.foldl_cons, heq]
    unfold addAuthority
    split
    . exact ⟨added, rfl, fun w hw => List.mem_cons_of_mem _ (hadded w hw)⟩
    . refine ⟨v :: added, by simp, ?_⟩
      rw [List.forall_mem_cons]
      exact ⟨List.mem_cons_self, fun w hw => List.mem_cons_of_mem _ (hadded w hw)⟩

theorem onOffence_adds (offenders : List T.AccountId) (strategy : SlashStrategy) (s : State T)
    : ∃ banned leaving, (onOffence offenders strategy s).blackList = s.blackList ++ banned ∧
        (onOffence offenders strategy s).outgoingAuthorities = s.outgoingAuthorities ++ leaving ∧
        ∀ v ∈ banned ++ leaving, v ∈ offendingValidators offenders := by
  cases strategy with
  | disconnect =>
    obtain ⟨events, heq⟩ := onOffence_disconnect offenders s
    rw [heq]
    exact ⟨[], _, (List.append_nil _).symm, rfl, fun v hv => hv⟩
  | blackList =>
    obtain ⟨events, heq⟩ := onOffence_blackList offenders s
    obtain ⟨banned, hbanned, hmem⟩ := foldl_addAuthority_eq (offendingValidators offenders) s.blackList
    rw [heq]
    refine ⟨banned, _, hbanned, rfl, ?_⟩
    intro v hv
    rcases List.mem_append.mp hv with hv | hv
    . exact hmem v hv
    . exact hv

theorem Stepped.blackList_subset {s s' : State T} {step : Step T} (h : Stepped s step s')
    (hstep : ∀ offenders, step ≠ .offence offenders .blackList)
    : ∀ v ∈ s'.blackList, v ∈ s.blackList := by
  intro v hv
  cases h with
  | whitelist => exact List.mem_of_mem_filter hv
  | blacklist => exact absurd rfl (hstep _)
  | nominate | remove | goOffline | goOnline | disconnect | rotate => exact hv

end Authorities

namespace Runtime

open Offences (Filing Report)

variable {T : OffenceConfig} {s s' : OffenceState T} {log : List (Filing T.offences)}
  {v : T.authorities.ValidatorId}

/--
What is named by the reports among the steps, also by those that are rejected as duplicates.
-/
def filings (steps : List (OffenceStep T)) : List (Filing T.offences) :=
  steps.flatMap fun
    | .report r => r.filings
    | _ => []

/--
The validator is the one of an offender that was named for the kind and the time slot of the report.
-/
def Blamed (v : T.authorities.ValidatorId) (log : List (Filing T.offences))
    (report : Report T.offences) : Prop :=
  ∃ f ∈ log, f.kind = report.offence.id ∧ f.timeSlot = report.offence.timeSlot ∧
    T.authorities.validatorIdOf f.offender.1 = some v

theorem report_blames (h : s.Traced log) (report : Report T.offences)
    : ∃ banned leaving,
        (report.file s).2.handler.blackList = s.handler.blackList ++ banned ∧
        (report.file s).2.handler.outgoingAuthorities = s.handler.outgoingAuthorities ++ leaving ∧
        ∀ v ∈ banned ++ leaving, Blamed v (log ++ report.filings) report := by
  rcases h.file_handler report with heq | ⟨offenders, heq, hlog⟩
  . rw [heq]
    exact ⟨[], [], by simp⟩
  . rw [heq]
    obtain ⟨banned, leaving, hbanned, hleaving, hmem⟩ := Authorities.onOffence_adds
      (offenders.map fun details => details.offender.1)
      (Offences.slashStrategy report.offence.id) s.handler
    refine ⟨banned, leaving, hbanned, hleaving, ?_⟩
    intro v hv
    obtain ⟨who, hwho, hid⟩ := List.mem_filterMap.mp (hmem v hv)
    obtain ⟨d, hd, rfl⟩ := List.mem_map.mp hwho
    exact ⟨_, hlog d hd, rfl, rfl, hid⟩

theorem filings_cons (step : OffenceStep T) (steps : List (OffenceStep T))
    : filings (step :: steps) = filings [step] ++ filings steps := by
  unfold filings
  rw [List.flatMap_singleton, List.flatMap_cons]

theorem authorities_iff {α : Type} {x : Authorities.CallM T.authorities α} {a : α}
    : Succeeds (authorities x) s a s' ↔
        ∃ handler, Succeeds x s.handler a handler ∧ s' = { s with handler } :=
  Succeeds.zoom_iff

/-
The calls and the sessions change what the authorities pallet stores, and nothing is put on the blacklist.
-/
theorem dispatch_cases {step : OffenceStep T}
    (h : Succeeds ((offenceMachine T).dispatch step) s () s')
    : (∃ handler, s' = { s with handler } ∧ filings [step] = [] ∧
        ∀ v ∈ handler.blackList, v ∈ s.handler.blackList) ∨
        ∃ r, step = .report r ∧ s' = (r.file s).2 := by
  simp only [offenceMachine] at h
  match step with
  | .extrinsic origin isMember call =>
    obtain ⟨handler, hsucc, rfl⟩ := authorities_iff.mp h
    left
    refine ⟨handler, rfl, rfl, ?_⟩
    have hstepped : Authorities.Stepped s.handler (.extrinsic origin isMember call) handler :=
      .of_succeeds hsucc
    exact hstepped.blackList_subset (by simp)
  | .rotate =>
    obtain ⟨handler, hsucc, rfl⟩ := authorities_iff.mp h
    left
    refine ⟨handler, rfl, rfl, ?_⟩
    have hstepped : Authorities.Stepped s.handler .rotate handler := .of_succeeds hsucc
    exact hstepped.blackList_subset (by simp)
  | .report r =>
    rw [OffenceStep.dispatch, Succeeds.modify_iff] at h
    right
    exact ⟨r, rfl, h⟩

theorem next_traced (h : s.Traced log) (step : OffenceStep T)
    : ((offenceMachine T).next s step).Traced (log ++ filings [step]) := by
  cases Machine.next_cases (offenceMachine T) s step with
  | inl hsucc =>
    rcases dispatch_cases hsucc with ⟨handler, heq, hnone, _⟩ | ⟨r, rfl, heq⟩
    . rw [heq, hnone, List.append_nil]
      exact h.congr rfl fun _ _ => rfl
    . rw [heq, filings, List.flatMap_singleton]
      exact Offences.State.Traced.logInvariant.file h r
  | inr heq =>
    rw [heq]
    exact h.mono _

theorem run_traced (h : s.Traced log) (steps : List (OffenceStep T))
    : ((offenceMachine T).run s steps).Traced (log ++ filings steps) := by
  induction steps generalizing s log with
  | nil => exact h.mono []
  | cons step steps ih =>
    rw [Machine.run_cons, filings_cons, ← List.append_assoc]
    exact ih (next_traced h step)

theorem next_notBlacklisted (h : s.Traced log) {step : OffenceStep T}
    (hv : v ∉ s.handler.blackList)
    (hblame : ∀ r, step = .report r → ¬ Blamed v (log ++ r.filings) r)
    : v ∉ ((offenceMachine T).next s step).handler.blackList := by
  intro hmem
  cases Machine.next_cases (offenceMachine T) s step with
  | inl hsucc =>
    rcases dispatch_cases hsucc with ⟨handler, heq, _, hsubset⟩ | ⟨r, rfl, heq⟩
    . rw [heq] at hmem
      exact hv (hsubset v hmem)
    . obtain ⟨banned, leaving, hbanned, _, hblamed⟩ := report_blames h r
      rw [heq, hbanned, List.mem_append] at hmem
      exact hblame r rfl (hblamed v (List.mem_append_left _ (hmem.resolve_left hv)))
  | inr heq =>
    rw [heq] at hmem
    exact hv hmem

/-
The induction is on the steps, whose reports are added to those that were made before them.
-/
theorem run_notBlacklisted (h : s.Traced log) (hv : v ∉ s.handler.blackList)
    (after : List (OffenceStep T))
    (hblame : ∀ earlier r, earlier ++ [.report r] <+: after →
      ¬ Blamed v (log ++ filings earlier ++ r.filings) r)
    : v ∉ ((offenceMachine T).run s after).handler.blackList := by
  induction after generalizing s log with
  | nil => exact hv
  | cons step after ih =>
    rw [Machine.run_cons]
    apply ih (next_traced h step)
    . apply next_notBlacklisted h hv
      rintro r rfl
      have hnot := hblame [] r ⟨after, rfl⟩
      rw [filings, List.flatMap_nil, List.append_nil] at hnot
      exact hnot
    . intro earlier r hprefix
      have hnot := hblame (step :: earlier) r (List.cons_prefix_cons.mpr ⟨rfl, hprefix⟩)
      rw [filings_cons, ← List.append_assoc] at hnot
      exact hnot

theorem next_whitelisted {origin : T.authorities.Origin} {isMember : T.authorities.AccountId → Bool}
    {candidate : T.authorities.AccountId} (hid : T.authorities.validatorIdOf candidate = some v)
    (haccepts : (offenceMachine T).accepts s
      (.extrinsic origin isMember (.removeMemberFromBlacklist candidate)) = true)
    : v ∉ ((offenceMachine T).next s
        (.extrinsic origin isMember (.removeMemberFromBlacklist candidate))).handler.blackList := by
  have haccepted := Machine.accepts_iff.mp haccepts
  generalize (offenceMachine T).next s _ = s' at *
  obtain ⟨handler, hsucc, rfl⟩ := authorities_iff.mp haccepted
  have hstepped : Authorities.Stepped s.handler
      (.extrinsic origin isMember (.removeMemberFromBlacklist candidate)) handler := .of_succeeds hsucc
  cases hstepped with
  | whitelist hid' =>
    rw [hid'] at hid
    injection hid with hid
    simp [hid]

abbrev OffenceState.after (initialAuthorities : List T.authorities.ValidatorId)
    (steps : List (OffenceStep T)) : OffenceState T :=
  (offenceMachine T).run (.genesis initialAuthorities) steps

/--
Whom a report adds to the blacklist or to those that leave was named for its kind and its time slot, by it
or by a report before it. A validator that is taken off the blacklist is not put on it again by
reports for whose kinds and time slots no report names it.
-/
theorem run_report_blames (initialAuthorities : List T.authorities.ValidatorId)
    (before : List (OffenceStep T))
    : (∀ r : Report T.offences, ∃ banned leaving,
        (OffenceState.after initialAuthorities (before ++ [.report r])).handler.blackList =
          (OffenceState.after initialAuthorities before).handler.blackList ++ banned ∧
        (OffenceState.after initialAuthorities (before ++ [.report r])).handler.outgoingAuthorities =
          (OffenceState.after initialAuthorities before).handler.outgoingAuthorities ++ leaving ∧
        ∀ v ∈ banned ++ leaving, Blamed v (filings before ++ r.filings) r) ∧
      ∀ origin isMember candidate v, T.authorities.validatorIdOf candidate = some v →
        (offenceMachine T).accepts (OffenceState.after initialAuthorities before)
          (.extrinsic origin isMember (.removeMemberFromBlacklist candidate)) = true →
        ∀ after,
          (∀ earlier r, earlier ++ [.report r] <+: after →
            ¬ Blamed v (filings before ++ filings earlier ++ r.filings) r) →
          v ∉ (OffenceState.after initialAuthorities (before ++
            .extrinsic origin isMember (.removeMemberFromBlacklist candidate) ::
              after)).handler.blackList := by
  have htraced := run_traced (Offences.State.Traced.genesis (T := T.offences)
    (Authorities.State.genesis initialAuthorities)) before
  rw [List.nil_append] at htraced
  constructor
  . intro r
    unfold OffenceState.after
    rw [Machine.run_append]
    exact report_blames htraced r
  . intro origin isMember candidate v hid haccepts after hblame
    unfold OffenceState.after
    rw [Machine.run_append, Machine.run_cons]
    have hnext := next_traced htraced
      (.extrinsic origin isMember (.removeMemberFromBlacklist candidate))
    have hnone : filings [OffenceStep.extrinsic origin isMember
        (.removeMemberFromBlacklist candidate)] = [] := rfl
    rw [hnone, List.append_nil] at hnext
    exact run_notBlacklisted hnext (next_whitelisted hid haccepts) after hblame

section Plain

def reportOf (timeSlot : List UInt8) (who : Nat) : Report OffenceConfig.plain.offences :=
  ⟨[9], ⟨.replicate 16 0, timeSlot, [(who, ())], 0⟩⟩

def whitelist1 : OffenceStep .plain :=
  .extrinsic none (fun _ => true) (.removeMemberFromBlacklist 1)

theorem otherSlot_whitelisted
    : 1 ∉ (OffenceState.after (T := .plain) [1, 2, 3] ([.report (reportOf [42] 1)] ++
        whitelist1 :: [.report (reportOf [43] 2)])).handler.blackList := by
  apply (run_report_blames (T := .plain) [1, 2, 3] [.report (reportOf [42] 1)]).2 none (fun _ => true)
    1 1 rfl (by decide +kernel)
  intro earlier r hprefix
  cases earlier with
  | nil =>
    obtain ⟨_, heq⟩ := hprefix
    injection heq with heq
    injection heq with heq
    subst heq
    rintro ⟨f, hf, hkind, hslot, hid⟩
    revert f
    decide +kernel
  | cons step earlier =>
    have hlength := hprefix.length_le
    simp at hlength

/-
The second report names the validator 2 only, but the first one was for the same time slot.
-/
theorem sameSlot_blacklisted
    : ¬ ∀ (initialAuthorities : List Nat) (before : List (OffenceStep .plain))
        (r : Report OffenceConfig.plain.offences) (v : Nat),
        v ∈ (OffenceState.after (T := .plain) initialAuthorities
          (before ++ [.report r])).handler.blackList →
        v ∉ (OffenceState.after (T := .plain) initialAuthorities before).handler.blackList →
        ∃ offender ∈ r.offence.offenders,
          OffenceConfig.plain.authorities.validatorIdOf offender.1 = some v := by
  intro h
  have hnamed := h [1, 2, 3] [.report (reportOf [42] 1), whitelist1] (reportOf [42] 2) 1
    (by decide +kernel) (by decide +kernel)
  revert hnamed
  decide +kernel

end Plain

end Runtime
