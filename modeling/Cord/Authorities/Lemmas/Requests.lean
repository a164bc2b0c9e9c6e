import Cord.Authorities.Lemmas.Calls
import Cord.Frame.History

/-!
This module contains what the requests of a validator to go online or offline come to at the end of the
session they are made in. The deletions of a session are made before the additions, whatever the order of
the requests was.
-/

open Frame

namespace Authorities

variable {T : Config} {s s' : State T} {v : T.ValidatorId}

inductive Request where
  | online
  | offline
  deriving DecidableEq, Repr

def Config.signer (T : Config) (origin : T.Origin) : Option T.ValidatorId :=
  (T.ensureSigned origin).bind T.validatorIdOf

theorem signer_eq {origin : T.Origin} {who : T.AccountId} (hwho : T.ensureSigned origin = some who)
    (hid : T.validatorIdOf who = some v) : T.signer origin = some v := by
  rw [Config.signer, hwho]
  exact hid

def Step.request (v : T.ValidatorId) : Step T → List Request
  | .extrinsic origin _ .goOnline => if T.signer origin = some v then [.online] else []
  | .extrinsic origin _ .goOffline => if T.signer origin = some v then [.offline] else []
  | _ => []

def Step.nominated : Step T → Option T.ValidatorId
  | .extrinsic _ _ (.nominate candidate) => T.validatorIdOf candidate
  | _ => none

/--
The validators that a step removes or that it reports.
-/
def Step.dismissed : Step T → List T.ValidatorId
  | .extrinsic _ _ (.remove candidate) => (T.validatorIdOf candidate).toList
  | .offence offenders _ => offendingValidators offenders
  | _ => []

/--
The requests of `v` that succeed, in the order they are made in.
-/
def requests (v : T.ValidatorId) (s : State T) (session : List (Step T)) : List Request :=
  (machine T).collect
    (fun s step => if (machine T).accepts s step then step.request v else []) s session

theorem requests_cons (v : T.ValidatorId) (s : State T) (step : Step T) (session : List (Step T))
    : requests v s (step :: session) =
        (if (machine T).accepts s step then step.request v else []) ++
          requests v ((machine T).next s step) session := rfl

def StartsSession (past : List (Step T)) : Prop :=
  past = [] ∨ ∃ before, past = before ++ [.rotate]

/--
The steps of one session, at the end of which `v` is a member that is not on the blacklist. It has been
neither removed nor reported since the session has begun.
-/
structure InService (v : T.ValidatorId) (s : State T) (session : List (Step T)) : Prop where
  running : .rotate ∉ session
  member : v ∈ ((machine T).run s session).members
  allowed : v ∉ ((machine T).run s session).blackList
  kept : (machine T).Meets (fun _ step => v ∉ step.dismissed) s session

/-
Only requests of `v` and its nomination touch its entries on the two lists.
-/
structure Marked (v : T.ValidatorId) (s : State T) (record : List Request) (nominated : Prop)
    (s' : State T) : Prop where
  queued : s'.queued = s.queued
  outgoing : s'.outgoingAuthorities.count v =
    s.outgoingAuthorities.count v + record.count .offline
  incoming : v ∈ s'.incomingAuthorities ↔
    v ∈ s.incomingAuthorities ∨ .online ∈ record ∨ nominated

namespace Marked

variable {record record' : List Request} {nominated nominated' : Prop} {s'' : State T}

theorem refl (s : State T) : Marked v s [] False s := by
  constructor
  . rfl
  . rfl
  . simp

theorem trans (h : Marked v s record nominated s') (h' : Marked v s' record' nominated' s'')
    : Marked v s (record ++ record') (nominated ∨ nominated') s'' := by
  constructor
  . rw [h'.queued, h.queued]
  . rw [h'.outgoing, h.outgoing, List.count_append, Nat.add_assoc]
  . rw [h'.incoming, h.incoming, List.mem_append]
    tauto

theorem of_leaving {leaving : List T.ValidatorId} (hleaving : v ∉ leaving)
    (hqueued : s'.queued = s.queued)
    (hout : s'.outgoingAuthorities = s.outgoingAuthorities ++ leaving)
    (hin : s'.incomingAuthorities = s.incomingAuthorities) (hnominated : ¬ nominated)
    : Marked v s [] nominated s' := by
  constructor
  . exact hqueued
  . rw [hout, List.count_append, List.count_eq_zero_of_not_mem hleaving]
    rfl
  . simp [hin, hnominated]

theorem of_stepped {step : Step T} (h : Stepped s step s') (hrotate : step ≠ .rotate)
    (hkept : v ∉ step.dismissed) : Marked v s (step.request v) (step.nominated = some v) s' := by
  cases h with
  | nominate hid =>
    constructor
    . rfl
    . rfl
    . simp [Step.request, Step.nominated, hid, eq_comm]
  | remove hid =>
    rw [Step.dismissed, hid] at hkept
    apply of_leaving hkept
    . rfl
    . rfl
    . rfl
    . simp [Step.nominated]
  | whitelist =>
    apply of_leaving List.not_mem_nil
    . rfl
    . exact (List.append_nil _).symm
    . rfl
    . simp [Step.nominated]
  | @goOffline _ _ _ w _ hwho hid =>
    have hsigner := signer_eq hwho hid
    constructor
    . rfl
    . rw [List.count_append, List.count_singleton, Step.request, hsigner]
      by_cases heq : w = v
      . simp [heq]
      . simp [heq]
    . rw [Step.request, hsigner]
      simp [Step.nominated]
  | @goOnline _ _ _ w _ hwho hid =>
    have hsigner := signer_eq hwho hid
    constructor
    . rfl
    . rw [Step.request, hsigner]
      by_cases heq : w = v
      . simp [heq]
      . simp [heq]
    . rw [List.mem_append, List.mem_singleton, Step.request, hsigner]
      simp [Step.nominated, eq_comm]
  | blacklist =>
    apply of_leaving hkept
    . rfl
    . rfl
    . rfl
    . simp [Step.nominated]
  | disconnect =>
    apply of_leaving hkept
    . rfl
    . rfl
    . rfl
    . simp [Step.nominated]
  | rotate => exact absurd rfl hrotate

/-
The induction is on the steps of the session. A step that fails is not among the requests.
-/
theorem session {session : List (Step T)} (hrunning : .rotate ∉ session)
    (hkept : (machine T).Meets (fun _ step => v ∉ step.dismissed) s session)
    : Marked v s (requests v s session)
        (¬ (machine T).Meets (fun _ step => step.nominated ≠ some v) s session)
        ((machine T).run s session) := by
  induction session generalizing s with
  | nil =>
    have hnone : ¬ (machine T).Meets (fun _ step => step.nominated ≠ some v) s [] ↔ False :=
      iff_false_intro (not_not_intro trivial)
    rw [hnone]
    exact refl s
  | cons step session ih =>
    rw [List.mem_cons, not_or] at hrunning
    have hrest := ih hrunning.2 hkept.2
    rw [Machine.run_cons, requests_cons]
    rcases Machine.succeeds_or_fails (machine T) s step with hsucc | hfail
    . rw [if_pos (Machine.accepts_iff.mpr hsucc), Machine.meets_cons_of_succeeds hsucc]
      rw [not_and_or, not_not]
      apply trans _ hrest
      exact of_stepped (.of_succeeds hsucc) (Ne.symm hrunning.1) (hkept.1 _ hsucc)
    . rw [if_neg (Bool.eq_false_iff.mp (Machine.accepts_eq_false_iff.mpr hfail))]
      rw [Machine.meets_cons_of_fails hfail, List.nil_append]
      rw [Machine.next_of_fails hfail] at hrest ⊢
      exact hrest

end Marked

theorem StartsSession.lists {past : List (Step T)} (h : StartsSession past) (initial : List T.ValidatorId)
    : ((machine T).run (State.genesis initial) past).incomingAuthorities = [] ∧
        ((machine T).run (State.genesis initial) past).outgoingAuthorities = [] := by
  rcases h with rfl | ⟨before, rfl⟩
  . exact ⟨rfl, rfl⟩
  . rw [Machine.run_append]
    obtain ⟨events, heq⟩ := rotateSession_eq ((machine T).run (State.genesis initial) before)
    change (rotateSession _).incomingAuthorities = [] ∧ (rotateSession _).outgoingAuthorities = []
    rw [heq]
    exact ⟨rfl, rfl⟩

theorem newSession_of_lists (h : s.incomingAuthorities ≠ [] ∨ s.outgoingAuthorities ≠ [])
    : (newSession s.startSession).1 = some s.nextValidators := by
  rcases newSession_eq s with ⟨hin, hout, _⟩ | ⟨events, heq⟩
  . exact absurd hout (h.resolve_left (not_not_intro hin))
  . rw [heq]

/--
The additions at the end of the session do not bring `v` back, and its requests to go offline delete all
of its occurrences among the queued validators.
-/
structure Leaves (v : T.ValidatorId) (s : State T) (session : List (Step T)) : Prop where
  notOnline : .online ∉ requests v s session
  notNominated : (machine T).Meets (fun _ step => step.nominated ≠ some v) s session
  queued : s.queued.count v ≤ (requests v s session).count .offline

/--
The last request of a session decides whether the validator is among those returned at its end exactly
if it is one to go online, or nothing else that was asked for in the session lets the validator enter.
-/
theorem newSession_lastRequest_iff (initial : List T.ValidatorId) (past session : List (Step T))
    (hpast : StartsSession past) (v : T.ValidatorId)
    (hservice : InService v ((machine T).run (State.genesis initial) past) session)
    (last : Request)
    (hlast : (requests v ((machine T).run (State.genesis initial) past) session).getLast? = some last)
    : (∃ set, (newSession ((machine T).run (State.genesis initial) (past ++ session)).startSession).1 =
          some set ∧ (v ∈ set ↔ last = .online)) ↔
        (last = .offline → Leaves v ((machine T).run (State.genesis initial) past) session) := by
  obtain ⟨hin, hout⟩ := hpast.lists initial
  rw [Machine.run_append]
  generalize (machine T).run (State.genesis initial) past = s at *
  have hmarked := Marked.session hservice.running hservice.kept
  generalize hs' : (machine T).run s session = s' at *
  have houtgoing := hmarked.outgoing
  have hincoming := hmarked.incoming
  rw [hout, List.count_nil, Nat.zero_add] at houtgoing
  rw [hin] at hincoming
  simp only [List.not_mem_nil, false_or] at hincoming
  have hmem := List.mem_of_getLast? hlast
  cases last with
  | online =>
    have hentering := hincoming.mpr (.inl hmem)
    apply iff_of_true
    . refine ⟨_, newSession_of_lists (.inl (List.ne_nil_of_mem hentering)), ?_⟩
      exact iff_of_true (State.mem_nextValidators.mpr (.inr hentering)) rfl
    . intro hoffline
      cases hoffline
  | offline =>
    have hleaving : 0 < s'.outgoingAuthorities.count v := by
      rw [houtgoing]
      exact List.count_pos_iff.mpr hmem
    have hset := newSession_of_lists (.inr (List.ne_nil_of_mem (List.count_pos_iff.mp hleaving)))
    simp only [hset, Option.some.injEq, exists_eq_left', reduceCtorEq, iff_false, true_implies]
    rw [State.mem_nextValidators, hmarked.queued, houtgoing, hincoming]
    rw [not_or, not_or, not_not, not_lt]
    constructor
    . rintro ⟨hqueued, honline, hnominated⟩
      exact ⟨honline, hnominated, hqueued⟩
    . rintro ⟨honline, hnominated, hqueued⟩
      exact ⟨hqueued, honline, hnominated⟩

def ask1 (call : Call (.plain 1)) : Step (.plain 1) := .extrinsic (some 1) (fun _ => true) call

theorem offlineTwice_leaves
    : ∃ set, (newSession ((machine (.plain 1)).run (State.genesis [1, 2])
          ([.rotate] ++ [ask1 .goOffline, ask1 .goOffline])).startSession).1 = some set ∧
        (1 ∈ set ↔ Request.offline = .online) := by
  have hiff := newSession_lastRequest_iff (T := .plain 1) [1, 2] [.rotate]
    [ask1 .goOffline, ask1 .goOffline] (.inr ⟨[], rfl⟩) 1
    ⟨by simp [ask1], by decide, by decide, by decide⟩ .offline (by decide)
  apply hiff.mpr
  intro _
  exact ⟨by decide, by decide, by decide⟩

/-
The validator 1 goes online and then offline in the same session, and it stays a validator.
-/
theorem onlineThenOffline_stays
    : ¬ ∀ (initial : List Nat) (past session : List (Step (.plain 1))) (v : Nat) (last : Request),
        StartsSession past →
        InService (T := .plain 1) v ((machine (.plain 1)).run (State.genesis initial) past) session →
        (requests (T := .plain 1) v ((machine (.plain 1)).run (State.genesis initial) past)
          session).getLast? = some last →
        ∃ set, (newSession ((machine (.plain 1)).run (State.genesis initial)
            (past ++ session)).startSession).1 = some set ∧ (v ∈ set ↔ last = .online) := by
  intro h
  obtain ⟨set, hset, hiff⟩ := h [1, 2] [] [ask1 .goOnline, ask1 .goOffline] 1 .offline (.inl rfl)
    ⟨by simp [ask1], by decide, by decide, by decide⟩ (by decide)
  have hstays : (newSession ((machine (.plain 1)).run (State.genesis [1, 2])
      ([] ++ [ask1 .goOnline, ask1 .goOffline])).startSession).1 = some [2, 1] := by
    decide
  rw [hset, Option.some.injEq] at hstays
  rw [hstays] at hiff
  exact Request.noConfusion (hiff.mp (by decide))

end Authorities
