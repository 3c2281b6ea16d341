import Mathlib.Tactic.Common
import SignedResponse.Crypto.Ed25519
import SignedResponse.Proofs.Verification.Effects
import SignedResponse.Proofs.Verification.Judgement

/-!
Exchanges one after the other: how each of them ends, and what the log holds in the end.

The decision table is stated for one exchange at the time that the clock tells when its turn comes.
A run is nothing but its exchanges, each in the world that the one before has left.
-/

namespace SignedResponse

theorem SignatureError.level_cases (error : SignatureError) :
    (∃ text, error = .notBase64 text) ∧ error.level = .error ∨
      (∀ text, error ≠ .notBase64 text) ∧ error.level = .warn := by
  cases error with
  | notBase64 text => exact Or.inl ⟨⟨text, rfl⟩, rfl⟩
  | _ => exact Or.inr ⟨nofun, rfl⟩

namespace Verifier

section Table

variable {m : Type → Type} {verifier : Verifier m} {now : Instant} {request : Request}
variable {response : Response}

/-- The decision table: which outcome an exchange has, and which diagnostic goes with it. The
conditions of the diagnostics are looked at in this order, so the first fault is the one told. -/
structure IsDecision (verifier : Verifier m) (now : Instant) (request : Request)
    (response : Response) (judgement : Judgement) : Prop where
  notRequested : judgement.outcome = .notRequested ↔ verifier.key = none ∨
    response.header verifier.config.headers.signature = none ∧ request.nonce = none
  verified : judgement.outcome = .verified ↔ ∃ key signature requestDate,
    verifier.key = some key ∧
      response.header verifier.config.headers.signature = some signature ∧
        verifier.requestDate? response = some requestDate ∧
          FullSignature.check verifier.scheme key now signature
            (verifier.signedParameters request response requestDate) = .ok ()
  failed : judgement.outcome = .failed ↔
    judgement.outcome ≠ .notRequested ∧ judgement.outcome ≠ .verified
  silent : judgement.outcome ≠ .failed → judgement.diagnostic = none
  unanswered : judgement.outcome = .failed →
    response.header verifier.config.headers.signature = none →
      judgement.diagnostic = some ⟨.warn, "Signature was requested but not provided: " ++
        (request.method.text ++ " " ++ request.path)⟩
  undated : judgement.outcome = .failed → ∀ signature,
    response.header verifier.config.headers.signature = some signature →
      verifier.requestDate? response = none →
        judgement.diagnostic = some ⟨.warn,
          "Request date missing or invalid in response headers: " ++
            (request.method.text ++ " " ++ request.path)⟩
  refused : judgement.outcome = .failed → ∀ signature requestDate,
    response.header verifier.config.headers.signature = some signature →
      verifier.requestDate? response = some requestDate →
        ∃ key error level, verifier.key = some key ∧
          FullSignature.check verifier.scheme key now signature
            (verifier.signedParameters request response requestDate) = .error error ∧
          judgement.diagnostic = some ⟨level, error.message⟩ ∧
          ((∃ text, error = .notBase64 text) ∧ level = .error ∨
            (∀ text, error ≠ .notBase64 text) ∧ level = .warn)

theorem judge_eq_not_requested_iff :
    (verifier.judge now request response).outcome = .notRequested ↔
      verifier.Unasked request response := by
  rcases judge_cases verifier now request response with
    ⟨unasked, judged⟩ | ⟨key, trusted, ⟨_, _, carried, _⟩, judged⟩ | ⟨asked, -, record, judged⟩
  · simp [judged, unasked]
  · simp [judged, not_unasked_of_signed trusted carried]
  · simp [judged, asked]

theorem judge_eq_verified_iff :
    (verifier.judge now request response).outcome = .verified ↔
      ∃ key, verifier.key = some key ∧ verifier.Accepts key now request response := by
  rcases judge_cases verifier now request response with
    ⟨unasked, judged⟩ | ⟨key, trusted, accepts, judged⟩ | ⟨-, refused, record, judged⟩
  · rw [judged]
    refine ⟨nofun, ?_⟩
    rintro ⟨key, trusted, _, _, carried, _⟩
    exact absurd unasked (not_unasked_of_signed trusted carried)
  · rw [judged]
    exact ⟨fun _ => ⟨key, trusted, accepts⟩, fun _ => rfl⟩
  · rw [judged]
    refine ⟨nofun, ?_⟩
    rintro ⟨key, trusted, accepts⟩
    exact absurd accepts (refused key trusted)

theorem key_of_failed (failed : (verifier.judge now request response).outcome = .failed) :
    ∃ key, verifier.key = some key := by
  cases trusted : verifier.key with
  | none =>
      rw [judge_of_keyless trusted] at failed
      cases failed
  | some key => exact ⟨key, rfl⟩

theorem is_decision_judge (verifier : Verifier m) (now : Instant) (request : Request)
    (response : Response) :
    verifier.IsDecision now request response (verifier.judge now request response) where
  notRequested := judge_eq_not_requested_iff
  verified := by
    rw [judge_eq_verified_iff]
    constructor
    · rintro ⟨key, trusted, signature, requestDate, accepted⟩
      exact ⟨key, signature, requestDate, trusted, accepted⟩
    · rintro ⟨key, signature, requestDate, trusted, accepted⟩
      exact ⟨key, trusted, signature, requestDate, accepted⟩
  failed := by
    cases (verifier.judge now request response).outcome <;> simp
  silent := by
    intro succeeded
    rcases judge_cases verifier now request response with
      ⟨-, judged⟩ | ⟨_, -, -, judged⟩ | ⟨-, -, _, judged⟩
    · rw [judged]
    · rw [judged]
    · rw [judged] at succeeded
      exact absurd rfl succeeded
  unanswered := by
    intro failed absent
    obtain ⟨key, trusted⟩ := key_of_failed failed
    rw [judge_of_unsigned trusted absent] at failed ⊢
    split_ifs at failed ⊢
    · rfl
  undated := by
    intro failed signature carried undated
    obtain ⟨key, trusted⟩ := key_of_failed failed
    rw [judge_of_undated trusted carried undated]
    rfl
  refused := by
    intro failed signature requestDate carried dated
    obtain ⟨key, trusted⟩ := key_of_failed failed
    rw [judge_of_signed trusted carried dated] at failed ⊢
    cases checked : FullSignature.check verifier.scheme key now signature
        (verifier.signedParameters request response requestDate) with
    | ok =>
        rw [checked] at failed
        cases failed
    | error error => exact ⟨key, error, error.level, trusted, checked, rfl, error.level_cases⟩

end Table

def outcomes {m : Type → Type} [Monad m] (verifier : Verifier m)
    (exchanges : List (Request × Response)) : m (List Outcome) :=
  exchanges.mapM fun exchange => verifier.outcome exchange.1 exchange.2

section Run

variable {World : Type} (verifier : Verifier (StateM World))

/-- The judgement on an exchange in a world, and the world after it. -/
def pass (world : World) (exchange : Request × Response) : Judgement × World :=
  let asked := verifier.host.askIf (verifier.AsksTime exchange.2) world
  let judgement := verifier.judge asked.1 exchange.1 exchange.2
  (judgement, verifier.host.tell asked.2 judgement.diagnostic.toList)

def judgements : List (Request × Response) → World → List Judgement
  | [], _ => []
  | exchange :: rest, world =>
      (verifier.pass world exchange).1 :: judgements rest (verifier.pass world exchange).2

def worldAfter (exchanges : List (Request × Response)) (world : World) : World :=
  exchanges.foldl (fun world exchange => (verifier.pass world exchange).2) world

theorem run_outcomes (exchanges : List (Request × Response)) (world : World) :
    (verifier.outcomes exchanges).run world =
      ((verifier.judgements exchanges world).map Judgement.outcome,
        verifier.worldAfter exchanges world) := by
  -- The rest of a run starts in the world that its first exchange leaves, so any world is allowed.
  induction exchanges generalizing world with
  | nil => rfl
  | cons exchange rest induction =>
      have first : (verifier.outcome exchange.1 exchange.2).run world =
          ((verifier.pass world exchange).1.outcome, (verifier.pass world exchange).2) :=
        verifier.run_outcome exchange.1 exchange.2 world
      rw [outcomes, List.mapM_cons, StateT.run_bind, first]
      change StateT.run (verifier.outcomes rest >>= fun others =>
        pure ((verifier.pass world exchange).1.outcome :: others)) _ = _
      rw [StateT.run_bind, induction]
      rfl

theorem judgements_append (before after : List (Request × Response)) (world : World) :
    verifier.judgements (before ++ after) world =
      verifier.judgements before world ++
        verifier.judgements after (verifier.worldAfter before world) := by
  induction before generalizing world with
  | nil => rfl
  | cons exchange rest induction =>
      rw [List.cons_append, judgements, judgements, induction]
      rfl

theorem length_judgements (exchanges : List (Request × Response)) (world : World) :
    (verifier.judgements exchanges world).length = exchanges.length := by
  induction exchanges generalizing world with
  | nil => rfl
  | cons exchange rest induction => simp [judgements, induction]

theorem world_after_concat (before : List (Request × Response)) (exchange : Request × Response)
    (world : World) :
    verifier.worldAfter (before ++ [exchange]) world =
      (verifier.pass (verifier.worldAfter before world) exchange).2 := by
  rw [worldAfter, List.foldl_append]
  rfl

theorem records_world_after {records : World → List LogRecord}
    (keeps : verifier.host.Keeps records) (exchanges : List (Request × Response)) (world : World) :
    records (verifier.worldAfter exchanges world) =
      records world ++ (verifier.judgements exchanges world).filterMap Judgement.diagnostic := by
  induction exchanges generalizing world with
  | nil => simp [worldAfter, judgements]
  | cons exchange rest induction =>
      have passed : records (verifier.pass world exchange).2 =
          records world ++ (verifier.pass world exchange).1.diagnostic.toList := by
        rw [pass, keeps.tell, Host.ask_if_leaves keeps.ask]
      change records (verifier.worldAfter rest (verifier.pass world exchange).2) = _
      rw [induction, passed, judgements, List.append_assoc]
      cases told : (verifier.pass world exchange).1.diagnostic <;> simp [told]

theorem count_failed (exchanges : List (Request × Response)) (world : World) :
    ((verifier.judgements exchanges world).map Judgement.outcome).count .failed =
      ((verifier.judgements exchanges world).filterMap Judgement.diagnostic).length := by
  induction exchanges generalizing world with
  | nil => rfl
  | cons exchange rest induction =>
      have judged : (verifier.pass world exchange).1 =
          verifier.judge (verifier.host.ask world).1 exchange.1 exchange.2 := rfl
      rw [judgements, List.map_cons, List.count_cons, List.filterMap_cons, induction, judged]
      rcases judge_cases verifier (verifier.host.ask world).1 exchange.1 exchange.2 with
        ⟨-, ended⟩ | ⟨_, -, -, ended⟩ | ⟨-, -, record, ended⟩
      · simp [ended]
      · simp [ended]
      · simp [ended]

/-- Each exchange of a run ends as the decision table says for the time that the clock tells when
its turn comes. The clock is asked only if there is a certificate to compare with the time, and the
log is told the diagnostic of the table and nothing else. So a log that keeps what it is told has
gained one record for each failure, in their order. -/
theorem run_follows_decision_table (exchanges : List (Request × Response)) (world : World) :
    let run := (verifier.outcomes exchanges).run world
    ∃ judgements : List Judgement,
      judgements.length = exchanges.length ∧ run.1 = judgements.map Judgement.outcome ∧
      (∀ before request response after, exchanges = before ++ (request, response) :: after →
        let asked := verifier.host.askIf (verifier.AsksTime response)
          ((verifier.outcomes before).run world).2
        ∃ judgement, judgements[before.length]? = some judgement ∧
          verifier.IsDecision asked.1 request response judgement ∧
          ((verifier.outcomes (before ++ [(request, response)])).run world).2 =
            verifier.host.tell asked.2 judgement.diagnostic.toList) ∧
      run.1.count .failed = (judgements.filterMap Judgement.diagnostic).length ∧
      ∀ records, verifier.host.Keeps records →
        records run.2 = records world ++ judgements.filterMap Judgement.diagnostic := by
  intro run
  have ran : run = _ := verifier.run_outcomes exchanges world
  rw [ran]
  refine ⟨verifier.judgements exchanges world, verifier.length_judgements exchanges world, rfl,
    ?_, verifier.count_failed exchanges world,
    fun _ keeps => verifier.records_world_after keeps exchanges world⟩
  -- The exchange after `before` is judged in the world that `before` leaves.
  rintro before request response after rfl
  rw [verifier.run_outcomes before, verifier.run_outcomes (before ++ _)]
  refine ⟨_, ?_, verifier.is_decision_judge _ request response, ?_⟩
  · rw [judgements_append, ← verifier.length_judgements before world,
      List.getElem?_append_right (Nat.le_refl _), Nat.sub_self]
    rfl
  · exact verifier.world_after_concat before (request, response) world

end Run

/-- Two health checks: nobody asked for a signature of the first, and the second has a garbled
signature and no date. The date is what is told. -/
theorem health_checks_follow_decision_table :
    let verifier := ofConfig ed25519 (.recording .sample) {}
    let signatureName : HeaderName :=
      ⟨⟨"x-signature".toList, by decide, by decide⟩, by decide, by decide⟩
    let garbled := Headers.empty.append signatureName ⟨[0x21], by decide⟩
    let exchanges : List (Request × Response) :=
      [(⟨.get, "/v1/health", none⟩, ⟨.ok, .empty, some [0x22, 0x22]⟩),
        (⟨.get, "/v1/health", some (List.replicate 12 7)⟩, ⟨.ok, garbled, some [0x22, 0x22]⟩)]
    (verifier.outcomes exchanges).run .empty =
      ([.notRequested, .failed], ⟨[⟨.warn,
        "Request date missing or invalid in response headers: " ++
          (Method.get.text ++ " " ++ "/v1/health")⟩]⟩) := by
  intro verifier signatureName garbled exchanges
  obtain ⟨judgements, length, outcomes, decided, -, kept⟩ :=
    verifier.run_follows_decision_table exchanges .empty
  obtain ⟨first, firstFound, firstDecided, -⟩ := decided [] _ _ _ rfl
  obtain ⟨second, secondFound, secondDecided, -⟩ := decided [_] _ _ _ rfl
  have both : judgements = [first, second] := by
    match judgements, length with
    | [_, _], _ =>
        cases firstFound
        cases secondFound
        rfl
  have firstOutcome : first.outcome = .notRequested :=
    firstDecided.notRequested.mpr (Or.inr ⟨by decide, rfl⟩)
  have unproved : second.outcome ≠ .notRequested := by
    intro unasked
    rcases secondDecided.notRequested.mp unasked with keyless | ⟨-, nonceless⟩
    · exact absurd keyless nofun
    · exact absurd nonceless nofun
  have undated : verifier.requestDate? ⟨.ok, garbled, some [0x22, 0x22]⟩ = none := by decide
  have secondOutcome : second.outcome = .failed := by
    refine secondDecided.failed.mpr ⟨unproved, fun accepted => ?_⟩
    obtain ⟨_, _, _, _, _, dated, _⟩ := secondDecided.verified.mp accepted
    rw [undated] at dated
    cases dated
  have silent := firstDecided.silent (by rw [firstOutcome]; decide)
  have told := secondDecided.undated secondOutcome "!" (by decide) undated
  have journal := kept Journal.records (Host.recording_keeps .sample)
  rw [both] at outcomes journal
  simp only [List.map_cons, List.map_nil, firstOutcome, secondOutcome] at outcomes
  simp only [List.filterMap_cons, List.filterMap_nil, silent, told] at journal
  exact Prod.ext outcomes (congrArg Journal.mk journal)

end Verifier

end SignedResponse
