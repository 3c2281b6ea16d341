import SignedResponse.Proofs.Signature.Clock
import SignedResponse.Proofs.Verification.Judgement

/-!
What a verifier does to the world it lives in: it asks the clock at most once, when a certificate
has to be compared with the time, and it tells the log what its judgement says.

The world is any state and the host any host on it, so nothing is assumed of clocks and logs.
-/

namespace SignedResponse

namespace Host

variable {World : Type}

/-- The time that the clock tells in a world, and the world after it was asked. -/
def ask (host : Host (StateM World)) (world : World) : Instant × World := host.clock.run world

/-- The same, but for a world that stays as it is unless the clock has to be asked. -/
def askIf (host : Host (StateM World)) (asks : Prop) [Decidable asks] (world : World) :
    Instant × World :=
  ((host.ask world).1, if asks then (host.ask world).2 else world)

theorem run_clock_if {Answer : Type} (host : Host (StateM World)) (asks : Prop) [Decidable asks]
    (world : World) (proceed : Instant → StateM World Answer) :
    ((if asks then host.clock else pure (host.ask world).1) >>= proceed).run world =
      (proceed (host.askIf asks world).1).run (host.askIf asks world).2 := by
  simp only [askIf]
  split_ifs
  · rfl
  · rfl

theorem ask_if_of_pinned {host : Host (StateM World)} {now : Instant}
    (pinned : host.clock = pure now) (asks : Prop) [Decidable asks] (world : World) :
    host.askIf asks world = (now, world) := by
  rw [askIf, ask, pinned]
  exact congrArg (Prod.mk now) (ite_self world)

/-- The world after the log was told these diagnostics, one after the other. -/
def tell (host : Host (StateM World)) (world : World) (records : List LogRecord) : World :=
  records.foldl (fun world record => ((host.log record).run world).2) world

theorem tell_leaves {Seen : Type} {seen : World → Seen} {host : Host (StateM World)}
    (log : ∀ record world, seen ((host.log record).run world).2 = seen world) (world : World)
    (records : List LogRecord) : seen (host.tell world records) = seen world := by
  induction records generalizing world with
  | nil => rfl
  | cons record rest induction => exact (induction _).trans (log record world)

def recording (now : Instant) : Host (StateM Journal) where
  clock := pure now
  log := fun record => modify (·.log record)

/-- A view of the world in which the log keeps what it is told, and which the clock leaves alone. -/
structure Keeps (host : Host (StateM World)) (records : World → List LogRecord) : Prop where
  ask : ∀ world, records (host.ask world).2 = records world
  log : ∀ record world, records ((host.log record).run world).2 = records world ++ [record]

theorem ask_if_leaves {Seen : Type} {seen : World → Seen} {host : Host (StateM World)}
    (clock : ∀ world, seen (host.ask world).2 = seen world) (asks : Prop) [Decidable asks]
    (world : World) : seen (host.askIf asks world).2 = seen world := by
  rw [askIf]
  split_ifs
  · exact clock world
  · rfl

theorem Keeps.tell {host : Host (StateM World)} {records : World → List LogRecord}
    (keeps : host.Keeps records) (world : World) (told : List LogRecord) :
    records (host.tell world told) = records world ++ told := by
  induction told generalizing world with
  | nil => simp [Host.tell]
  | cons record rest induction =>
      change records (host.tell ((host.log record).run world).2 rest) = _
      rw [induction, keeps.log, List.append_assoc, List.singleton_append]

theorem recording_keeps (now : Instant) : (recording now).Keeps Journal.records :=
  ⟨fun _ => rfl, fun record journal => Journal.records_log journal record⟩

theorem tell_recording (now : Instant) (journal : Journal) (records : List LogRecord) :
    (recording now).tell journal records = ⟨journal.records ++ records⟩ := by
  rw [← (recording_keeps now).tell]

end Host

theorem Judgement.run_report {World : Type} (judgement : Judgement) (host : Host (StateM World))
    (world : World) :
    (judgement.report host.log).run world =
      (judgement.outcome, host.tell world judgement.diagnostic.toList) := by
  obtain ⟨outcome, diagnostic⟩ := judgement
  cases diagnostic with
  | none => rfl
  | some record => rfl

namespace VerificationApi

variable {m : Type → Type} [Monad m] [LawfulMonad m]

def enforce (mode : Mode) (request : Request) (response : Response) (outcome : Outcome) :
    Except EnforcementError VerifiedResponse :=
  if outcome = .failed ∧ mode = .enforced then .error ⟨request⟩ else .ok ⟨response, outcome⟩

theorem verify_enforced_of_pure_mode (outcome : Request → Response → m Outcome) (mode : Mode)
    (request : Request) (response : Response) :
    (ofOutcome outcome (pure mode)).verifyEnforced request response =
      enforce mode request response <$> outcome request response := by
  simp only [ofOutcome, bind_assoc, pure_bind, map_eq_pure_bind]
  refine bind_congr fun found => ?_
  by_cases failed : found = .failed
  · by_cases enforced : mode = .enforced
    · simp only [enforce, failed, enforced, if_true, and_self]
    · simp only [enforce, failed, enforced, if_true, if_false, and_false]
  · simp only [enforce, failed, if_false, false_and]

end VerificationApi

namespace Verifier

/-- A key is in effect, and the response carries a date and a readable signature whose certificate
has to be compared with the time. -/
def AsksTime {m : Type → Type} (verifier : Verifier m) (response : Response) : Prop :=
  ∃ key ∈ verifier.key, ∃ signature ∈ response.header verifier.config.headers.signature,
    (verifier.requestDate? response).isSome ∧
      FullSignature.AsksTime verifier.scheme key signature

instance {m : Type → Type} (verifier : Verifier m) (response : Response) :
    Decidable (verifier.AsksTime response) :=
  inferInstanceAs (Decidable (∃ key ∈ verifier.key, _))

section Policy

variable {m : Type → Type} {verifier : Verifier m} {request : Request} {response : Response}

theorem asks_time_of_check {key : PublicKey} {signature : String} {parameters : Parameters}
    (ruled : verifier.rule request response = .check key signature parameters) :
    verifier.AsksTime response ↔ FullSignature.AsksTime verifier.scheme key signature := by
  obtain ⟨trusted, carried, requestDate, dated⟩ := signed_of_rule ruled
  simp [AsksTime, trusted, carried, dated]

theorem not_asks_time_of_final {judgement : Judgement}
    (ruled : verifier.rule request response = .final judgement) : ¬ verifier.AsksTime response := by
  rintro ⟨key, trusted, signature, carried, hasDate, -⟩
  obtain ⟨requestDate, dated⟩ := Option.isSome_iff_exists.mp hasDate
  rw [rule_of_signed trusted carried dated] at ruled
  cases ruled

theorem not_asks_time_of_keyless (keyless : verifier.key = none) :
    ¬ verifier.AsksTime response := by
  rintro ⟨key, trusted, -⟩
  rw [keyless] at trusted
  cases trusted

theorem outcome_eq [Monad m] [LawfulMonad m] (verifier : Verifier m) (request : Request)
    (response : Response) (now : Instant) :
    verifier.outcome request response =
      (if verifier.AsksTime response then verifier.host.clock else pure now) >>= fun now =>
        (verifier.judge now request response).report verifier.host.log := by
  cases ruled : verifier.rule request response with
  | final judgement =>
      rw [if_neg (not_asks_time_of_final ruled), pure_bind, outcome, judge, ruled]
  | check key signature parameters =>
      simp only [outcome, judge, ruled, asks_time_of_check ruled, verifier.signing_eq]
      rw [FullSignature.verify, FullSignature.run_check_by _ _ now, bind_map_left, bind_assoc]
      refine bind_congr fun now => ?_
      cases FullSignature.check verifier.scheme key now signature parameters with
      | ok => simp [Judgement.ofCheck, Judgement.report]
      | error error => simp [Judgement.ofCheck, Judgement.report]

end Policy

section Run

variable {World : Type} (verifier : Verifier (StateM World)) (request : Request)
variable (response : Response) (world : World)

/-- All effects of an outcome: the clock if it has to be asked, then the diagnostic if there is
one. -/
theorem run_outcome :
    (verifier.outcome request response).run world =
      let asked := verifier.host.askIf (verifier.AsksTime response) world
      let judgement := verifier.judge asked.1 request response
      (judgement.outcome, verifier.host.tell asked.2 judgement.diagnostic.toList) := by
  rw [verifier.outcome_eq request response (verifier.host.ask world).1,
    Host.run_clock_if]
  exact Judgement.run_report ..

theorem run_verify_enforced :
    (verifier.api.verifyEnforced request response).run world =
      let found := (verifier.outcome request response).run world
      (if found.1 = .failed ∧ verifier.config.mode = .enforced then .error ⟨request⟩
        else .ok ⟨response, found.1⟩, found.2) := by
  have enforced : verifier.api.verifyEnforced request response =
      VerificationApi.enforce verifier.config.mode request response <$>
        verifier.outcome request response :=
    VerificationApi.verify_enforced_of_pure_mode _ _ request response
  rw [enforced, StateT.run_map]
  rfl

end Run

end Verifier

end SignedResponse
