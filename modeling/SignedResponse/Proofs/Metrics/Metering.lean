import Mathlib.Algebra.Ring.Nat
import Mathlib.Tactic.Common
import SignedResponse.Crypto.Ed25519
import SignedResponse.Metrics.Metered
import SignedResponse.Proofs.Verification.Effects

/-!
Measuring a verification changes nothing but the metrics, and counts each call once.

The world is whatever the verification that is measured reads and writes, its log included. The
stopwatch has a state of its own, so reading it is an effect that the world does not see.
-/

namespace SignedResponse

inductive Entry where
  | outcome
  | verify
  | verifyEnforced
deriving DecidableEq

inductive Answer where
  | plain (outcome : Outcome)
  | verified (response : VerifiedResponse)
  | enforced (result : Except EnforcementError VerifiedResponse)

def Answer.outcome : Answer → Outcome
  | .plain outcome => outcome
  | .verified response => response.outcome
  | .enforced (.ok response) => response.outcome
  | .enforced (.error _) => .failed

structure Call where
  entry : Entry
  request : Request
  response : Response

namespace Call

variable {m n : Type → Type} [Monad m] [Monad n]

def ask (api : VerificationApi m) (call : Call) : m Answer :=
  match call.entry with
  | .outcome => .plain <$> api.outcome call.request call.response
  | .verify => .verified <$> api.verify call.request call.response
  | .verifyEnforced => .enforced <$> api.verifyEnforced call.request call.response

/-- What a service with nothing of its own makes of an outcome on the way out. -/
def finish (call : Call) (mode : m Mode) : Outcome → m Answer :=
  match call.entry with
  | .outcome => fun outcome => pure (.plain outcome)
  | .verify => fun outcome => pure (.verified ⟨call.response, outcome⟩)
  | .verifyEnforced => fun outcome =>
      if outcome = .failed then
        (fun mode => .enforced (if mode = .enforced then .error ⟨call.request⟩
          else .ok ⟨call.response, outcome⟩)) <$> mode
      else pure (.enforced (.ok ⟨call.response, outcome⟩))

theorem ask_of_outcome [LawfulMonad m] (outcome : Request → Response → m Outcome) (mode : m Mode)
    (call : Call) :
    call.ask (.ofOutcome outcome mode) =
      outcome call.request call.response >>= call.finish mode := by
  obtain ⟨entry, request, response⟩ := call
  cases entry with
  | outcome =>
      simp only [ask, finish, VerificationApi.ofOutcome, map_eq_pure_bind]
  | verify =>
      simp only [ask, finish, VerificationApi.ofOutcome, map_eq_pure_bind, bind_assoc, pure_bind]
  | verifyEnforced =>
      simp only [ask, finish, VerificationApi.ofOutcome, map_eq_pure_bind, bind_assoc, pure_bind]
      refine bind_congr fun found => ?_
      split_ifs
      · rw [bind_assoc]
        refine bind_congr fun mode => ?_
        split_ifs
        · exact pure_bind _ _
        · exact pure_bind _ _
      · exact pure_bind _ _

end Call

structure MeteredCall extends Call where
  isMetered : Bool

/-- The outcomes that are to be counted for calls with these answers. -/
def MeteredCall.measured (calls : List MeteredCall) (answers : List Answer) : List Outcome :=
  (List.zipWith (fun call answer => if call.isMetered then [answer.outcome] else [])
    calls answers).flatten

theorem Outcome.sum_count (outcomes : List Outcome) :
    (Outcome.all.map (outcomes.count ·)).sum = outcomes.length := by
  induction outcomes with
  | nil => rfl
  | cons outcome rest induction =>
      simp only [Outcome.all, List.map_cons, List.map_nil, List.sum_cons, List.sum_nil] at induction
      cases outcome <;> simp [Outcome.all, List.count_cons] <;> omega

/-- Between two states of the metrics these outcomes were counted and timed, and nothing else. -/
structure Metrics.Gains (before after : Metrics) (outcomes : List Outcome) : Prop where
  counts : ∀ outcome, after.count outcome = before.count outcome + outcomes.count outcome
  samples : after.duration.count = before.duration.count + outcomes.length
  idle : outcomes = [] → after = before

namespace Metrics.Gains

theorem nothing (metrics : Metrics) : metrics.Gains metrics [] :=
  ⟨fun _ => rfl, rfl, fun _ => rfl⟩

theorem one (metrics : Metrics) (outcome : Outcome) (elapsed : Nat) :
    metrics.Gains ((metrics.increment outcome).observe elapsed) [outcome] where
  counts := by
    intro other
    change (metrics.increment outcome).count other = _
    rw [count_increment]
    by_cases same : other = outcome
    · simp [same]
    · simp [same, Ne.symm same]
  samples := rfl
  idle := nofun

theorem append {before between after : Metrics} {first second : List Outcome}
    (left : before.Gains between first) (right : between.Gains after second) :
    before.Gains after (first ++ second) where
  counts := by
    intro outcome
    rw [right.counts, left.counts, List.count_append, Nat.add_assoc]
  samples := by rw [right.samples, left.samples, List.length_append, Nat.add_assoc]
  idle := by
    intro none
    obtain ⟨noFirst, noSecond⟩ := List.append_eq_nil_iff.mp none
    rw [right.idle noSecond, left.idle noFirst]

theorem total {before after : Metrics} {outcomes : List Outcome}
    (gained : before.Gains after outcomes) :
    (Outcome.all.map after.count).sum =
      (Outcome.all.map before.count).sum + outcomes.length := by
  rw [← Outcome.sum_count]
  simp only [Outcome.all, List.map_cons, List.map_nil, List.sum_cons, List.sum_nil, gained.counts]
  omega

end Metrics.Gains

namespace VerificationApi

variable {World Ticks : Type}

def runFrom {α : Type} (program : StateT Metrics (StateT Ticks (StateM World)) α)
    (metrics : Metrics) (ticks : Ticks) (world : World) : ((α × Metrics) × Ticks) × World :=
  ((program.run metrics).run ticks).run world

theorem run_from_bind {α β : Type} (program : StateT Metrics (StateT Ticks (StateM World)) α)
    (next : α → StateT Metrics (StateT Ticks (StateM World)) β) (metrics : Metrics) (ticks : Ticks)
    (world : World) :
    runFrom (program >>= next) metrics ticks world =
      let ran := runFrom program metrics ticks world
      runFrom (next ran.1.1.1) ran.1.1.2 ran.1.2 ran.2 :=
  rfl

/-- The metered verification, measured with a stopwatch that nothing else sees. What is measured
does not know of the metrics. -/
def meteredApart (api : VerificationApi (StateM World)) (stopwatch : StateM Ticks Nat) :
    VerificationApi (StateT Metrics (StateT Ticks (StateM World))) :=
  api.lift.metered (modifyGetThe Ticks stopwatch.run)

def plain (api : VerificationApi (StateM World)) : VerificationApi (StateM World) :=
  .ofOutcome api.outcome api.mode

variable (api : VerificationApi (StateM World)) (stopwatch : StateM Ticks Nat)

def askMetered (call : MeteredCall) : StateT Metrics (StateT Ticks (StateM World)) Answer :=
  if call.isMetered then call.ask (api.meteredApart stopwatch) else liftM (call.ask api)

def askBare (call : MeteredCall) : StateM World Answer :=
  if call.isMetered then call.ask api.plain else call.ask api

theorem run_finish (call : Call) (mode : StateM World Mode) (outcome : Outcome) (metrics : Metrics)
    (ticks : Ticks) (world : World) :
    let finished := (call.finish mode outcome).run world
    finished.1.outcome = outcome ∧
      runFrom (call.finish (liftM mode) outcome) metrics ticks world =
        (((finished.1, metrics), ticks), finished.2) := by
  obtain ⟨entry, request, response⟩ := call
  cases entry with
  | outcome => exact ⟨rfl, rfl⟩
  | verify => exact ⟨rfl, rfl⟩
  | verifyEnforced =>
      by_cases failed : outcome = .failed
      · simp only [Call.finish, if_pos failed]
        refine ⟨?_, rfl⟩
        change Answer.outcome (.enforced (if (mode.run world).1 = .enforced then .error ⟨request⟩
          else .ok ⟨response, outcome⟩)) = outcome
        split_ifs
        · exact failed.symm
        · rfl
      · simp only [Call.finish, if_neg failed]
        exact ⟨rfl, rfl⟩

theorem run_from_metered_apart (call : Call) (metrics : Metrics) (ticks : Ticks) (world : World) :
    let answered := (call.ask api.plain).run world
    ∃ elapsed later,
      runFrom (call.ask (api.meteredApart stopwatch)) metrics ticks world =
        (((answered.1, (metrics.increment answered.1.outcome).observe elapsed), later),
          answered.2) := by
  dsimp only
  have bare : call.ask api.plain =
      api.outcome call.request call.response >>= call.finish api.mode :=
    call.ask_of_outcome _ _
  have metered : call.ask (api.meteredApart stopwatch) =
      (api.meteredApart stopwatch).outcome call.request call.response >>=
        call.finish (liftM api.mode) :=
    call.ask_of_outcome _ _
  let started := stopwatch.run ticks
  let found := (api.outcome call.request call.response).run world
  let stopped := stopwatch.run started.2
  have measured : runFrom ((api.meteredApart stopwatch).outcome call.request call.response) metrics
      ticks world = (((found.1, (metrics.increment found.1).observe (stopped.1 - started.1)),
        stopped.2), found.2) := rfl
  have bareRan : (call.ask api.plain).run world = (call.finish api.mode found.1).run found.2 := by
    rw [bare]
    rfl
  obtain ⟨told, finished⟩ := run_finish call api.mode found.1
    ((metrics.increment found.1).observe (stopped.1 - started.1)) stopped.2 found.2
  refine ⟨stopped.1 - started.1, stopped.2, ?_⟩
  rw [metered, run_from_bind, measured, bareRan, told]
  exact finished

theorem run_from_ask_metered (call : MeteredCall) (metrics : Metrics) (ticks : Ticks)
    (world : World) :
    let answered := (api.askBare call).run world
    ∃ after later,
      runFrom (api.askMetered stopwatch call) metrics ticks world =
        (((answered.1, after), later), answered.2) ∧
      metrics.Gains after (if call.isMetered then [answered.1.outcome] else []) := by
  intro answered
  obtain ⟨call, isMetered⟩ := call
  cases isMetered with
  | false => exact ⟨metrics, ticks, rfl, .nothing metrics⟩
  | true =>
      obtain ⟨elapsed, later, ran⟩ :=
        api.run_from_metered_apart stopwatch call metrics ticks world
      exact ⟨_, later, ran, .one metrics _ elapsed⟩

/-- A run leaves the world that the bare calls leave, with the same answers. -/
theorem run_from_ask_metered_all (calls : List MeteredCall) (metrics : Metrics) (ticks : Ticks)
    (world : World) :
    let bare := (calls.mapM api.askBare).run world
    ∃ after later,
      runFrom (calls.mapM (api.askMetered stopwatch)) metrics ticks world =
        (((bare.1, after), later), bare.2) ∧
      metrics.Gains after (MeteredCall.measured calls bare.1) := by
  induction calls generalizing metrics ticks world with
  | nil => exact ⟨metrics, ticks, rfl, .nothing metrics⟩
  | cons call rest induction =>
      obtain ⟨between, middle, first, gained⟩ :=
        api.run_from_ask_metered stopwatch call metrics ticks world
      obtain ⟨after, later, others, gainedLater⟩ :=
        induction between middle ((api.askBare call).run world).2
      rw [List.mapM_cons, List.mapM_cons]
      refine ⟨after, later, ?_, gained.append gainedLater⟩
      rw [run_from_bind, first]
      dsimp only
      rw [run_from_bind, others]
      rfl

theorem length_measured (calls : List MeteredCall) (world : World) :
    (MeteredCall.measured calls ((calls.mapM api.askBare).run world).1).length =
      calls.countP (·.isMetered) := by
  induction calls generalizing world with
  | nil => rfl
  | cons call rest induction =>
      rw [List.mapM_cons]
      let answered := (api.askBare call).run world
      change ((if call.isMetered then [answered.1.outcome] else []) ++
        MeteredCall.measured rest ((rest.mapM api.askBare).run answered.2).1).length = _
      rw [List.length_append, induction, List.countP_cons, Nat.add_comm]
      cases call.isMetered with
      | false => rfl
      | true => rfl

theorem ask_bare_of_plain (own : api = api.plain) (call : MeteredCall) :
    api.askBare call = call.ask api := by
  rw [askBare, ← own, ite_self]

/-- Let a verification be measured that does not measure itself, and let any calls be made one after
the other, some of them past the metered verification. Each metered call has the answer that is
made of the outcome and the mode of the bare verification in its place, and so the answer of the
bare verification if that has nothing else of its own; and the world, its log included, is left as
these calls leave it. The counter of each outcome has grown by the number of metered calls that had
this outcome, also those whose answer is an error, and the durations by one for each metered call.
Calls that go past the metered verification leave all metrics alone. -/
theorem metering_is_transparent_and_exact (calls : List MeteredCall) (metrics : Metrics)
    (ticks : Ticks) (world : World) :
    let run := runFrom (calls.mapM (api.askMetered stopwatch)) metrics ticks world
    let bare := (calls.mapM api.askBare).run world
    let after := run.1.1.2
    let metered := calls.countP (·.isMetered)
    runFrom (api.meteredApart stopwatch).mode metrics ticks world =
        ((((api.mode.run world).1, metrics), ticks), (api.mode.run world).2) ∧
      run.1.1.1 = bare.1 ∧ run.2 = bare.2 ∧
      (api = api.plain → bare = (calls.mapM fun call : MeteredCall => call.ask api).run world) ∧
      (∀ outcome, after.count outcome =
        metrics.count outcome + (MeteredCall.measured calls bare.1).count outcome) ∧
      after.duration.count = metrics.duration.count + metered ∧
      (Outcome.all.map after.count).sum = (Outcome.all.map metrics.count).sum + metered ∧
      (metered = 0 → after = metrics) := by
  intro run bare after metered
  obtain ⟨found, later, ran, gained⟩ :=
    api.run_from_ask_metered_all stopwatch calls metrics ticks world
  have length : (MeteredCall.measured calls bare.1).length = metered :=
    api.length_measured calls world
  have same : after = found := congrArg (·.1.1.2) ran
  rw [same]
  refine ⟨rfl, congrArg (·.1.1.1) ran, congrArg (·.2) ran, ?_, gained.counts, ?_, ?_, ?_⟩
  · intro own
    have alike : api.askBare = fun call : MeteredCall => call.ask api :=
      funext (api.ask_bare_of_plain own)
    rw [← alike]
  · rw [← length]
    exact gained.samples
  · rw [← length]
    exact gained.total
  · intro none
    rw [none] at length
    exact gained.idle (List.length_eq_zero_iff.mp length)

/-- Three health checks in enforced mode: one that asked for a signature and gets none, one that did
not ask, and the first one again without being metered. -/
theorem health_checks_counted :
    let api := (Verifier.ofConfig ed25519 (.recording .sample) { mode := .enforced }).api
    let stopwatch : StateM Nat Nat := modifyGet fun ticks => (ticks, ticks + 5)
    let asked : Request := ⟨.get, "/v1/health", some (List.replicate 12 7)⟩
    let response : Response := ⟨.ok, .empty, some [0x22, 0x22]⟩
    let calls : List MeteredCall :=
      [⟨⟨.verifyEnforced, asked, response⟩, true⟩,
        ⟨⟨.verify, { asked with nonce := none }, response⟩, true⟩,
        ⟨⟨.verifyEnforced, asked, response⟩, false⟩]
    let run := runFrom (calls.mapM (api.askMetered stopwatch)) .empty 0 .empty
    run.1.1.1 = ((calls.mapM fun call : MeteredCall => call.ask api).run .empty).1 ∧
      run.1.1.2.count .failed = 1 ∧ run.1.1.2.count .notRequested = 1 ∧
        run.1.1.2.duration.count = 2 ∧ run.2.records.length = 2 := by
  intro api stopwatch asked response calls run
  obtain ⟨-, answers, world, alike, counts, samples, -, -⟩ :=
    api.metering_is_transparent_and_exact stopwatch calls .empty 0 .empty
  refine ⟨answers.trans (congrArg Prod.fst (alike rfl)), (counts .failed).trans (by decide),
    (counts .notRequested).trans (by decide), samples, ?_⟩
  rw [show run.2 = _ from world]
  decide

/-- Who measures a verification that measures itself counts each outcome twice, and a call past the
outer meter is still counted; a duration that is observed between two calls belongs to no outcome;
and an answer that the verification has of its own is lost behind a meter. -/
theorem shared_metrics_count_twice :
    let bare : VerificationApi (StateM Journal) :=
      (Verifier.ofConfig ed25519 (.recording .sample) {}).api
    let request : Request := ⟨.get, "/v1/health", none⟩
    let response : Response := ⟨.ok, .empty, none⟩
    let ticking : StateM Nat Nat := modifyGet fun ticks => (ticks, ticks + 5)
    let stopwatch : StateT Metrics (StateT Nat (StateM Journal)) Nat :=
      modifyGetThe Nat ticking.run
    let inner := bare.meteredApart ticking
    let outer := inner.metered stopwatch
    let measured (program : StateT Metrics (StateT Nat (StateM Journal)) Outcome) :=
      let metrics := (runFrom program .empty 0 .empty).1.1.2
      ((Outcome.all.map metrics.count).sum, metrics.duration.count)
    let own : VerificationApi (StateM Journal) :=
      { bare with verify := fun _ response => pure ⟨response, .verified⟩ }
    measured (outer.outcome request response) = (2, 2) ∧
      measured (inner.outcome request response) = (1, 1) ∧
      measured (do
        let _ ← inner.outcome request response
        Metrics.timed stopwatch (pure ())
        inner.outcome request response) = (2, 3) ∧
      ((own.verify request response).run .empty).1.outcome = .verified ∧
      (runFrom ((own.meteredApart ticking).verify request response)
        .empty 0 .empty).1.1.1.outcome = .notRequested := by
  decide

end VerificationApi

end SignedResponse
