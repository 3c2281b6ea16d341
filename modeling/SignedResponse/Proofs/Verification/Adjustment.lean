import Mathlib.Tactic.Common
import SignedResponse.Crypto.Ed25519
import SignedResponse.Proofs.Verification.Effects
import SignedResponse.Proofs.Verification.Judgement

/-!
Verifiers that were given keys, clocks and logs one after the other.

Of each kind the last one counts, for the verifier itself and for the check of signatures alike, and
what the settings say about the mode outlasts every key.
-/

namespace SignedResponse

inductive Adjustment (m : Type → Type) where
  | key (key : Option PublicKey)
  | clock (clock : m Instant)
  | log (log : LogRecord → m Unit)

namespace Adjustment

variable {m : Type → Type}

def key? : Adjustment m → Option (Option PublicKey)
  | .key given => some given
  | _ => none

def clock? : Adjustment m → Option (m Instant)
  | .clock given => some given
  | _ => none

def log? : Adjustment m → Option (LogRecord → m Unit)
  | .log given => some given
  | _ => none

def SameKind : Adjustment m → Adjustment m → Prop
  | .key _, .key _ | .clock _, .clock _ | .log _, .log _ => True
  | _, _ => False

/-- The last value of a kind that was given, or else the one that was there before. -/
def last {Value : Type} (pick : Adjustment m → Option Value) (adjustments : List (Adjustment m))
    (before : Value) : Value :=
  (adjustments.filterMap pick).getLast?.getD before

variable {Value : Type} (pick : Adjustment m → Option Value)

theorem last_cons (adjustment : Adjustment m) (rest : List (Adjustment m)) (before : Value) :
    last pick (adjustment :: rest) before = last pick rest ((pick adjustment).getD before) := by
  cases given : pick adjustment with
  | none => simp [last, given]
  | some value => simp [last, given, List.getLast?_cons]

end Adjustment

namespace Verifier

section Adjusted

variable {m : Type → Type}

def adjust (verifier : Verifier m) : Adjustment m → Verifier m
  | .key key => verifier.withKey key
  | .clock clock => verifier.withClock clock
  | .log log => verifier.withLog log

def adjusted (verifier : Verifier m) (adjustments : List (Adjustment m)) : Verifier m :=
  adjustments.foldl adjust verifier

theorem adjust_comm (verifier : Verifier m) {first second : Adjustment m}
    (different : ¬ first.SameKind second) :
    (verifier.adjust first).adjust second = (verifier.adjust second).adjust first := by
  cases first with
  | key given =>
      cases second with
      | key other => exact absurd trivial different
      | clock other => rfl
      | log other => rfl
  | clock given =>
      cases second with
      | key other => rfl
      | clock other => exact absurd trivial different
      | log other => rfl
  | log given =>
      cases second with
      | key other => rfl
      | clock other => rfl
      | log other => exact absurd trivial different

theorem adjusted_swap (verifier : Verifier m) {first second : Adjustment m}
    (different : ¬ first.SameKind second) (before after : List (Adjustment m)) :
    verifier.adjusted (before ++ first :: second :: after) =
      verifier.adjusted (before ++ second :: first :: after) := by
  rw [adjusted, adjusted, List.foldl_append, List.foldl_append, List.foldl_cons, List.foldl_cons,
    adjust_comm _ different]
  rfl

variable (scheme : SignatureScheme) (config : Config) (key : Option PublicKey) (host : Host m)

theorem key_with_key : ((ofConfig scheme host config).withKey key).key =
    if config.mode = .disabled then none else key := by
  cases mode : config.mode <;> simp [ofConfig, withKey, mode, Mode.isEnabled]

theorem adjust_with_key (adjustment : Adjustment m) :
    ((ofConfig scheme host config).withKey key).adjust adjustment =
      (ofConfig scheme ⟨adjustment.clock?.getD host.clock, adjustment.log?.getD host.log⟩
        config).withKey (adjustment.key?.getD key) := by
  cases adjustment with
  | key given => rfl
  | clock given => rfl
  | log given => rfl

theorem adjusted_with_key (adjustments : List (Adjustment m)) :
    ((ofConfig scheme host config).withKey key).adjusted adjustments =
      (ofConfig scheme ⟨Adjustment.last Adjustment.clock? adjustments host.clock,
        Adjustment.last Adjustment.log? adjustments host.log⟩ config).withKey
          (Adjustment.last Adjustment.key? adjustments key) := by
  -- One adjustment makes a verifier of the same form again, with another key or host.
  induction adjustments generalizing key host with
  | nil => rfl
  | cons adjustment rest induction =>
      change (((ofConfig scheme host config).withKey key).adjust adjustment).adjusted rest = _
      rw [adjust_with_key, induction, Adjustment.last_cons, Adjustment.last_cons,
        Adjustment.last_cons]

theorem adjusted_of_config (adjustments : List (Adjustment m)) :
    (ofConfig scheme host config).adjusted adjustments =
      (ofConfig scheme ⟨Adjustment.last Adjustment.clock? adjustments host.clock,
        Adjustment.last Adjustment.log? adjustments host.log⟩ config).withKey
          (Adjustment.last Adjustment.key? adjustments (some .root)) := by
  have rooted : (ofConfig scheme host config).withKey (some .root) = ofConfig scheme host config :=
    rfl
  rw [← adjusted_with_key, rooted]

end Adjusted

section Behaviour

variable {World : Type} (verifier : Verifier (StateM World)) (request : Request)
variable (response : Response) (world : World)

theorem outcome_leaves {Seen : Type} {seen : World → Seen}
    (clock : ∀ world, seen (verifier.host.clock.run world).2 = seen world)
    (log : ∀ record world, seen ((verifier.host.log record).run world).2 = seen world) :
    seen ((verifier.outcome request response).run world).2 = seen world := by
  rw [run_outcome]
  exact (Host.tell_leaves log _ _).trans (Host.ask_if_leaves clock _ world)

theorem run_of_keyless (keyless : verifier.key = none) :
    (verifier.outcome request response).run world = (.notRequested, world) ∧
      (verifier.api.verifyEnforced request response).run world =
        (.ok ⟨response, .notRequested⟩, world) := by
  have ran : (verifier.outcome request response).run world = (.notRequested, world) := by
    simp only [run_outcome, judge_of_keyless keyless, Host.askIf,
      if_neg (not_asks_time_of_keyless keyless)]
    rfl
  refine ⟨ran, ?_⟩
  rw [run_verify_enforced, ran]
  simp only [reduceCtorEq, false_and, if_false]

end Behaviour

/-- Whatever a verifier is given after it was made, and in whatever order: the last key counts if
the mode lets it have one, and the last clock and the last log count both for the verifier and for
the check of signatures. So an exchange asks that clock, if there is a certificate to compare with
the time, tells that log, and leaves alone what the two do not touch, a log that was replaced for
instance; the order of adjustments of different kinds does not matter; and nothing turns a disabled
verifier on, which does not even look at the clock. -/
theorem last_adjustments_count {World : Type} (scheme : SignatureScheme)
    (host : Host (StateM World)) (config : Config)
    (adjustments : List (Adjustment (StateM World))) :
    let verifier := (ofConfig scheme host config).adjusted adjustments
    let last : Host (StateM World) :=
      ⟨Adjustment.last Adjustment.clock? adjustments host.clock,
        Adjustment.last Adjustment.log? adjustments host.log⟩
    (verifier.key = if config.mode = .disabled then none
      else Adjustment.last Adjustment.key? adjustments (some .root)) ∧
    (verifier.host = last ∧ verifier.signing = last) ∧
    (∀ request response world,
      let asked := last.askIf (verifier.AsksTime response) world
      let judgement := verifier.judge asked.1 request response
      (verifier.outcome request response).run world =
        (judgement.outcome, last.tell asked.2 judgement.diagnostic.toList)) ∧
    (∀ (Seen : Type) (seen : World → Seen), (∀ world, seen (last.clock.run world).2 = seen world) →
      (∀ record world, seen ((last.log record).run world).2 = seen world) →
        ∀ request response world,
          seen ((verifier.outcome request response).run world).2 = seen world) ∧
    (∀ before first second after, adjustments = before ++ first :: second :: after →
      ¬ first.SameKind second →
        (ofConfig scheme host config).adjusted (before ++ second :: first :: after) = verifier) ∧
    (∀ others, Adjustment.last Adjustment.key? others (some .root) =
        Adjustment.last Adjustment.key? adjustments (some .root) →
      Adjustment.last Adjustment.clock? others host.clock = last.clock →
      Adjustment.last Adjustment.log? others host.log = last.log →
        (ofConfig scheme host config).adjusted others = verifier) ∧
    (config.mode = .disabled →
      (∀ method path nonce, (verifier.createRequest method path nonce).nonce = none) ∧
      ∀ request response world,
        (verifier.outcome request response).run world = (.notRequested, world) ∧
          (verifier.api.verifyEnforced request response).run world =
            (.ok ⟨response, .notRequested⟩, world)) := by
  intro verifier last
  have made : verifier = (ofConfig scheme last config).withKey
      (Adjustment.last Adjustment.key? adjustments (some .root)) :=
    adjusted_of_config scheme config host adjustments
  have parts : verifier.host = last := congrArg Verifier.host made
  have key := (congrArg Verifier.key made).trans (key_with_key scheme config _ last)
  refine ⟨key, ⟨parts, verifier.signing_eq.trans parts⟩, ?_, ?_, ?_, ?_, ?_⟩
  · intro request response world
    rw [← parts]
    exact verifier.run_outcome request response world
  · intro Seen seen clock log request response world
    rw [← parts] at clock log
    exact verifier.outcome_leaves request response world clock log
  · rintro before first second after rfl different
    exact (adjusted_swap _ different before after).symm
  · intro others sameKey sameClock sameLog
    rw [made, adjusted_of_config, sameKey, sameClock, sameLog]
  · intro disabled
    have keyless : verifier.key = none := key.trans (if_pos disabled)
    refine ⟨?_, ?_⟩
    · intro method path nonce
      simp only [createRequest, keyless, Option.isSome_none, Bool.false_eq_true, if_false]
    · intro request response world
      exact verifier.run_of_keyless request response world keyless

/-- A health check after the log was replaced: the failure is told to the new log alone, in whatever
order log and key were given, and in disabled mode it is no failure. -/
theorem replaced_log_stays_empty :
    let old : LogRecord → StateM (Journal × Journal) Unit :=
      fun record => modify fun world => (world.1.log record, world.2)
    let new : LogRecord → StateM (Journal × Journal) Unit :=
      fun record => modify fun world => (world.1, world.2.log record)
    let made := fun mode => ofConfig ed25519 ⟨pure .sample, old⟩ { mode }
    let key : Adjustment (StateM (Journal × Journal)) := .key (some ⟨.replicate 32 1⟩)
    let verifier := (made .informational).adjusted [.log old, key, .log new]
    let request : Request := ⟨.get, "/v1/health", some (List.replicate 12 7)⟩
    let response : Response := ⟨.ok, .empty, none⟩
    ((verifier.outcome request response).run (.empty, .empty)).2.1 = .empty ∧
      (made .informational).adjusted [key, .log old, .log new] = verifier ∧
      (made .informational).adjusted [.log new, key] = verifier ∧
      (((made .disabled).adjusted [.log old, key, .log new]).outcome request response).run
        (.empty, .empty) = (.notRequested, (.empty, .empty)) := by
  intro old new made key verifier request response
  obtain ⟨-, -, -, leaves, swaps, sameLast, -⟩ := last_adjustments_count ed25519
    ⟨pure .sample, old⟩ { mode := .informational } [.log old, key, .log new]
  obtain ⟨-, -, -, -, -, -, disabled⟩ := last_adjustments_count ed25519
    ⟨pure .sample, old⟩ { mode := .disabled } [.log old, key, .log new]
  refine ⟨?_, ?_, ?_, ?_⟩
  · exact leaves Journal Prod.fst (fun _ => rfl) (fun _ _ => rfl) request response _
  · exact swaps [] (.log old) key [.log new] rfl not_false
  · exact sameLast [.log new, key] rfl rfl rfl
  · exact ((disabled rfl).2 request response _).1

end Verifier

end SignedResponse
