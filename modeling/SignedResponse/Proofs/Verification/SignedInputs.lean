import Mathlib.Logic.Relation
import SignedResponse.Crypto.Ed25519
import SignedResponse.Proofs.Http.HeaderLookup
import SignedResponse.Proofs.Signature.Binding
import SignedResponse.Proofs.Text.Decimal
import SignedResponse.Proofs.Verification.Effects
import SignedResponse.Proofs.Verification.Judgement

/-!
What an outcome depends on: the nonce, the signature, the number in the date header, the bytes of
the entity tag and those of the message.

Two exchanges that agree on these end alike, whatever else they are made of. So nothing that a
signature does not cover has a say, and it can be told what may happen to an exchange on its way
without being seen.
-/

namespace SignedResponse

namespace FullSignature

theorem check_of_same_bytes {scheme : SignatureScheme} {root : PublicKey} {now : Instant}
    {text : String} {left right : Parameters} (same : left.bytes = right.bytes) :
    check scheme root now text left = check scheme root now text right := by
  have messages : left.signedMessage = right.signedMessage := by
    funext salt
    rw [Parameters.signedMessage, Parameters.signedMessage, same]
  cases read : ofBase64 text with
  | error error => rw [check_of_unread read, check_of_unread read]
  | ok signature =>
      have payloads : signature.checkPayload scheme left = signature.checkPayload scheme right := by
        funext key
        rw [checkPayload, checkPayload, messages]
      rw [check_of_read read, check_of_read read, payloads]

end FullSignature

/-- The same diagnostic, but for the request that it names. -/
inductive SameButName (first second : Request) : Option LogRecord → Option LogRecord → Prop
  | same (diagnostic : Option LogRecord) : SameButName first second diagnostic diagnostic
  | named (level : Level) (reason : String) :
      SameButName first second (some ⟨level, reason ++ (first.method.text ++ " " ++ first.path)⟩)
        (some ⟨level, reason ++ (second.method.text ++ " " ++ second.path)⟩)

namespace Verifier

section Inputs

variable {m : Type → Type} {verifier : Verifier m}

/-- The exchanges agree on all that a signature is about. An absent tag or message is an empty one,
and a response that says that nothing was modified has no message. -/
structure SameInputs (verifier : Verifier m) (first second : Request × Response) : Prop where
  nonce : first.1.nonce = second.1.nonce
  signature : first.2.header verifier.config.headers.signature =
    second.2.header verifier.config.headers.signature
  requestDate : verifier.requestDate? first.2 = verifier.requestDate? second.2
  etag : ((first.2.header verifier.config.headers.etag).map Utf8.encode).getD [] =
    ((second.2.header verifier.config.headers.etag).map Utf8.encode).getD []
  message : (if first.2.status = .notModified then none else first.2.body).getD [] =
    (if second.2.status = .notModified then none else second.2.body).getD []

namespace SameInputs

variable {first second third : Request × Response}

theorem refl (exchange : Request × Response) : verifier.SameInputs exchange exchange :=
  ⟨rfl, rfl, rfl, rfl, rfl⟩

theorem trans (left : verifier.SameInputs first second) (right : verifier.SameInputs second third) :
    verifier.SameInputs first third where
  nonce := left.nonce.trans right.nonce
  signature := left.signature.trans right.signature
  requestDate := left.requestDate.trans right.requestDate
  etag := left.etag.trans right.etag
  message := left.message.trans right.message

theorem same_bytes (same : verifier.SameInputs first second) (requestDate : UInt64) :
    (verifier.signedParameters first.1 first.2 requestDate).bytes =
      (verifier.signedParameters second.1 second.2 requestDate).bytes :=
  Parameters.bytes_eq_of_same_fields same.nonce rfl same.etag same.message

/-- Exchanges with the same inputs have the same outcome and, but for the name of the request, the
same diagnostic. -/
theorem judge_alike (same : verifier.SameInputs first second) (now : Instant) :
    (verifier.judge now first.1 first.2).outcome = (verifier.judge now second.1 second.2).outcome ∧
      SameButName first.1 second.1 (verifier.judge now first.1 first.2).diagnostic
        (verifier.judge now second.1 second.2).diagnostic := by
  -- Both exchanges take the same way through the policy, and only the policy names the request.
  cases trusted : verifier.key with
  | none =>
      rw [judge_of_keyless trusted, judge_of_keyless trusted]
      exact ⟨rfl, .same none⟩
  | some key =>
      cases carried : second.2.header verifier.config.headers.signature with
      | none =>
          have absent := same.signature.trans carried
          rw [judge_of_unsigned trusted absent, judge_of_unsigned trusted carried, same.nonce]
          split_ifs
          · exact ⟨rfl, .named .warn "Signature was requested but not provided: "⟩
          · exact ⟨rfl, .same none⟩
      | some signature =>
          have alsoCarried := same.signature.trans carried
          cases dated : verifier.requestDate? second.2 with
          | none =>
              have undated := same.requestDate.trans dated
              rw [judge_of_undated trusted alsoCarried undated,
                judge_of_undated trusted carried dated]
              exact ⟨rfl, .named .warn "Request date missing or invalid in response headers: "⟩
          | some requestDate =>
              have alsoDated := same.requestDate.trans dated
              rw [judge_of_signed trusted alsoCarried alsoDated,
                judge_of_signed trusted carried dated,
                FullSignature.check_of_same_bytes (same.same_bytes requestDate)]
              exact ⟨rfl, .same _⟩

end SameInputs

def readNames (verifier : Verifier m) : List String :=
  [verifier.config.headers.signature, verifier.config.headers.requestDate,
    verifier.config.headers.etag]

theorem SameInputs.of_headers (request : Request) (response : Response) (headers : Headers)
    (read : ∀ text ∈ verifier.readNames, headers.text? text = response.headers.text? text) :
    verifier.SameInputs (request, response) (request, { response with headers }) := by
  simp only [readNames, List.mem_cons, List.not_mem_nil, or_false, forall_eq_or_imp,
    forall_eq] at read
  obtain ⟨signature, requestDate, etag⟩ := read
  constructor
  · rfl
  · exact signature.symm
  · simp only [requestDate?, Response.header, requestDate]
  · simp only [Response.header, etag]
  · rfl

/-- What can happen to an exchange without a signature being about it. -/
inductive Change (verifier : Verifier m) : Request × Response → Request × Response → Prop
  | address (request response method path) :
      Change verifier (request, response) ({ request with method, path }, response)
  | unrelated (request response name headers)
      (unread : ∀ text ∈ verifier.readNames, HeaderName.ofText text ≠ .ok name)
      (elsewhere : ∀ other, other ≠ name → headers.values other = response.headers.values other) :
      Change verifier (request, response) (request, { response with headers })
  | appended (request response text name value) (named : HeaderName.ofText text = .ok name)
      (present : response.headers.valuesOf text ≠ []) :
      Change verifier (request, response)
        (request, { response with headers := response.headers.append name value })
  | hidden (request response text name) (named : HeaderName.ofText text = .ok name)
      (unreadable : response.header text = none) :
      Change verifier (request, response)
        (request, { response with headers := response.headers.remove name })
  | respelled (request response headers number dateText otherText)
      (signature : headers.text? verifier.config.headers.signature =
        response.header verifier.config.headers.signature)
      (etag : headers.text? verifier.config.headers.etag =
        response.header verifier.config.headers.etag)
      (date : response.header verifier.config.headers.requestDate = some dateText)
      (otherDate : headers.text? verifier.config.headers.requestDate = some otherText)
      (spells : Decimal.Spells number dateText.toList)
      (otherSpells : Decimal.Spells number otherText.toList) :
      Change verifier (request, response) (request, { response with headers })
  | status (request response status)
      (kept : (if status = .notModified then none else response.body).getD [] =
        (if response.status = .notModified then none else response.body).getD []) :
      Change verifier (request, response) (request, { response with status })
  | strayBody (request response body) (notModified : response.status = .notModified) :
      Change verifier (request, response) (request, { response with body })

theorem request_date_of_spells {response : Response} {number : Nat} {text : String}
    (date : response.header verifier.config.headers.requestDate = some text)
    (spells : Decimal.Spells number text.toList) :
    verifier.requestDate? response =
      (if number < UInt64.size then some number else none).map UInt64.ofNat := by
  rw [request_date_eq_bind, date, Option.bind_some,
    Decimal.read_trim_of_spells (by decide) spells]

theorem Change.same_inputs {first second : Request × Response}
    (change : verifier.Change first second) : verifier.SameInputs first second := by
  cases change with
  | address request response method path => exact ⟨rfl, rfl, rfl, rfl, rfl⟩
  | unrelated request response name headers unread elsewhere =>
      apply SameInputs.of_headers
      intro text member
      exact Headers.text_of_elsewhere (unread text member) elsewhere
  | appended request response text name value named present =>
      apply SameInputs.of_headers
      intro other _
      rw [Headers.values_of_of_named named] at present
      exact Headers.text_append_of_present value present
  | hidden request response text name named unreadable =>
      apply SameInputs.of_headers
      intro other _
      rw [Response.header, Headers.text?, Headers.values_of_of_named named] at unreadable
      exact Headers.text_remove_of_unreadable unreadable
  | respelled request response headers number dateText otherText signature etag date otherDate
      spells otherSpells =>
      have read : verifier.requestDate? { response with headers } = _ :=
        request_date_of_spells otherDate otherSpells
      constructor
      · rfl
      · exact signature.symm
      · rw [request_date_of_spells date spells, read]
      · exact congrArg (fun tag => (tag.map Utf8.encode).getD []) etag.symm
      · rfl
  | status request response status kept => exact ⟨rfl, rfl, rfl, rfl, kept.symm⟩
  | strayBody request response body notModified =>
      refine ⟨rfl, rfl, rfl, rfl, ?_⟩
      simp only [notModified, if_true]

theorem same_inputs_of_changes {first second : Request × Response}
    (changes : Relation.ReflTransGen verifier.Change first second) :
    verifier.SameInputs first second := by
  induction changes with
  | refl => exact .refl first
  | tail _ change induction => exact induction.trans change.same_inputs

def withNames (verifier : Verifier m) (names : HeaderNames) : Verifier m :=
  { verifier with config := { verifier.config with headers := names } }

theorem judge_of_same_letters (verifier : Verifier m) {names : HeaderNames}
    (signature : SameLetters names.signature verifier.config.headers.signature)
    (requestDate : SameLetters names.requestDate verifier.config.headers.requestDate)
    (etag : SameLetters names.etag verifier.config.headers.etag) (now : Instant)
    (request : Request) (response : Response) :
    (verifier.withNames names).judge now request response =
      verifier.judge now request response := by
  simp only [judge, rule, parameters?, requestDate?, withNames, Response.header,
    Headers.text_of_same_letters signature, Headers.text_of_same_letters requestDate,
    Headers.text_of_same_letters etag]

end Inputs

section Runs

variable {World : Type} {verifier : Verifier (StateM World)}

/-- In whatever worlds the exchanges take place, their outcomes are the same and so is, but for the
name of the request, what the log is told. -/
def RunAlike (verifier : Verifier (StateM World)) (first second : Request × Response) : Prop :=
  ∀ world other, ∃ outcome told retold,
    (verifier.outcome first.1 first.2).run world =
        (outcome, verifier.host.tell world (Option.toList told)) ∧
      (verifier.outcome second.1 second.2).run other =
        (outcome, verifier.host.tell other (Option.toList retold)) ∧
      SameButName first.1 second.1 told retold

theorem run_of_pinned {now : Instant} (pinned : verifier.host.clock = pure now)
    (request : Request) (response : Response) (world : World) :
    (verifier.outcome request response).run world =
      ((verifier.judge now request response).outcome,
        verifier.host.tell world (verifier.judge now request response).diagnostic.toList) := by
  rw [run_outcome, Host.ask_if_of_pinned pinned]

theorem SameInputs.run_alike {now : Instant} (pinned : verifier.host.clock = pure now)
    {first second : Request × Response} (same : verifier.SameInputs first second) :
    verifier.RunAlike first second := by
  intro world other
  obtain ⟨outcomes, diagnostics⟩ := same.judge_alike now
  refine ⟨_, _, _, run_of_pinned pinned first.1 first.2 world, ?_, diagnostics⟩
  rw [run_of_pinned pinned, outcomes]

end Runs

/-- With the clock pinned, exchanges that agree on what a signature is about have the same outcome
and are told of alike. So no sequence of changes that a signature is not about is ever noticed; a
header is found under its name in any letter case; and an unreadable first value hides the others
of its name. -/
theorem only_signed_inputs_matter {World : Type} (verifier : Verifier (StateM World))
    (now : Instant) (pinned : verifier.host.clock = pure now) :
    (∀ first second, verifier.SameInputs first second → verifier.RunAlike first second) ∧
    (∀ first second, Relation.ReflTransGen verifier.Change first second →
      verifier.RunAlike first second) ∧
    (∀ left right, SameLetters left right → HeaderName.ofText left = HeaderName.ofText right ∧
      ∀ response : Response, response.header left = response.header right) ∧
    (∀ names : HeaderNames, SameLetters names.signature verifier.config.headers.signature →
      SameLetters names.requestDate verifier.config.headers.requestDate →
      SameLetters names.etag verifier.config.headers.etag →
        ∀ request response world,
          ((verifier.withNames names).outcome request response).run world =
            (verifier.outcome request response).run world) ∧
    ∀ (response : Response) (text : String) (first : HeaderValue) (rest : List HeaderValue),
      response.headers.valuesOf text = first :: rest → first.text? = none →
        response.header text = none := by
  refine ⟨?_, ?_, ?_, ?_, ?_⟩
  · intro first second same
    exact same.run_alike pinned
  · intro first second changes
    exact (same_inputs_of_changes changes).run_alike pinned
  · intro left right same
    exact ⟨HeaderName.of_text_of_same_letters same, fun _ => Headers.text_of_same_letters same⟩
  · intro names signature requestDate etag request response world
    have pinnedToo : (verifier.withNames names).host.clock = pure now := pinned
    rw [run_of_pinned pinnedToo, run_of_pinned pinned,
      judge_of_same_letters verifier signature requestDate etag]
    rfl
  · intro response text first rest values unreadable
    exact Headers.text_of_unreadable_first values unreadable

/-- A health check with a garbled signature. Its path, the way its date is written and an empty body
make no difference, and neither does a second signature in capitals, names in small letters or what
follows an unreadable tag. -/
theorem health_check_runs_alike :
    let verifier := ofConfig ed25519 (.recording .sample) {}
    let signatureName : HeaderName :=
      ⟨⟨"x-signature".toList, by decide, by decide⟩, by decide, by decide⟩
    let dateName : HeaderName :=
      ⟨⟨"x-revenuecat-request-time".toList, by decide, by decide⟩, by decide, by decide⟩
    let signed := Headers.empty.append signatureName ⟨[0x21], by decide⟩
    let nonce := some (List.replicate 12 7)
    let first : Request × Response :=
      (⟨.get, "/v1/health", nonce⟩, ⟨.ok, signed.append dateName ⟨[0x37], by decide⟩, none⟩)
    let second : Request × Response :=
      (⟨.get, "/v2", nonce⟩,
        ⟨.ok, signed.append dateName ⟨[0x20, 0x2B, 0x30, 0x37, 0x09], by decide⟩, some []⟩)
    let third : Request × Response :=
      (⟨.get, "/v2", nonce⟩,
        { first.2 with headers := first.2.headers.append signatureName ⟨[0x22], by decide⟩ })
    let unreadable : Headers := ⟨[(signatureName, ⟨[0xFF], by decide⟩),
      (signatureName, ⟨[0x21], by decide⟩)]⟩
    verifier.RunAlike first second ∧ verifier.RunAlike first third ∧
      (⟨.ok, unreadable, none⟩ : Response).header "X-SIGNATURE" = none ∧
      ((verifier.withNames ⟨"x-signature", "x-revenuecat-request-time", "x-revenuecat-etag",
        "x-nonce"⟩).outcome first.1 first.2).run .empty =
          (verifier.outcome first.1 first.2).run .empty := by
  intro verifier signatureName dateName signed nonce first second third unreadable
  obtain ⟨alike, changed, -, renamed, hidden⟩ :=
    only_signed_inputs_matter verifier .sample rfl
  refine ⟨?_, ?_, ?_, ?_⟩
  · apply alike
    constructor <;> decide
  · apply changed
    have moved : verifier.Change first (⟨.get, "/v2", nonce⟩, first.2) :=
      .address _ _ .get "/v2"
    have signedTwice : verifier.Change (⟨.get, "/v2", nonce⟩, first.2) third :=
      .appended _ _ "X-SIGNATURE" signatureName ⟨[0x22], by decide⟩ (by decide) (by decide)
    exact .tail (.single moved) signedTwice
  · exact hidden ⟨.ok, unreadable, none⟩ "X-SIGNATURE" _ _ rfl (by decide)
  · exact renamed _ (by decide) (by decide) (by decide) _ _ _

end Verifier

end SignedResponse
