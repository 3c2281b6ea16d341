import SignedResponse.Capture.Exchange
import SignedResponse.Proofs.Http.RequestNonce

/-!
The request of a captured exchange, and its nonce there and back.

A capture has a request when its method is one and its nonce is the base64 of some bytes. These are
the texts that the request sends, so what was sent is captured as the request that it was.
-/

namespace SignedResponse.Capture

variable {capture : Capture} {request : Request}

/-- The capture has the method and the path of the request, and the text of its nonce. -/
structure IsOf (capture : Capture) (request : Request) : Prop where
  method : capture.method = request.method.text
  path : capture.path = request.path
  nonce : capture.nonce = request.nonce.map Base64.encodeText

theorem request_of_method {method : Method} (named : method.text = capture.method) :
    capture.request =
      match capture.nonce with
      | none => .ok { method, path := capture.path, nonce := none }
      | some text =>
          match Base64.decodeText text with
          | some bytes => .ok { method, path := capture.path, nonce := some bytes }
          | none => .error .nonce := by
  rw [Capture.request, Method.of_text_eq_ok_iff.mpr named]
  cases capture.nonce with
  | none => rfl
  | some text =>
      dsimp only
      cases Base64.decodeText text <;> rfl

theorem request_of_no_method (refused : ∀ method : Method, method.text ≠ capture.method) :
    capture.request = .error (.method capture.method) := by
  rw [Capture.request, Method.of_text_eq_error refused]
  rfl

theorem request_of_no_nonce {method : Method} {text : String} (named : method.text = capture.method)
    (given : capture.nonce = some text) (refused : ∀ bytes, Base64.encodeText bytes ≠ text) :
    capture.request = .error .nonce := by
  rw [request_of_method named, given]
  dsimp only
  cases read : Base64.decodeText text with
  | none => rfl
  | some bytes => exact absurd (Base64.decode_text_eq_some_iff.mp read).symm (refused bytes)

theorem request_eq_ok_iff : capture.request = .ok request ↔ capture.IsOf request := by
  constructor
  · intro read
    by_cases named : ∃ method : Method, method.text = capture.method
    · obtain ⟨method, named⟩ := named
      rw [request_of_method named] at read
      cases given : capture.nonce with
      | none =>
          rw [given] at read
          cases read
          exact ⟨named.symm, rfl, given⟩
      | some text =>
          rw [given] at read
          dsimp only at read
          cases decoded : Base64.decodeText text with
          | none =>
              rw [decoded] at read
              cases read
          | some bytes =>
              rw [decoded] at read
              cases read
              refine ⟨named.symm, rfl, given.trans ?_⟩
              exact congrArg some (Base64.decode_text_eq_some_iff.mp decoded)
    · rw [request_of_no_method fun method same => named ⟨method, same⟩] at read
      cases read
  · rintro ⟨method, path, nonce⟩
    obtain ⟨_, _, sent⟩ := request
    rw [request_of_method method.symm, nonce, path]
    cases sent with
    | none => rfl
    | some bytes =>
        dsimp only [Option.map_some]
        rw [Base64.decode_text_eq_some_iff.mpr rfl]

/-- A nonce there and back. Sending fails for a nonce under what is no header name, and only then.
Without a nonce nothing is sent; a nonce is sent as the only header, legal and readable, and a
capture of its text is the request that was sent. What a capture takes for a nonce is the text that
its request sends. A bad method is told before a bad nonce. -/
theorem nonce_transport_round_trip :
    (∀ (request : Request) name error, request.headers name = .error error ↔
      error = .headerName ∧ request.nonce.isSome = true ∧ ¬HeaderName.IsSpelling name) ∧
    (∀ (request : Request) name, request.nonce = none → request.headers name = .ok .empty) ∧
    (∀ (request : Request) name nonce, request.nonce = some nonce → HeaderName.IsSpelling name →
      ∃ headers text, request.headers name = .ok headers ∧ headers.IsOnly name text ∧
        ∀ capture : Capture, capture.method = request.method.text → capture.path = request.path →
          capture.nonce = some text → capture.request = .ok request) ∧
    (∀ (capture : Capture) request text, capture.request = .ok request →
      capture.nonce = some text → ∀ name, HeaderName.IsSpelling name →
        ∃ headers, request.headers name = .ok headers ∧ headers.IsOnly name text) ∧
    (∀ capture : Capture, (∀ method : Method, method.text ≠ capture.method) →
      capture.request = .error (.method capture.method)) ∧
    ∀ (capture : Capture) (method : Method) text, method.text = capture.method →
      capture.nonce = some text → (∀ bytes, Base64.encodeText bytes ≠ text) →
      capture.request = .error .nonce := by
  refine ⟨fun request name error => Request.headers_eq_error_iff, fun request name absent => ?_,
    fun request name nonce carried spelling => ?_,
    fun capture request text accepted given name spelling => ?_,
    fun capture => request_of_no_method, fun capture method text => request_of_no_nonce⟩
  · rw [Request.headers, absent]
  · obtain ⟨headers, sent, only⟩ := Request.headers_of_nonce carried spelling
    refine ⟨headers, _, sent, only, fun capture method path captured => ?_⟩
    refine request_eq_ok_iff.mpr ⟨method, path, ?_⟩
    rw [captured, carried, Option.map_some]
  · have same := (request_eq_ok_iff.mp accepted).nonce
    rw [given] at same
    obtain ⟨nonce, carried, rfl⟩ := Option.map_eq_some_iff.mp same.symm
    exact Request.headers_of_nonce carried spelling

theorem empty_nonce_round_trip :
    let request : Request := { method := .get, path := "/v1/health", nonce := some [] }
    let silent : Request := { method := .get, path := "/v1/health" }
    silent.headers "X-Nonce" = .ok .empty ∧
      (∃ headers text, request.headers "X-Nonce" = .ok headers ∧ headers.IsOnly "X-Nonce" text ∧
        ({ path := "/v1/health", nonce := some text } : Capture).request = .ok request) ∧
      (∃ headers, request.headers "X-Nonce" = .ok headers ∧ headers.IsOnly "X-Nonce" "") ∧
      ({ method := "G T", nonce := some "?" } : Capture).request = .error (.method "G T") ∧
      ({ nonce := some "?" } : Capture).request = .error .nonce := by
  intro request silent
  obtain ⟨-, absent, sent, taken, noMethod, noNonce⟩ := nonce_transport_round_trip
  have spelling : HeaderName.IsSpelling "X-Nonce" := by decide
  obtain ⟨headers, text, sends, only, back⟩ := sent request "X-Nonce" [] rfl spelling
  have empty : ({ path := "/v1/health", nonce := some "" } : Capture).request = .ok request := by
    decide
  have blank : ∀ method : Method, method.text ≠ "G T" := by
    intro method same
    have refused : Method.ofText "G T" = .error .method := by decide
    rw [Method.of_text_eq_ok_iff.mpr same] at refused
    cases refused
  have strange : ∀ bytes, Base64.encodeText bytes ≠ "?" := by
    intro bytes same
    have read : Base64.decodeText "?" = none := by decide
    rw [Base64.decode_text_eq_some_iff.mpr same.symm] at read
    cases read
  exact ⟨absent silent "X-Nonce" rfl, ⟨headers, text, sends, only, back _ rfl rfl rfl⟩,
    taken _ request "" empty rfl "X-Nonce" spelling,
    noMethod { method := "G T", nonce := some "?" } blank,
    noNonce { nonce := some "?" } .get "?" rfl rfl strange⟩

end SignedResponse.Capture
