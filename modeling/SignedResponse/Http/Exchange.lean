import SignedResponse.Base64
import SignedResponse.Http.Header
import SignedResponse.Text.Decimal
import SignedResponse.Text.Utf8

/-!
An HTTP exchange as verification sees it: the request with its nonce, and the response.
-/

namespace SignedResponse

structure Method where
  token : Token
deriving DecidableEq

namespace Method

def ofText (text : String) : Except HttpError Method :=
  match Token.ofText? text with
  | some token => .ok ⟨token⟩
  | none => .error .method

def ofBytes (bytes : List UInt8) : Except HttpError Method :=
  match Utf8.decode? bytes with
  | some text => ofText text
  | none => .error .method

def text (method : Method) : String := method.token.text

def get : Method := ⟨⟨['G', 'E', 'T'], by decide, by decide⟩⟩

end Method

structure Status where
  code : Nat
  threeDigits : 100 ≤ code ∧ code < 1000
deriving DecidableEq

namespace Status

def ofCode (code : Nat) : Except HttpError Status :=
  if threeDigits : 100 ≤ code ∧ code < 1000 then .ok ⟨code, threeDigits⟩ else .error .status

def ok : Status := ⟨200, by decide⟩

def notModified : Status := ⟨304, by decide⟩

end Status

structure Request where
  method : Method
  path : String
  /-- The random bytes that the server is to bind into its signature. -/
  nonce : Option (List UInt8) := none
deriving DecidableEq

namespace Request

def text (request : Request) : String := request.method.text ++ " " ++ request.path

def headers (request : Request) (nonceHeader : String) : Except HttpError Headers :=
  match request.nonce with
  | none => .ok .empty
  | some nonce => do
      let name ← HeaderName.ofText nonceHeader
      let value ← HeaderValue.ofBytes (Utf8.encode (Base64.encodeText nonce))
      return Headers.empty.insert name value

end Request

inductive ResponseFault where
  | status (code : Nat)
  | headerName (name : String)
  | headerValue (name : String)
deriving DecidableEq

namespace ResponseFault

def cause : ResponseFault → HttpError
  | .status _ => .status
  | .headerName _ => .headerName
  | .headerValue _ => .headerValue

end ResponseFault

structure Response where
  status : Status
  headers : Headers := .empty
  /-- Absent when there was no body at all, which is not the same as an empty one. -/
  body : Option (List UInt8) := none
deriving DecidableEq

namespace Response

/-- The first value of a header, if it is readable. -/
def header (response : Response) (name : String) : Option String := response.headers.text? name

/-- The response says that what the client has is still good; a body beside it means nothing. -/
def isNotModified (response : Response) : Bool := response.status = .notModified

def message (response : Response) : Option (List UInt8) :=
  if response.isNotModified then none else response.body

/-- A response from its parts: the status is looked at first, then header by header the name
before the value. -/
def build (status : Nat) (fields : List (String × List UInt8)) (body : Option (List UInt8)) :
    Except ResponseFault Response := do
  let status ← (Status.ofCode status).mapError fun _ => .status status
  let headers ← fields.foldlM
    (fun headers field => do
      let name ← (HeaderName.ofText field.1).mapError fun _ => .headerName field.1
      let value ← (HeaderValue.ofBytes field.2).mapError fun _ => .headerValue field.1
      return headers.append name value) Headers.empty
  return { status, headers, body }

/-- The names of the fields before the first one that is not right. -/
def soundNames : List (String × List UInt8) → List HeaderName
  | [] => []
  | field :: rest =>
      match HeaderName.ofText field.1, HeaderValue.ofBytes field.2 with
      | .ok name, .ok _ => name :: soundNames rest
      | _, _ => []

end Response

end SignedResponse
