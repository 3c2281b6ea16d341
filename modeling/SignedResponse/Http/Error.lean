/-!
What can be wrong with the parts of an HTTP message.
-/

namespace SignedResponse

inductive HttpError where
  | method
  | status
  | headerName
  | headerValue
deriving DecidableEq

namespace HttpError

def message : HttpError → String
  | .method => "invalid HTTP method"
  | .status => "invalid status code"
  | .headerName => "invalid HTTP header name"
  | .headerValue => "failed to parse header value"

end HttpError

end SignedResponse
