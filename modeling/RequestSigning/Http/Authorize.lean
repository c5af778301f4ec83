import RequestSigning.Error
import RequestSigning.Http.Date
import RequestSigning.Http.Headers

/-!
# Authorizing a request

The `date` header is set to a timestamp's text, and the `authorization` header to what a signer
makes of that text. Either both are set or the map stays as it is. A request is authorized last,
when nothing else of it changes any more.

All checks are made before the map is touched, so no error can leave it half changed. The signer is
a parameter, a computation that takes the date's text and may keep a state of its own.
-/

namespace RequestSigning

/-- Name of the header that carries the time of a request. -/
def dateHeader : String := "date"

/-- Name of the header that carries the signature. -/
def authorizationHeader : String := "authorization"

/-- A text as the value of a header, if it can be one. -/
def headerValue (name text : String) : Except AuthError String :=
  if Headers.isValue text then .ok text
  else .error (.invalidHeader name "failed to parse header value")

variable {m : Type → Type} [Monad m]

/-- Authorizes a request at a time, in its header map. The signer is any computation from the date's
text. Both values are checked before either is set; what was done to the map before an error stays
done. -/
def Headers.authorize (sign : String → m (Except AuthError String)) (time : Timestamp) :
    ExceptT AuthError (StateT Headers m) Unit := do
  let date := httpDate time
  let authorization ← MonadExcept.ofExcept (← sign date)
  let date ← MonadExcept.ofExcept (headerValue dateHeader date)
  let authorization ← MonadExcept.ofExcept (headerValue authorizationHeader authorization)
  modify fun headers => headers.set dateHeader date
  modify fun headers => headers.set authorizationHeader authorization

/-- A **request**: what is asked of which target, the headers, whatever else the caller attached,
and the body. -/
structure HttpRequest (ε β : Type) where
  method : String
  target : String
  version : String
  headers : Headers
  attached : ε
  body : β

/-- Authorizes a request at the present time. -/
def HttpRequest.authorize {ε β : Type} (sign : String → m (Except AuthError String))
    (now : Timestamp) : ExceptT AuthError (StateT (HttpRequest ε β) m) Unit :=
  ExceptT.mk fun request => do
    let (outcome, headers) ← (Headers.authorize sign now).run.run request.headers
    pure (outcome, { request with headers })

end RequestSigning
