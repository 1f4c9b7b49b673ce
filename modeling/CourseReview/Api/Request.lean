import CourseReview.Error
import CourseReview.Json.Parser
import CourseReview.Text.Blank

/-!
# Requests and replies

A request names a method, an address and possibly a JSON body.  A reply with a status from 200 to
299 carries a JSON value; a reply with any other status is a refusal and keeps the text it came
with.
-/

namespace CourseReview

/-- What a request wants done. -/
inductive HttpMethod where
  | get
  | post
  | put
  | patch
deriving DecidableEq, Repr

/-- The method as requests name it. -/
def HttpMethod.name : HttpMethod → String
  | .get => "GET"
  | .post => "POST"
  | .put => "PUT"
  | .patch => "PATCH"

/-- The method of that name. -/
def HttpMethod.ofName? (name : String) : Option HttpMethod :=
  [HttpMethod.get, .post, .put, .patch].find? (·.name = name)

/-- Whether requests of the method carry a body. -/
def HttpMethod.hasBody : HttpMethod → Bool
  | .get => false
  | _ => true

/-- A request. -/
structure HttpRequest where
  method : HttpMethod
  url : String
  body : Option Json := none
deriving Repr

/-- A reply that the server did not refuse. -/
structure HttpReply where
  status : Nat
  data : Json
deriving Repr

/-- Whether the status says that the request was carried out. -/
def isSuccess (status : Nat) : Bool :=
  200 ≤ status && status ≤ 299

namespace HttpRequest

/-- The reply to the request, from the status and the text that came back: a refusal keeps the
text, and otherwise a blank text stands for `null`. -/
def readReply (r : HttpRequest) (status : Nat) (text : String) : Outcome HttpReply :=
  if isSuccess status then
    if Text.isAllBlank text then .ok { status, data := .null }
    else
      match Json.parse? text with
      | some data => .ok { status, data }
      | none => .error .jsonSyntax
  else .error (.requestRefused r.url status text)

end HttpRequest

/-- Reads the value a reply carries; a failed exchange stays what it is. -/
def readAnswer {α : Type} (decode : Json → Decoded α) (reply : Outcome HttpReply) : Outcome α :=
  match reply with
  | .error e => .error e
  | .ok r => (decode r.data).outcome

end CourseReview
