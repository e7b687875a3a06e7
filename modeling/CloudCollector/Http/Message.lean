import CloudCollector.Json.Printer

/-!
# HTTP messages

What the service needs of a request, and what it answers.
-/

namespace CloudCollector.Http

/-- A request. -/
structure Request where
  method : String
  /-- The path, with what follows it after a question mark. -/
  path : String
  /-- The header that tells the type of the content. -/
  contentType : Option String := none
  body : ByteArray := .empty

/-- What a response carries. -/
inductive Content where
  | none
  | text (value : String)
  | json (value : Json)
  deriving DecidableEq

namespace Content

/-- The header that tells the type of the content, or nothing where there is none. -/
def type : Content → String
  | none => ""
  | text _ => "text/plain; charset=utf-8"
  | json _ => "application/json"

/-- The text that is sent. -/
def sent : Content → String
  | none => ""
  | text value => value
  | json value => value.print

end Content

/-- A response. -/
structure Response where
  status : Nat
  content : Content := .none
  /-- The allowed methods, where the method of the request is not one of them. -/
  allow : Option (List String) := none
  /-- Whether the content is held back and only its headers are sent. -/
  headOnly : Bool := false
  deriving DecidableEq

namespace Response

/-- A response with a text. -/
def text (status : Nat) (value : String) : Response :=
  { status, content := .text value }

/-- A successful response with a document. -/
def json (value : Json) : Response :=
  { status := 200, content := .json value }

/-- The text that is sent. -/
def sent (r : Response) : String :=
  if r.headOnly then "" else r.content.sent

end Response

end CloudCollector.Http
