import CloudCollector.Codec.Target
import CloudCollector.Decode.Outline
import CloudCollector.Health.Exposition
import CloudCollector.Http.MediaType
import CloudCollector.Http.Message
import CloudCollector.Http.Payload
import CloudCollector.Http.PercentEncoding
import CloudCollector.Pipeline.Snapshot

/-!
# The HTTP service

Telemetry is posted to the service, configurations are put and deleted there, and monitors ask it
how things stand. Telemetry is taken as a whole or refused as a whole, and a refusal is counted by
its reason.
-/

namespace CloudCollector.Http

/-- What a path addresses. A target is spelled as in the path. -/
inductive Route where
  | links
  | versions
  | samples (target : String)
  | events (target : String)
  | config (target : String)
  | metrics
  | health
  | status
  deriving DecidableEq

namespace Route

/-- The parts of a path between slashes, without what follows a question mark. -/
def segments (path : String) : List String :=
  (String.ofList (path.toList.takeWhile (· != '?'))).splitOn "/"

/-- A route to a target, which has to have a name. -/
def toTarget (route : String → Route) (target : String) : Option Route :=
  if target = "" then none else some (route target)

/-- What a path addresses. -/
def ofPath? (path : String) : Option Route :=
  match segments path with
  | ["", ""] => some links
  | ["", "ceilometer"] => some versions
  | ["", "ceilometer", "v1", "samples", target] => toTarget samples target
  | ["", "ceilometer", "v1", "events", target] => toTarget events target
  | ["", "config", target] => toTarget config target
  | ["", "metrics"] => some metrics
  | ["", "healthz"] => some health
  | ["", "status"] => some status
  | _ => none

/-- The methods that a route allows. -/
def methods : Route → List String
  | samples _ | events _ => ["POST"]
  | config _ => ["DELETE", "PUT"]
  | links | versions | metrics | health | status => ["GET", "HEAD"]

/-- The target of a route as the path spells it. -/
def target? : Route → Option String
  | samples target | events target | config target => some target
  | links | versions | metrics | health | status => none

end Route

/-- The document at the root. -/
def linksDocument : Json :=
  .obj [("links", .array [.obj [("href", .string "/ceilometer"), ("rel", .string "related")]])]

/-- The document that lists the versions of the ingestion interface. -/
def versionsDocument : Json :=
  .obj [("versions", .array [.obj [
    ("id", .string "v1.0"),
    ("links", .array [.obj [("href", .string "/ceilometer/v1/"), ("rel", .string "self")]]),
    ("status", .string "SUPPORTED"),
    ("version", .string "1.0"),
    ("updated", .string "2018-10-23T00:00:00Z")]])]

/-! ## Ingestion -/

/-- Why telemetry is refused. -/
inductive Rejection where
  /-- The content is not announced as JSON. -/
  | unsupportedMediaType
  /-- The content is no JSON. -/
  | badJson
  /-- What the content says is refused. -/
  | ingest (cause : IngestError)
  deriving DecidableEq

namespace Rejection

/-- The reason under which a refusal is counted. -/
def reason : Rejection → String
  | unsupportedMediaType => "unsupported_media_type"
  | badJson => "bad_json"
  | ingest (.unknownTarget _) => "unknown_target"
  | ingest (.malformed ..) | ingest (.refused _) => "malformed"

/-- The response to a refusal. -/
def response : Rejection → Response
  | unsupportedMediaType => .text 415 "Unsupported Media Type"
  | badJson => .text 400 "Error parsing JSON data"
  | ingest (.unknownTarget target) => .text 404 ("Unrecognized device '" ++ target ++ "'")
  | ingest (.malformed index reason) =>
    .text 422 ("Error processing data: " ++ (IngestError.malformed index reason).message)
  | ingest (.refused cause) => .text 422 cause.message

end Rejection

/-- The document in a body: UTF-8 text, with each number the nearest double to its decimal. A reader
that rounds otherwise may stand in its place. -/
def document? (body : ByteArray) : Option Json :=
  (String.fromUTF8? body).bind Json.read?

section Telemetry

-- how the document in a body is read; telemetry is judged alike with any reader
variable (reader : ByteArray → Option Json)

/-- Checks target, type of content and syntax, in that order. -/
def readBody (p : Pipeline) (target : String) (r : Request) : Except Rejection Json :=
  if !p.hasTarget target then .error (.ingest (.unknownTarget target))
  else if !announcesJson r.contentType then .error .unsupportedMediaType
  else
    match reader r.body with
    | some v => .ok v
    | none => .error .badJson

/-- Takes samples. -/
def takeSamples (p : Pipeline) (now : Instant) (target : String) (r : Request) :
    Pipeline × Except Rejection Unit :=
  match readBody reader p target r with
  | .error rejection => (p, .error rejection)
  | .ok payload =>
    match readPayload readSample payload with
    | .error cause => (p, .error (.ingest cause))
    | .ok samples =>
      let (p, result) := p.ingestSamples target now samples
      (p, (result.mapError .ingest).map fun _ => ())

/-- Takes one event after the other, up to the first that is refused. -/
def takeEach (now : Instant) (target : String) :
    List Event → Pipeline → Pipeline × Except Rejection Unit
  | [], p => (p, .ok ())
  | e :: events, p =>
    match p.ingestEvent target now e with
    | (p, .ok _) => takeEach now target events p
    | (p, .error cause) => (p, .error (.ingest cause))

/-- Takes events. -/
def takeEvents (p : Pipeline) (now : Instant) (target : String) (r : Request) :
    Pipeline × Except Rejection Unit :=
  match readBody reader p target r with
  | .error rejection => (p, .error rejection)
  | .ok payload =>
    match readPayload (readEvent target now) payload with
    | .error cause => (p, .error (.ingest cause))
    | .ok events => takeEach now target events p

end Telemetry

/-- The response to telemetry; a refusal is counted. -/
def answerIngest : Pipeline × Except Rejection Unit → Pipeline × Response
  | (p, .ok ()) => (p, { status := 200 })
  | (p, .error rejection) =>
    ({ p with health := p.health.reject rejection.reason }, rejection.response)

/-! ## Configuration -/

/-- Takes the configuration of a target. -/
def putConfig (p : Pipeline) (target : String) (r : Request) : Pipeline × Response :=
  if !isJsonDocument r.contentType then
    (p, .text 415 "Expected request with `Content-Type: application/json`")
  else
    let read := match String.fromUTF8? r.body with
      | some text => Json.decodeText TargetConfig.decode text
      | none => .error .syntactic
    match read with
    | .error .syntactic => (p, .text 400 "Failed to parse the request body as JSON")
    | .error .data => (p, .text 422 "Failed to deserialize the JSON body into the target type")
    | .ok config =>
      match p.applyConfig target config with
      | (p, .ok ()) => (p, { status := 204 })
      | (p, .error cause) => (p, .text 422 cause.message)

/-- Forgets a target. -/
def deleteConfig (p : Pipeline) (target : String) : Pipeline × Response :=
  let (p, known) := p.removeTarget target
  (p, { status := if known then 204 else 404 })

/-! ## Serving -/

/-- The largest body of a request, in bytes. -/
def maxBody : Nat := 2097152

/-- The response to a request whose body is too large. -/
def tooLarge : Response :=
  .text 413 "Failed to buffer the request body: length limit exceeded"

/-- Serves a request to a route with a target. The document of telemetry is read by `reader`. -/
def serveTarget (reader : ByteArray → Option Json) (p : Pipeline) (now : Instant) (r : Request)
    (route : Route) (target : String) : Pipeline × Response :=
  match route with
  | .samples _ =>
    if maxBody < r.body.size then (p, tooLarge)
    else answerIngest (takeSamples reader p now target r)
  | .events _ =>
    if maxBody < r.body.size then (p, tooLarge)
    else answerIngest (takeEvents reader p now target r)
  | _ =>
    if r.method = "DELETE" then deleteConfig p target
    else if isJsonDocument r.contentType && maxBody < r.body.size then (p, tooLarge)
    else putConfig p target r

/-- What a monitor gets to see. -/
def view (p : Pipeline) : Route → Response
  | .links => .json linksDocument
  | .versions => .json versionsDocument
  | .metrics => .text 200 p.health.exposition
  | .status => .json p.snapshot.encode
  | _ => .text 200 "ok"

/-- Serves a request. The document of telemetry is read by `reader`. -/
def serveWith (reader : ByteArray → Option Json) (p : Pipeline) (now : Instant) (r : Request) :
    Pipeline × Response :=
  match Route.ofPath? r.path with
  | none => (p, { status := 404 })
  | some route =>
    if !route.methods.contains r.method then
      (p, { status := 405, allow := some route.methods })
    else
      match route.target? with
      | none => (p, { view p route with headOnly := r.method == "HEAD" })
      | some spelled =>
        match percentDecode? spelled with
        | none => (p, .text 400 "Invalid URL")
        | some target => serveTarget reader p now r route target

/-- Serves a request as the program does. -/
def serve (p : Pipeline) (now : Instant) (r : Request) : Pipeline × Response :=
  serveWith document? p now r

end CloudCollector.Http
