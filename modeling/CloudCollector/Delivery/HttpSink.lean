import CloudCollector.Codec.Event
import CloudCollector.Codec.Record
import CloudCollector.Codec.Target
import CloudCollector.Delivery.Basic
import CloudCollector.Time.Timestamp
import CloudCollector.Time.UnixSeconds

/-!
# Delivery over HTTP

Each delivery is posted as a JSON document to the address of its kind, compressed if that is
asked for. Any status but success is a failure. What carries a request over the network is a
parameter here.
-/

namespace CloudCollector

/-- How documents are compressed on their way. -/
inductive Compression where
  | identity
  | gzip
  | zstd
  | zlib
  deriving DecidableEq

namespace Compression

/-- The compression with the given name. -/
def ofName? : String → Option Compression
  | "" | "none" => some identity
  | "gzip" => some gzip
  | "zstd" => some zstd
  | "zlib" => some zlib
  | _ => none

/-- The name of the encoding in the header of a request. -/
def encoding? : Compression → Option String
  | identity => none
  | gzip => some "gzip"
  | zstd => some "zstd"
  | zlib => some "deflate"

end Compression

/-- How long a request may take unless something else is configured. -/
def standardRequestTimeout : Span := .ofSeconds 10

/-- Where and how deliveries are posted. -/
structure HttpSink where
  metricsUrl : String := ""
  eventsUrl : String := ""
  modelUrl : String := ""
  /-- Further headers of every request. -/
  headers : Dict String := .empty
  /-- The name of the compression. -/
  compression : String := "gzip"
  /-- How long a request may take. -/
  requestTimeout : Span := standardRequestTimeout
  /-- Whether connections are kept for further requests. -/
  keepAlive : Bool := true
  deriving DecidableEq

/-- A request that carries a delivery. -/
structure Post where
  url : String
  encoding : Option String
  headers : Dict String
  body : Json
  deriving DecidableEq

/-- What the network makes of a request. -/
inductive PostReply where
  /-- The receiver answers with a status. -/
  | status (code : Nat)
  /-- No receiver answers. -/
  | unreachable
  deriving DecidableEq

/-- A member with text that is left out when there is none. -/
def textMember (name text : String) : List (String × Json) :=
  if text = "" then [] else [(name, .string text)]

/-- The document that carries a metric write. -/
def MetricWrite.document (w : MetricWrite) : Json :=
  let d := w.datapoint
  .object (textMember "component" d.component ++
    [("datapoint", .string d.name), ("date_time", .string w.time.dateTime),
      ("kind", .string d.kind.name)] ++
    optionalMember "max" d.max ++ tagsMember d.metadata ++ optionalMember "min" d.min ++
    [("path", .string d.path), ("timestamp", .ofReal w.time.unixSeconds),
      ("value", .ofReal w.value)])

/-- The document that carries a batch. -/
def Batch.document (b : Batch) : Json :=
  .object [("records", .ofList Record.encode b.records), ("target_system", .string b.target)]

/-- The document that carries a delivery. -/
def Delivery.document : Delivery → Json
  | metric w => w.document
  | event e => e.encode
  | model b => b.document

/-- The phrases that explain the statuses of a response. -/
def statusPhrases : List (Nat × String) :=
  [(100, "Continue"), (101, "Switching Protocols"), (102, "Processing"), (103, "Early Hints"),
    (200, "OK"), (201, "Created"), (202, "Accepted"), (203, "Non Authoritative Information"),
    (204, "No Content"), (205, "Reset Content"), (206, "Partial Content"), (207, "Multi-Status"),
    (208, "Already Reported"), (226, "IM Used"), (300, "Multiple Choices"),
    (301, "Moved Permanently"), (302, "Found"), (303, "See Other"), (304, "Not Modified"),
    (305, "Use Proxy"), (307, "Temporary Redirect"), (308, "Permanent Redirect"),
    (400, "Bad Request"), (401, "Unauthorized"), (402, "Payment Required"), (403, "Forbidden"),
    (404, "Not Found"), (405, "Method Not Allowed"), (406, "Not Acceptable"),
    (407, "Proxy Authentication Required"), (408, "Request Timeout"), (409, "Conflict"),
    (410, "Gone"), (411, "Length Required"), (412, "Precondition Failed"),
    (413, "Payload Too Large"), (414, "URI Too Long"), (415, "Unsupported Media Type"),
    (416, "Range Not Satisfiable"), (417, "Expectation Failed"), (418, "I'm a teapot"),
    (421, "Misdirected Request"), (422, "Unprocessable Entity"), (423, "Locked"),
    (424, "Failed Dependency"), (425, "Too Early"), (426, "Upgrade Required"),
    (428, "Precondition Required"), (429, "Too Many Requests"),
    (431, "Request Header Fields Too Large"), (451, "Unavailable For Legal Reasons"),
    (500, "Internal Server Error"), (501, "Not Implemented"), (502, "Bad Gateway"),
    (503, "Service Unavailable"), (504, "Gateway Timeout"), (505, "HTTP Version Not Supported"),
    (506, "Variant Also Negotiates"), (507, "Insufficient Storage"), (508, "Loop Detected"),
    (510, "Not Extended"), (511, "Network Authentication Required")]

/-- A status with its phrase. -/
def statusText (code : Nat) : String :=
  toString code ++ " " ++ ((statusPhrases.lookup code).getD "<unknown status code>")

namespace HttpSink

/-- Why a sink cannot be set up, if it cannot. -/
def check (sink : HttpSink) : Except String Compression :=
  match Compression.ofName? sink.compression with
  | some compression => .ok compression
  | none => .error ("unsupported compression: " ++ sink.compression)

/-- Where a delivery is posted. -/
def urlFor (sink : HttpSink) : Delivery → String
  | .metric _ => sink.metricsUrl
  | .event _ => sink.eventsUrl
  | .model _ => sink.modelUrl

/-- The request that carries a delivery. -/
def post (sink : HttpSink) (compression : Compression) (d : Delivery) : Post :=
  { url := sink.urlFor d
    encoding := compression.encoding?
    headers := sink.headers
    body := d.document }

/-- What becomes of a request. -/
def outcome (request : Post) : PostReply → Outcome
  | .unreachable => .error (.refused ["sending request to " ++ request.url])
  | .status code =>
    if 200 ≤ code ∧ code < 300 then .ok ()
    else .error (.refused ["unexpected status from " ++ request.url ++ ": " ++ statusText code])

/-- Delivers over a network in state `s`, which `carry` describes. -/
def answer {σ : Type} (sink : HttpSink) (compression : Compression)
    (carry : σ → Post → σ × PostReply) (s : σ) (d : Delivery) : σ × Outcome :=
  let request := sink.post compression d
  let (s, reply) := carry s request
  (s, outcome request reply)

end HttpSink

end CloudCollector
