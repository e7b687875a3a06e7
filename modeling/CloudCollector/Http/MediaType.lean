import CloudCollector.Text.Blank

/-!
# Media types

The type of the content of a request is a name and a subordinate name, which may end in a suffix
after a plus sign, with parameters behind semicolons. Ingestion only looks at what stands before
the first semicolon; a configuration push needs a whole media type.
-/

namespace CloudCollector.Http

/-- Whether a header holds visible ASCII characters only. -/
def isVisible (header : String) : Bool :=
  header.toList.all fun c => c == '\t' || (' ' ≤ c && c ≤ '~')

/-- Whether ingestion takes the content for JSON. -/
def announcesJson (contentType : Option String) : Bool :=
  match contentType with
  | none => false
  | some header =>
    isVisible header &&
      String.ofList (Text.toLowerAscii (Text.trim (Text.cutAt ';' header.toList).1)) ==
        "application/json"

/-- A media type. -/
structure MediaType where
  name : String
  /-- The subordinate name, without its suffix. -/
  subtype : String
  suffix : Option String
  deriving DecidableEq

namespace MediaType

/-- Whether a character may stand in a name. -/
def isNameChar (c : Char) : Bool :=
  c.isAlphanum || "!#$%&'*+-.^_`|~".toList.contains c

/-- Where a reader of parameters stands. -/
inductive Place where
  /-- In front of a parameter. -/
  | gap
  /-- In the name of a parameter. -/
  | name
  /-- In front of a value. -/
  | equals
  /-- In a plain value. -/
  | value
  /-- In front of the first character of a quoted value. -/
  | quote
  /-- In a quoted value. -/
  | quoted
  /-- Behind a quoted value. -/
  | behind

/-- Whether a character may stand between quotes. -/
def isQuotable (c : Char) : Bool :=
  ' ' ≤ c && c != '\x7f'

/-- Where a reader of parameters stands after a character. -/
def Place.next : Place → Char → Option Place
  | gap, c => if c = ' ' then some gap else if isNameChar c then some name else none
  | name, c => if c = '=' then some equals else if isNameChar c then some name else none
  | equals, c => if c = '"' then some quote else if isNameChar c then some value else none
  | value, c => if c = ';' then some gap else if isNameChar c then some value else none
  | quote, c => if isQuotable c then some quoted else none
  | quoted, c => if c = '"' then some behind else if isQuotable c then some quoted else none
  | behind, c => if c = ';' then some gap else if c = ' ' then some behind else none

/-- Whether parameters may end at a place. -/
def Place.isFinal : Place → Bool
  | gap | equals | value | behind => true
  | name | quote | quoted => false

/-- Whether a text is a list of parameters. -/
def areParameters (cs : List Char) : Bool :=
  (cs.foldlM Place.next .gap).any Place.isFinal

/-- Cuts a subordinate name at its last plus sign; one in front is no cut. -/
def ofNames (name subtype : List Char) : MediaType :=
  let behind := (subtype.reverse.takeWhile (· != '+')).reverse
  let front := subtype.take (subtype.length - behind.length - 1)
  let name := String.ofList name
  if behind.length < subtype.length && !front.isEmpty then
    ⟨name, String.ofList front, some (String.ofList behind)⟩
  else ⟨name, String.ofList subtype, none⟩

/-- Reads a media type in lower case. -/
def parse? (header : String) : Option MediaType :=
  let cs := Text.toLowerAscii header.toList
  let name := cs.takeWhile isNameChar
  match name, cs.dropWhile isNameChar with
  | _ :: _, '/' :: rest =>
    let subtype := rest.takeWhile isNameChar
    match rest.dropWhile isNameChar with
    | [] => some (ofNames name subtype)
    | ';' :: parameters =>
      if !subtype.isEmpty && areParameters parameters then some (ofNames name subtype) else none
    | _ => none
  | _, _ => none

/-- Whether a media type stands for JSON. -/
def isJson (m : MediaType) : Bool :=
  m.name == "application" && (m.subtype == "json" || m.suffix == some "json")

end MediaType

/-- Whether a configuration push takes the content for JSON. -/
def isJsonDocument (contentType : Option String) : Bool :=
  match contentType with
  | none => false
  | some header => isVisible header && (MediaType.parse? header).any MediaType.isJson

end CloudCollector.Http
