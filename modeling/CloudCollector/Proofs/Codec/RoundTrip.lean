import CloudCollector.Codec.Event
import CloudCollector.Codec.Record
import CloudCollector.Codec.Target
import CloudCollector.Proofs.Dict
import CloudCollector.Proofs.Http.Payload
import CloudCollector.Proofs.Time.SpanText

/-!
# Documents read back

A written document reads back as the value that it was written from. A struct is written as an
object with distinct names, so it is enough to look at its fields one by one: a field that was
written is found under its name, and one that was left out has the value that the reader fills
in. Numbers have to be finite, since the others are written as null.
-/

namespace CloudCollector

/-! ## Values -/

section Values

variable {α : Type}

/-- Putting the entries of a dictionary in one after the other gives the dictionary. -/
theorem Dict.ofList_entries (d : Dict α) : ofList d.entries = d := by
  apply ext_get?
  intro key
  rw [ofList, get?_foldl_insert d.entries d.increasing, get?_empty, Option.or_none, get?]

/-- Where the encoded values read back, entries are put in as they were. -/
theorem Decode.eachEntry_encode {decode : Json → Reading α} {encode : α → Json}
    {entries : List (String × α)} (h : ∀ entry ∈ entries, decode (encode entry.2) = .ok entry.2)
    (read : Dict α) :
    eachEntry decode read ((entries.map fun entry => (entry.1, encode entry.2)).map .ok) =
      .ok (entries.foldl (fun d entry => d.insert entry.1 entry.2) read) := by
  induction entries generalizing read with
  | nil => rfl
  | cons entry rest ih =>
    have hstep : eachEntry decode read
        (((entry :: rest).map fun entry => (entry.1, encode entry.2)).map .ok) = (do
          let value ← decode (encode entry.2)
          eachEntry decode (read.insert entry.1 value)
            ((rest.map fun entry => (entry.1, encode entry.2)).map .ok)) := rfl
    rw [hstep, h entry List.mem_cons_self]
    exact ih (fun other hother => h other (List.mem_cons_of_mem entry hother)) _

/-- A dictionary is read back if each of its values is. -/
theorem Decode.dict_ofDict {decode : Json → Reading α} {encode : α → Json} {d : Dict α}
    (h : ∀ value ∈ d.values, decode (encode value) = .ok value) :
    dict decode (Json.ofDict encode d) = .ok d := by
  have hentries : ∀ entry ∈ d.entries, decode (encode entry.2) = .ok entry.2 :=
    fun entry hentry => h entry.2 (List.mem_map.mpr ⟨entry, hentry, rfl⟩)
  exact (eachEntry_encode hentries .empty).trans (congrArg Except.ok d.ofList_entries)

/-- A list is read back if each of its items is. -/
theorem Decode.list_ofList {decode : Json → Reading α} {encode : α → Json} {items : List α}
    (h : ∀ item ∈ items, decode (encode item) = .ok item) :
    list decode (Json.ofList encode items) = .ok items := by
  rw [Json.ofList, Http.list_eq_ok_iff]
  exact ⟨_, rfl, List.forall₂_map_left_iff.mpr (List.forall₂_same.mpr h)⟩

/-- A text is read back. -/
theorem Decode.string_string (text : String) : string (Json.string text) = .ok text := rfl

/-- A double is read back if it is finite; any other one is written as null. -/
theorem Decode.real_ofReal {x : Binary64} (h : x.isFinite = true) :
    Source.real (Json.ofReal x) = .ok x := by
  rw [Json.ofReal, if_pos h]
  rfl

/-- A number that is given is read back as given. -/
theorem Decode.option_ofReal {x : Binary64} (h : x.isFinite = true) :
    option Source.real (Json.ofReal x) = .ok (some x) := by
  rw [Http.option_eq_ok_iff]
  exact ⟨_, rfl, by simp [Json.ofReal, h], real_ofReal h⟩

end Values

/-- Each lifecycle is read back from its name. -/
theorem Lifecycle.decode_encode (l : Lifecycle) : decode l.encode = .ok l := by
  cases l <;> rfl

/-- Each severity is read back from its name. -/
theorem Severity.decode_encode (s : Severity) : decode s.encode = .ok s := by
  cases s <;> rfl

/-- Each kind of datapoint is read back from its name. -/
theorem DatapointKind.decode_encode (k : DatapointKind) : decode k.encode = .ok k := by
  cases k <;> rfl

/-- A span is read back from its text in units. -/
theorem Span.decode_encode (d : Span) : decode d.encode = .ok d := by
  have htext : Source.text "a duration" d.encode = .ok d.render := rfl
  rw [decode, htext]
  simp only [bind, Except.bind, parse?_render]
  rfl

/-! ## Structs -/

/-- A struct is read from an object with distinct names if its fields make a value. -/
theorem Fields.read_object {α : Type} {f : Fields Json α} (hf : f.Converts) {name : String} {a : α}
    {members : List (String × Json)} (hnames : (members.map (·.1)).Nodup)
    (hbuild : ∀ expected, f.build (slotsOf expected f.names (.object members)) = .ok (a, [])) :
    f.read name (.object members) = .ok a :=
  (read_eq_ok_iff hf).mpr ⟨hnames.filter _, [], hbuild _⟩

/-- A place is read back, also where the name of its class is left out. -/
theorem Structure.decode_encode (p : Structure) : decode p.encode = .ok p := by
  have hconverts : (@readers Json _).Converts :=
    ((((Fields.converts_required _ _).map _).seq (Fields.converts_defaulted _ _ _)).seq
      (Fields.converts_defaulted _ _ _)).seq (Fields.converts_defaulted _ _ _)
  have hslots (expected : String) (v : Json) :
      Fields.slotsOf expected (@readers Json _).names v =
        [v.slotAt expected "module" 0, v.slotAt expected "class_name" 1,
          v.slotAt expected "container" 2, v.slotAt expected "relationship" 3] := rfl
  obtain ⟨module, className, container, relationship⟩ := p
  refine Fields.read_object hconverts ?_ fun expected => ?_
  · dsimp only
    split <;> simp
  · rw [hslots]
    by_cases h : className = "" <;>
      simp [readers, Fields.build_seq_eq_ok_iff, Fields.build_map_eq_ok_iff,
        Fields.build_required_slotAt_iff, Fields.build_defaulted_slotAt_iff, Json.fieldAt?,
        Dict.findEntry, Decode.string_string, h]

/-- A record is read back with whatever JSON its fields hold. -/
theorem Record.decode_encode (r : Record) : decode r.encode = .ok r := by
  have hconverts : readers.Converts :=
    ((((Fields.converts_required _ _).map _).seq (Fields.converts_defaulted _ _ _)).seq
      (Fields.converts_defaulted _ _ _)).seq (Fields.converts_defaulted _ _ _)
  have hslots (expected : String) (v : Json) : Fields.slotsOf expected readers.names v =
      [v.slotAt expected "target_id" 0, v.slotAt expected "lifecycle" 1,
        v.slotAt expected "structure" 2, v.slotAt expected "fields" 3] := rfl
  have hfields : Decode.dict Decode.json (.ofDict id r.fields) = .ok r.fields :=
    Decode.dict_ofDict fun value _ => rfl
  refine Fields.read_object hconverts (by simp) fun expected => ?_
  rw [hslots]
  simp [readers, Fields.build_seq_eq_ok_iff, Fields.build_map_eq_ok_iff,
    Fields.build_required_slotAt_iff, Fields.build_defaulted_slotAt_iff, Json.fieldAt?,
    Dict.findEntry, Decode.string_string, Lifecycle.decode_encode, Structure.decode_encode, hfields]

/-- An event is read back if its time is a number, whatever JSON its traits hold. -/
theorem Event.decode_encode {e : Event} (he : e.timestamp.isFinite = true) :
    decode e.encode = .ok e := by
  have hconverts : readers.Converts :=
    (((((((Fields.converts_required _ _).map _).seq (Fields.converts_defaulted _ _ _)).seq
      (Fields.converts_required _ _)).seq (Fields.converts_defaulted _ _ _)).seq
      (Fields.converts_defaulted _ _ _)).seq (Fields.converts_required _ _)).seq
      (Fields.converts_defaulted _ _ _)
  have hslots (expected : String) (v : Json) : Fields.slotsOf expected readers.names v =
      [v.slotAt expected "target_system" 0, v.slotAt expected "component" 1,
        v.slotAt expected "event_type" 2, v.slotAt expected "summary" 3,
        v.slotAt expected "severity" 4, v.slotAt expected "timestamp" 5,
        v.slotAt expected "traits" 6] := rfl
  have htraits : Decode.dict Decode.json (.ofDict id e.traits) = .ok e.traits :=
    Decode.dict_ofDict fun value _ => rfl
  have htime := Decode.real_ofReal he
  obtain ⟨targetSystem, component, eventType, summary, severity, timestamp, traits⟩ := e
  refine Fields.read_object hconverts ?_ fun expected => ?_
  · dsimp only
    split <;> simp
  · rw [hslots]
    by_cases h : component = "" <;>
      simp [readers, Fields.build_seq_eq_ok_iff, Fields.build_map_eq_ok_iff,
        Fields.build_required_slotAt_iff, Fields.build_defaulted_slotAt_iff, Json.fieldAt?,
        Dict.findEntry, Decode.string_string, Severity.decode_encode, htime, htraits, h]

/-! ## Datapoints -/

/-- The bounds of a datapoint are numbers. -/
def Datapoint.IsFinite (d : Datapoint) : Prop :=
  (∀ x ∈ d.min, x.isFinite = true) ∧ ∀ x ∈ d.max, x.isFinite = true

instance (d : Datapoint) : Decidable d.IsFinite :=
  inferInstanceAs (Decidable (_ ∧ _))

section Members

variable {α : Type} (name : String)

/-- What is looked for in two lists in a row is found in the front one first. -/
theorem Dict.findEntry_append (front back : List (String × α)) :
    findEntry name (front ++ back) = (findEntry name front).or (findEntry name back) := by
  induction front with
  | nil => rfl
  | cons entry front ih =>
    rw [List.cons_append, findEntry, findEntry]
    split
    · rfl
    · exact ih

/-- A member that may be left out is found under its own name, if it is given. -/
theorem findEntry_optionalMember (other : String) (x : Option Binary64) :
    Dict.findEntry name (optionalMember other x) =
      if name = other then x.map Json.ofReal else none := by
  cases x with
  | none => simp [optionalMember, Dict.findEntry]
  | some x => simp [optionalMember, Dict.findEntry]

/-- The tags are found under their name, unless there are none. -/
theorem findEntry_tagsMember (tags : Dict String) :
    Dict.findEntry name (tagsMember tags) =
      if name = "metadata" then if tags.isEmpty then none else some (.ofDict .string tags)
      else none := by
  cases h : tags.isEmpty <;> simp [tagsMember, Dict.findEntry, h]

/-- A bound reads back, whether it is left out or not. -/
theorem elim_map_ofReal {x : Option Binary64} (hx : ∀ y ∈ x, y.isFinite = true) :
    (x.map Json.ofReal).elim (none = x) fun w => Decode.option Source.real w = .ok x := by
  cases x with
  | none => rfl
  | some x => exact Decode.option_ofReal (hx x rfl)

/-- Tags read back, whether they are left out or not. -/
theorem elim_ofDict (tags : Dict String) :
    (if tags.isEmpty then none else some (Json.ofDict .string tags)).elim (.empty = tags)
      fun w => Decode.dict Decode.string w = .ok tags := by
  split
  · next h => exact Dict.ext_get? fun key => (Dict.isEmpty_iff.mp h key).symm
  · exact Decode.dict_ofDict fun text _ => Decode.string_string text

end Members

/-- A datapoint is read back if its bounds are numbers, whichever of its members are left out. -/
theorem Datapoint.decode_encode {d : Datapoint} (hd : d.IsFinite) : decode d.encode = .ok d := by
  have hconverts : (@readers Json _).Converts :=
    ((((((((Fields.converts_required _ _).map _).seq (Fields.converts_required _ _)).seq
      (Fields.converts_defaulted _ _ _)).seq (Fields.converts_required _ _)).seq
      (Fields.converts_defaulted _ _ _)).seq (Fields.converts_defaulted _ _ _)).seq
      (Fields.converts_defaulted _ _ _)).seq (Fields.converts_defaulted _ _ _)
  have hslots (expected : String) (v : Json) :
      Fields.slotsOf expected (@readers Json _).names v =
        [v.slotAt expected "id" 0, v.slotAt expected "name" 1, v.slotAt expected "component" 2,
          v.slotAt expected "path" 3, v.slotAt expected "kind" 4, v.slotAt expected "min" 5,
          v.slotAt expected "max" 6, v.slotAt expected "metadata" 7] := rfl
  have hmin := elim_map_ofReal hd.1
  have hmax := elim_map_ofReal hd.2
  have htags := elim_ofDict d.metadata
  obtain ⟨id, name, component, path, kind, min, max, metadata⟩ := d
  refine Fields.read_object hconverts ?_ fun expected => ?_
  · cases min <;> cases max <;> cases h : metadata.isEmpty <;>
      simp [optionalMember, tagsMember, h]
  · rw [hslots]
    simp [readers, Fields.build_seq_eq_ok_iff, Fields.build_map_eq_ok_iff,
      Fields.build_required_slotAt_iff, Fields.build_defaulted_slotAt_iff, Json.fieldAt?,
      Dict.findEntry, Dict.findEntry_append, findEntry_optionalMember, findEntry_tagsMember,
      Decode.string_string, DatapointKind.decode_encode, hmin, hmax, htags, -Option.elim_map]

/-! ## Configuration -/

/-- The bounds of all datapoints that a push names are numbers. -/
def TargetConfig.IsFinite (c : TargetConfig) : Prop :=
  ∀ source ∈ c.datasources, ∀ points ∈ source.meters.values, ∀ d ∈ points, d.IsFinite

instance (c : TargetConfig) : Decidable c.IsFinite :=
  inferInstanceAs (Decidable (∀ source ∈ c.datasources, ∀ points ∈ source.meters.values,
    ∀ d ∈ points, d.IsFinite))

/-- A tuning is read back with each of its windows. -/
theorem Tuning.decode_encode (t : Tuning) : decode t.encode = .ok t := by
  have hconverts : (@readers Json _).Converts :=
    (((Fields.converts_defaulted _ _ _).map _).seq (Fields.converts_defaulted _ _ _)).seq
      (Fields.converts_defaulted _ _ _)
  have hslots (expected : String) (v : Json) :
      Fields.slotsOf expected (@readers Json _).names v =
        [v.slotAt expected "shortlived" 0, v.slotAt expected "delete_blacklist" 1,
          v.slotAt expected "update_consolidate" 2] := rfl
  refine Fields.read_object hconverts (by simp) fun expected => ?_
  rw [hslots]
  simp [readers, Fields.build_seq_eq_ok_iff, Fields.build_map_eq_ok_iff,
    Fields.build_defaulted_slotAt_iff, Json.fieldAt?, Dict.findEntry, Span.decode_encode]

/-- A datasource is read back if the bounds of its datapoints are numbers. -/
theorem Datasource.decode_encode {source : Datasource}
    (hfinite : ∀ points ∈ source.meters.values, ∀ d ∈ points, d.IsFinite) :
    decode source.encode = .ok source := by
  have hconverts : (@readers Json _).Converts :=
    ((((Fields.converts_required _ _).map _).seq (Fields.converts_required _ _)).seq
      (Fields.converts_defaulted _ _ _)).seq (Fields.converts_defaulted _ _ _)
  have hslots (expected : String) (v : Json) :
      Fields.slotsOf expected (@readers Json _).names v =
        [v.slotAt expected "resource_id" 0, v.slotAt expected "component" 1,
          v.slotAt expected "component_kind" 2, v.slotAt expected "meters" 3] := rfl
  have hmeters : Decode.dict (Decode.list Datapoint.decode)
      (Json.ofDict (Json.ofList Datapoint.encode) source.meters) = .ok source.meters :=
    Decode.dict_ofDict fun points hpoints =>
      Decode.list_ofList fun d hd => Datapoint.decode_encode (hfinite points hpoints d hd)
  refine Fields.read_object hconverts (by simp) fun expected => ?_
  rw [hslots]
  simp [readers, Fields.build_seq_eq_ok_iff, Fields.build_map_eq_ok_iff,
    Fields.build_required_slotAt_iff, Fields.build_defaulted_slotAt_iff, Json.fieldAt?,
    Dict.findEntry, Decode.string_string, hmeters]

/-- A configuration is read back if the bounds of its datapoints are numbers. -/
theorem TargetConfig.decode_encode {c : TargetConfig} (hc : c.IsFinite) :
    decode c.encode = .ok c := by
  have hconverts : (@readers Json _).Converts :=
    (((Fields.converts_defaulted _ _ _).map _).seq (Fields.converts_defaulted _ _ _)).seq
      (Fields.converts_defaulted _ _ _)
  have hslots (expected : String) (v : Json) :
      Fields.slotsOf expected (@readers Json _).names v =
        [v.slotAt expected "datasources" 0, v.slotAt expected "event_types" 1,
          v.slotAt expected "queue" 2] := rfl
  have hsources : Decode.list Datasource.decode (Json.ofList Datasource.encode c.datasources) =
      .ok c.datasources :=
    Decode.list_ofList fun source hsource => Datasource.decode_encode (hc source hsource)
  have htypes : Decode.list Decode.string (Json.ofList .string c.eventTypes) = .ok c.eventTypes :=
    Decode.list_ofList fun text _ => Decode.string_string text
  refine Fields.read_object hconverts (by simp) fun expected => ?_
  rw [hslots]
  simp [readers, Fields.build_seq_eq_ok_iff, Fields.build_map_eq_ok_iff,
    Fields.build_defaulted_slotAt_iff, Json.fieldAt?, Dict.findEntry, Tuning.decode_encode,
    hsources, htypes]

/-! ## What is left out -/

/-- The name of a class is left out exactly when it is empty. -/
theorem Structure.member?_class (p : Structure) :
    p.encode.member? "class_name" = none ↔ p.className = "" := by
  simp only [encode, Json.member?]
  split <;> simp_all [Dict.findEntry]

/-- The component of an event is left out exactly when it is empty. -/
theorem Event.member?_component (e : Event) :
    e.encode.member? "component" = none ↔ e.component = "" := by
  simp only [encode, Json.member?]
  split <;> simp_all [Dict.findEntry]

namespace Datapoint

variable (d : Datapoint)

/-- The lower bound of a datapoint is left out exactly when there is none. -/
theorem member?_min : d.encode.member? "min" = none ↔ d.min = none := by
  simp [encode, Json.member?, Dict.findEntry, Dict.findEntry_append, findEntry_optionalMember,
    findEntry_tagsMember]

/-- The upper bound of a datapoint is left out exactly when there is none. -/
theorem member?_max : d.encode.member? "max" = none ↔ d.max = none := by
  simp [encode, Json.member?, Dict.findEntry, Dict.findEntry_append, findEntry_optionalMember,
    findEntry_tagsMember]

/-- The tags of a datapoint are left out exactly when there are none. -/
theorem member?_metadata : d.encode.member? "metadata" = none ↔ d.metadata.isEmpty = true := by
  simp [encode, Json.member?, Dict.findEntry, Dict.findEntry_append, findEntry_optionalMember,
    findEntry_tagsMember]

end Datapoint

/-! ## Main result -/

/-- **Documents read back.** Records always do, and so do events, datapoints and configuration
pushes whose numbers are finite: a member that is left out, because there is nothing to say, is
filled in by the reader. The windows of a push are written in words, and the words for a span of
any length are read as the same span. -/
theorem documents_read_back :
    (∀ r : Record, Record.decode r.encode = .ok r) ∧
      (∀ e : Event, e.timestamp.isFinite = true → Event.decode e.encode = .ok e) ∧
      (∀ d : Datapoint, d.IsFinite → Datapoint.decode d.encode = .ok d) ∧
      (∀ c : TargetConfig, c.IsFinite → TargetConfig.decode c.encode = .ok c) ∧
      (∀ p : Structure, p.encode.member? "class_name" = none ↔ p.className = "") ∧
      (∀ e : Event, e.encode.member? "component" = none ↔ e.component = "") ∧
      (∀ d : Datapoint, (d.encode.member? "min" = none ↔ d.min = none) ∧
        (d.encode.member? "max" = none ↔ d.max = none) ∧
        (d.encode.member? "metadata" = none ↔ d.metadata.isEmpty = true)) ∧
      ∀ d : Span, Span.parse? d.render = some d :=
  ⟨Record.decode_encode, fun _ => Event.decode_encode, fun _ => Datapoint.decode_encode,
    fun _ => TargetConfig.decode_encode, Structure.member?_class, Event.member?_component,
    fun d => ⟨d.member?_min, d.member?_max, d.member?_metadata⟩, Span.parse?_render⟩

/-- A datapoint with one bound and a tag. -/
def loadPoint : Datapoint where
  id := "load"
  name := "load_load"
  path := "Devices/rack/load"
  min := some (.zero true)
  metadata := Dict.empty.insert "unit" "percent"

/-- A push with one datasource whose queue holds plain updates for no time. -/
def rackConfig : TargetConfig where
  datasources :=
    [{ resourceId := "r7", component := "rack", meters := Dict.empty.insert "load" [loadPoint] }]
  eventTypes := ["rack.opened"]
  queue := { updateConsolidate := .zero }

/-- An event of an unknown component. -/
def rackOpened : Event where
  targetSystem := "cloud"
  eventType := "rack.opened"
  timestamp := .zero false
  traits := Dict.empty.insert "door" .null

/-- An event without a component, a datapoint with one bound and the configuration of a rack are
read back. -/
theorem rack_documents_read_back :
    (rackOpened.timestamp.isFinite = true ∧
      Event.decode rackOpened.encode = .ok rackOpened) ∧
      (loadPoint.IsFinite ∧ Datapoint.decode loadPoint.encode = .ok loadPoint) ∧
      (rackConfig.IsFinite ∧ TargetConfig.decode rackConfig.encode = .ok rackConfig) := by
  obtain ⟨-, hevents, hpoints, hconfigs, -⟩ := documents_read_back
  have hpoint : loadPoint.IsFinite := by decide
  have hconfig : rackConfig.IsFinite := by decide
  exact ⟨⟨rfl, hevents rackOpened rfl⟩, ⟨hpoint, hpoints loadPoint hpoint⟩,
    hconfig, hconfigs rackConfig hconfig⟩

end CloudCollector
