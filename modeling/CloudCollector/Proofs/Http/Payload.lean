import CloudCollector.Http.Payload
import CloudCollector.Proofs.Decode.Struct
import Mathlib.Data.List.Forall2
import Mathlib.Tactic.Simproc.ExistsAndEq

/-!
# What telemetry payloads tell

An entry of a payload decodes exactly when it tells a sample, or an event: every field without
default is given, no field is given twice, each is of the right kind, and the time makes sense.
A payload decodes exactly when it is a list of such entries; of several faults the first one in
the list is found.
-/

namespace CloudCollector.Http

/-! ## Kinds of values -/

/-- A text is read from a text. -/
theorem string_eq_ok_iff {v : Json} {text : String} :
    Decode.string v = .ok text ↔ v = .string text := by
  cases v <;> simp [Decode.string, Source.text, Json.asText]

/-- A double is read from any number, as the nearest one. -/
theorem real_eq_ok_iff {v : Json} {x : Binary64} :
    Source.real v = .ok x ↔ ∃ n, v = .number n ∧ n.toBinary64 = x := by
  cases v <;> simp [Source.real, Json.asReal]

/-- Any value is read as itself. -/
theorem json_eq_ok_iff {v w : Json} : Decode.json v = .ok w ↔ v = w := by
  simp [Decode.json]

variable {α : Type}

/-- What a field that may be left out or null tells. -/
def TellsOption (tells : Json → α → Prop) (given : Option Json) : Option α → Prop
  | none => given = none ∨ given = some .null
  | some a => ∃ w, given = some w ∧ w ≠ .null ∧ tells w a

/-- What an optional field tells is decided by whether it is given. -/
theorem tellsOption_iff_elim {tells : Json → α → Prop} {given : Option Json} {told : Option α} :
    TellsOption tells given told ↔
      given.elim (none = told) fun w => TellsOption tells (some w) told := by
  cases given <;> cases told <;> simp [TellsOption]

/-- An optional field is read from null or from something that decodes. -/
theorem option_eq_ok_iff {decode : Json → Reading α} {v : Json} {told : Option α} :
    Decode.option decode v = .ok told ↔
      TellsOption (fun w a => decode w = .ok a) (some v) told := by
  have hoption : Decode.option decode v =
      if v = .null then .ok none else decode v >>= fun a => .ok (some a) := by
    by_cases h : v = .null <;>
      simp [Decode.option, Source.isNone, h, bind, Except.bind, pure, Except.pure]
  rw [hoption]
  by_cases h : v = .null
  · cases told <;> simp [TellsOption, h]
  · cases told <;> simp [TellsOption, h, bind_eq_ok_iff]

/-- Items are read one by one. -/
theorem each_eq_ok_iff {decode : Json → Reading α} {items : List Json} {told : List α} :
    Decode.each decode (items.map .ok) = .ok told ↔
      List.Forall₂ (fun w a => decode w = .ok a) items told := by
  induction items generalizing told with
  | nil => simp [Decode.each, eq_comm]
  | cons w rest ih =>
    have hstep : Decode.each decode ((w :: rest).map .ok) = (do
        let a ← decode w
        let told ← Decode.each decode (rest.map .ok)
        return a :: told) := rfl
    simp only [hstep, bind_eq_ok_iff, pure_eq_ok_iff, ih]
    rw [List.forall₂_cons_left_iff]
    grind

/-- A list is read from an array whose items all decode. -/
theorem list_eq_ok_iff {decode : Json → Reading α} {v : Json} {told : List α} :
    Decode.list decode v = .ok told ↔
      ∃ items, v = .array items ∧ List.Forall₂ (fun w a => decode w = .ok a) items told := by
  cases v with
  | array items =>
    simp [Decode.list, Source.items, Json.asItems, bind, Except.bind, each_eq_ok_iff]
  | _ => simp [Decode.list, Source.items, Json.asItems, bind, Except.bind]

/-! ## Samples -/

/-- Whether a value tells a sample. -/
structure TellsSample (v : Json) (s : Sample) : Prop where
  shape : v.IsStruct ["resource_id", "name", "volume", "timestamp"]
  resource : v.fieldAt? "resource_id" 0 = some (.string s.resourceId)
  meter : v.fieldAt? "name" 1 = some (.string s.meter)
  volume : ∃ n, v.fieldAt? "volume" 2 = some (.number n) ∧ n.toBinary64 = s.volume
  time : ∃ w, v.fieldAt? "timestamp" 3 = some w ∧ instant? w = some s.time

/-- The fields of a sample stand for their slots. -/
theorem converts_sampleReaders : SampleEntry.readers.Converts :=
  ((((Fields.converts_required _ _).map _).seq (Fields.converts_required _ _)).seq
    (Fields.converts_required _ _)).seq (Fields.converts_required _ _)

/-- A sample as it arrives is read exactly from a struct that gives each of its fields. -/
theorem read_sampleEntry_eq_ok_iff {v : Json} {entry : SampleEntry} :
    SampleEntry.readers.read "SampleJson" v = .ok entry ↔
      v.IsStruct ["resource_id", "name", "volume", "timestamp"] ∧
        v.fieldAt? "resource_id" 0 = some (.string entry.resourceId) ∧
        v.fieldAt? "name" 1 = some (.string entry.meter) ∧
        (∃ n, v.fieldAt? "volume" 2 = some (.number n) ∧ n.toBinary64 = entry.volume) ∧
        v.fieldAt? "timestamp" 3 = some entry.time := by
  have hslots (expected : String) : Fields.slotsOf expected SampleEntry.readers.names v =
      [v.slotAt expected "resource_id" 0, v.slotAt expected "name" 1, v.slotAt expected "volume" 2,
        v.slotAt expected "timestamp" 3] := rfl
  obtain ⟨resourceId, meter, volume, time⟩ := entry
  rw [Fields.read_eq_ok_iff converts_sampleReaders, hslots]
  refine and_congr_right fun _ => ?_
  generalize Fields.shape _ _ = expected
  simp [SampleEntry.readers, Fields.build_seq_eq_ok_iff, Fields.build_map_eq_ok_iff,
    Fields.build_required_slotAt_iff, string_eq_ok_iff, real_eq_ok_iff, json_eq_ok_iff]
  grind

/-- A sample is read exactly from the values that tell it. -/
theorem readSample_eq_ok_iff {v : Json} {s : Sample} :
    readSample v = .ok s ↔ TellsSample v s := by
  rw [readSample, bind_eq_ok_iff]
  simp only [mapError_eq_ok_iff, read_sampleEntry_eq_ok_iff]
  constructor
  · rintro ⟨entry, ⟨hshape, hresource, hmeter, hvolume, htime⟩, hread⟩
    split at hread
    · next time hinstant =>
      obtain rfl := pure_eq_ok_iff.mp hread
      exact ⟨hshape, hresource, hmeter, hvolume, entry.time, htime, hinstant⟩
    · cases hread
  · rintro ⟨hshape, hresource, hmeter, hvolume, time, htime, hinstant⟩
    refine ⟨⟨s.resourceId, s.meter, s.volume, time⟩,
      ⟨hshape, hresource, hmeter, hvolume, htime⟩, ?_⟩
    rw [hinstant]
    rfl

/-! ## Events -/

/-- Whether a value tells the fields of an event. -/
structure TellsEventEntry (v : Json) (entry : EventEntry) : Prop where
  shape : v.IsStruct ["event_type", "generated", "message_id", "traits"]
  eventType : v.fieldAt? "event_type" 0 = some (.string entry.eventType)
  generated : TellsOption (· = ·) (v.fieldAt? "generated" 1) entry.generated
  messageId : TellsOption (fun w id => w = .string id) (v.fieldAt? "message_id" 2) entry.messageId
  traits : (v.fieldAt? "traits" 3).elim (entry.traits = []) fun w =>
    ∃ items, w = .array items ∧ List.Forall₂ (fun w t => readTrait w = .ok t) items entry.traits

/-- When an event happened that is reported now. -/
def EventEntry.happened (entry : EventEntry) (now : Instant) : Option Instant :=
  entry.generated.elim (some now) instant?

/-- The event of a target that happened at a time. -/
def EventEntry.event (entry : EventEntry) (target : String) (time : Instant) : Event :=
  let event : Event :=
    { targetSystem := target
      eventType := entry.eventType
      timestamp := time.unixSeconds
      traits := entry.allTraits }
  { event with severity := severityOf (event.traitText "priority") }

/-- Whether a value tells an event of a target. An event that tells no time happened now. -/
def TellsEvent (target : String) (now : Instant) (v : Json) (e : Event) : Prop :=
  ∃ entry time, TellsEventEntry v entry ∧ entry.happened now = some time ∧
    e = entry.event target time

/-- The fields of an event stand for their slots. -/
theorem converts_eventReaders : EventEntry.readers.Converts :=
  ((((Fields.converts_required _ _).map _).seq (Fields.converts_defaulted _ _ _)).seq
    (Fields.converts_defaulted _ _ _)).seq (Fields.converts_defaulted _ _ _)

/-- An event as it arrives is read exactly from the values that tell its fields. -/
theorem read_eventEntry_eq_ok_iff {v : Json} {entry : EventEntry} :
    EventEntry.readers.read "EventJson" v = .ok entry ↔ TellsEventEntry v entry := by
  have hnames :
      EventEntry.readers.names = ["event_type", "generated", "message_id", "traits"] := rfl
  have hslots (expected : String) : Fields.slotsOf expected EventEntry.readers.names v =
      [v.slotAt expected "event_type" 0, v.slotAt expected "generated" 1,
        v.slotAt expected "message_id" 2, v.slotAt expected "traits" 3] := rfl
  obtain ⟨eventType, generated, messageId, traits⟩ := entry
  rw [Fields.read_eq_ok_iff converts_eventReaders, hslots, hnames]
  generalize Fields.shape _ _ = expected
  simp [EventEntry.readers, Fields.build_seq_eq_ok_iff, Fields.build_map_eq_ok_iff,
    Fields.build_required_slotAt_iff, Fields.build_defaulted_slotAt_iff, string_eq_ok_iff,
    option_eq_ok_iff, json_eq_ok_iff, list_eq_ok_iff, ← tellsOption_iff_elim]
  constructor
  · rintro ⟨hshape, ⟨heventType, hgenerated, hmessageId⟩, htraits⟩
    exact ⟨hshape, heventType, hgenerated, hmessageId, htraits⟩
  · rintro ⟨hshape, heventType, hgenerated, hmessageId, htraits⟩
    exact ⟨hshape, ⟨heventType, hgenerated, hmessageId⟩, htraits⟩

/-- An event is read exactly from the values that tell it. -/
theorem readEvent_eq_ok_iff {target : String} {now : Instant} {v : Json} {e : Event} :
    readEvent target now v = .ok e ↔ TellsEvent target now v e := by
  simp only [readEvent, bind_eq_ok_iff, mapError_eq_ok_iff, read_eventEntry_eq_ok_iff]
  refine exists_congr fun entry => ?_
  rw [exists_and_left]
  refine and_congr_right fun _ => ?_
  unfold EventEntry.happened EventEntry.event
  cases entry.generated with
  | none => simp [bind, Except.bind, pure, Except.pure, eq_comm]
  | some w =>
    cases hinstant : instant? w with
    | none => simp [hinstant, bind, Except.bind, throw, throwThe, MonadExceptOf.throw]
    | some time => simp [hinstant, bind, Except.bind, pure, Except.pure, eq_comm]

/-! ## Payloads -/

section Payloads

variable {read : Json → Except String α}

/-- An entry that decodes comes in front of the others. -/
theorem readEntries_cons_of_ok {v : Json} {a : α} (index : Nat) (rest : List Json)
    (h : read v = .ok a) :
    readEntries read index (v :: rest) = (readEntries read (index + 1) rest).map (a :: ·) := by
  rw [readEntries, h]
  cases readEntries read (index + 1) rest <;> rfl

/-- Entries that all decode are read in their order. -/
theorem readEntries_of_forall₂ {items : List Json} {entries : List α} (index : Nat)
    (h : List.Forall₂ (fun v a => read v = .ok a) items entries) :
    readEntries read index items = .ok entries := by
  induction h generalizing index with
  | nil => rfl
  | cons hfirst _ ih => rw [readEntries_cons_of_ok index _ hfirst, ih (index + 1)]; rfl

/-- The first entry that does not decode refuses the payload. -/
theorem readEntries_of_error {before after : List Json} {v : Json} {cause : String} (index : Nat)
    (hbefore : ∀ w ∈ before, ∃ a, read w = .ok a) (hcause : read v = .error cause) :
    readEntries read index (before ++ v :: after) =
      .error (.malformed (index + before.length) cause) := by
  induction before generalizing index with
  | nil => rw [List.nil_append, readEntries, hcause]; rfl
  | cons w before ih =>
    obtain ⟨a, ha⟩ := hbefore w List.mem_cons_self
    have hrest := ih (index + 1) fun u hu => hbefore u (List.mem_cons_of_mem w hu)
    have hplace : index + 1 + before.length = index + (w :: before).length := by
      rw [List.length_cons]
      omega
    rw [List.cons_append, readEntries_cons_of_ok index _ ha, hrest, hplace]
    rfl

end Payloads

end CloudCollector.Http
