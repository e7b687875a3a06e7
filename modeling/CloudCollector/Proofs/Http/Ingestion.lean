import CloudCollector.Http.Service
import CloudCollector.Proofs.Http.Payload
import CloudCollector.Proofs.Pipeline.Refusal
import CloudCollector.Proofs.Pipeline.Waiting

/-!
# Telemetry is taken as a whole or refused as a whole

A request to an endpoint for telemetry is judged by its target, by the type of its content, by its
syntax and by its entries, in that order, and the first judgement that it fails decides the answer.
A refusal is counted by its reason and changes nothing else. Telemetry that passes is taken entry
by entry, and none of the entries can be refused any more.
-/

namespace CloudCollector.Http

/-! ## What a request carries -/

/-- Whether a header names JSON: in front of the first semicolon, with white space around it and
in whatever case. -/
def NamesJson (header : String) : Prop :=
  String.ofList (Text.toLowerAscii (Text.trim (Text.cutAt ';' header.toList).1)) =
    "application/json"

/-- Whether the type of the content is announced as JSON, in visible characters. -/
def Announced (contentType : Option String) : Prop :=
  ∃ header, contentType = some header ∧ isVisible header = true ∧ NamesJson header

/-- The check of the header finds out whether the content is announced. -/
theorem announcesJson_iff {contentType : Option String} :
    announcesJson contentType = true ↔ Announced contentType := by
  cases contentType with
  | none => simp [announcesJson, Announced]
  | some header => simp [announcesJson, Announced, NamesJson]

variable {reader : ByteArray → Option Json} {p : Pipeline} {now : Instant} {target : String}
  {r : Request} {v : Json}

/-- Whether a request carries a document to a target that somebody configured. What the document is
depends on how it is read. -/
structure Carries (reader : ByteArray → Option Json) (p : Pipeline) (target : String) (r : Request)
    (v : Json) : Prop where
  configured : p.hasTarget target = true
  announced : Announced r.contentType
  document : reader r.body = some v

/-- A request for a target that nobody configured is refused before anything of it is read. -/
theorem readBody_of_unknown (h : p.hasTarget target = false) :
    readBody reader p target r = .error (.ingest (.unknownTarget target)) := by
  rw [readBody, if_pos (by simp [h])]

/-- Content that is not announced is refused before it is read. -/
theorem readBody_of_unannounced (hconfigured : p.hasTarget target = true)
    (h : ¬Announced r.contentType) : readBody reader p target r = .error .unsupportedMediaType := by
  rw [← announcesJson_iff] at h
  rw [readBody, if_neg (by simp [hconfigured]), if_pos (by simp [h])]

/-- Content that is announced is read. -/
theorem readBody_of_announced (hconfigured : p.hasTarget target = true)
    (h : Announced r.contentType) :
    readBody reader p target r = (reader r.body).elim (.error .badJson) .ok := by
  rw [← announcesJson_iff] at h
  rw [readBody, if_neg (by simp [hconfigured]), if_neg (by simp [h])]
  cases reader r.body <;> rfl

/-- The document that a request carries is what is read of it. -/
theorem Carries.readBody_eq (h : Carries reader p target r v) :
    readBody reader p target r = .ok v := by
  rw [readBody_of_announced h.configured h.announced, h.document, Option.elim_some]

/-! ## Answers -/

/-- A refusal: it answers with a status, counts its reason, and leaves everything else as it was. -/
structure Refuses (p : Pipeline) (status : Nat) (reason : String) (answer : Pipeline × Response) :
    Prop where
  status_eq : answer.2.status = status
  counted (label : String) : answer.1.health.ingestRejected.getD label 0 =
    p.health.ingestRejected.getD label 0 + if label = reason then 1 else 0
  unchanged : answer.1 = { p with health.ingestRejected := answer.1.health.ingestRejected }

/-- A refusal for the entry at some place of a payload, which the response names. -/
structure RefusesEntry (p : Pipeline) (index : Nat) (answer : Pipeline × Response) : Prop
    extends Refuses p 422 "malformed" answer where
  named : ∃ cause, answer.2.content =
    .text ("Error processing data: " ++ ("sample " ++ toString index ++ ": " ++ cause))

/-- A refusal answers with its status and is counted by its reason. -/
theorem refuses_answerIngest (p : Pipeline) (rejection : Rejection) :
    Refuses p rejection.response.status rejection.reason (answerIngest (p, .error rejection)) := by
  refine ⟨rfl, fun label => ?_, rfl⟩
  change (p.health.ingestRejected.count rejection.reason 1).getD label 0 = _
  rw [Dict.count, Dict.update, Dict.getD, Dict.get?_insert]
  split
  · next hlabel => rw [hlabel]; rfl
  · rfl

/-- A refusal of an entry names the place of the entry. -/
theorem refusesEntry_answerIngest (p : Pipeline) (index : Nat) (cause : String) :
    RefusesEntry p index (answerIngest (p, .error (.ingest (.malformed index cause)))) :=
  ⟨refuses_answerIngest p (.ingest (.malformed index cause)), cause, rfl⟩

/-- How an endpoint for telemetry answers a request whose document is read by `reader`. `Tells` says
what an entry of a payload tells, `Takes` what becomes of the entries of a payload that is taken. -/
structure AnswersTelemetry {α : Type} (reader : ByteArray → Option Json) (p : Pipeline)
    (target : String) (r : Request) (Tells : Json → α → Prop)
    (Takes : List α → Pipeline × Response → Prop) (answer : Pipeline × Response) : Prop where
  unknown : p.hasTarget target = false → Refuses p 404 "unknown_target" answer
  unannounced : p.hasTarget target = true → ¬Announced r.contentType →
    Refuses p 415 "unsupported_media_type" answer
  noDocument : p.hasTarget target = true → Announced r.contentType → reader r.body = none →
    Refuses p 400 "bad_json" answer
  noList {v : Json} :
    Carries reader p target r v → (∀ items, v ≠ .array items) → RefusesEntry p 0 answer
  noEntry {before after : List Json} {v : Json} :
    Carries reader p target r (.array (before ++ v :: after)) → (∀ w ∈ before, ∃ a, Tells w a) →
      (¬∃ a, Tells v a) → RefusesEntry p before.length answer
  taken {items : List Json} {entries : List α} :
    Carries reader p target r (.array items) → List.Forall₂ Tells items entries →
      Takes entries answer

/-- Reads a payload entry by entry, and takes the entries if all of them decode. -/
def takeTelemetry {α : Type} (reader : ByteArray → Option Json) (read : Json → Except String α)
    (take : List α → Pipeline × Except Rejection Unit) (p : Pipeline) (target : String)
    (r : Request) : Pipeline × Except Rejection Unit :=
  match readBody reader p target r with
  | .error rejection => (p, .error rejection)
  | .ok payload =>
    match readPayload read payload with
    | .error cause => (p, .error (.ingest cause))
    | .ok entries => take entries

/-- A request that is refused before its payload is read takes nothing. -/
theorem takeTelemetry_of_error {α : Type} {read : Json → Except String α}
    {take : List α → Pipeline × Except Rejection Unit} {rejection : Rejection}
    (h : readBody reader p target r = .error rejection) :
    takeTelemetry reader read take p target r = (p, .error rejection) := by
  rw [takeTelemetry, h]

/-- The entries of a document that a request carries are taken if all of them decode. -/
theorem Carries.takeTelemetry_eq {α : Type} {read : Json → Except String α}
    {take : List α → Pipeline × Except Rejection Unit} (h : Carries reader p target r v) :
    takeTelemetry reader read take p target r = match readPayload read v with
      | .error cause => (p, .error (.ingest cause))
      | .ok entries => take entries := by
  rw [takeTelemetry, h.readBody_eq]

/-- Where entries are read as they tell and taken as they should be, telemetry is answered as it
should be. -/
theorem answersTelemetry_takeTelemetry {α : Type} {Tells : Json → α → Prop}
    {Takes : List α → Pipeline × Response → Prop} {read : Json → Except String α}
    {take : List α → Pipeline × Except Rejection Unit}
    (hread : ∀ v a, read v = .ok a ↔ Tells v a)
    (htake : ∀ entries, p.hasTarget target = true → Takes entries (answerIngest (take entries))) :
    AnswersTelemetry reader p target r Tells Takes
      (answerIngest (takeTelemetry reader read take p target r)) where
  unknown h := by
    rw [takeTelemetry_of_error (readBody_of_unknown h)]
    exact refuses_answerIngest p (.ingest (.unknownTarget target))
  unannounced hconfigured h := by
    rw [takeTelemetry_of_error (readBody_of_unannounced hconfigured h)]
    exact refuses_answerIngest p .unsupportedMediaType
  noDocument hconfigured hannounced h := by
    have hbody : readBody reader p target r = .error .badJson := by
      rw [readBody_of_announced hconfigured hannounced, h, Option.elim_none]
    rw [takeTelemetry_of_error hbody]
    exact refuses_answerIngest p .badJson
  noList {v} h hlist := by
    have hpayload : readPayload read v = .error (.malformed 0 "payload is not a list") := by
      cases v with
      | array items => exact absurd rfl (hlist items)
      | _ => rfl
    rw [h.takeTelemetry_eq, hpayload]
    exact refusesEntry_answerIngest p 0 _
  noEntry {before after v} h hbefore hfault := by
    obtain ⟨cause, hcause⟩ : ∃ cause, read v = .error cause := by
      cases hv : read v with
      | ok a => exact absurd ⟨a, (hread v a).mp hv⟩ hfault
      | error cause => exact ⟨cause, rfl⟩
    have hpayload : readPayload read (.array (before ++ v :: after)) =
        .error (.malformed before.length cause) := by
      rw [readPayload, readEntries_of_error 0 _ hcause, Nat.zero_add]
      exact fun w hw => (hbefore w hw).imp fun a ha => (hread w a).mpr ha
    rw [h.takeTelemetry_eq, hpayload]
    exact refusesEntry_answerIngest p before.length cause
  taken {items entries} h htells := by
    have hpayload : readPayload read (.array items) = .ok entries :=
      readEntries_of_forall₂ 0 (htells.imp fun v a ha => (hread v a).mpr ha)
    rw [h.takeTelemetry_eq, hpayload]
    exact htake entries h.configured

/-! ## Telemetry that is taken -/

/-- What becomes of samples that are taken. -/
structure TakesSamples (p : Pipeline) (now : Instant) (target : String) (samples : List Sample)
    (answer : Pipeline × Response) : Prop where
  response : answer.2 = { status := 200 }
  taken : ∃ summary, p.ingestSamples target now samples = (answer.1, .ok summary) ∧
    summary.accepted = samples.length
  metrics : answer.1.metrics = p.metrics ++ samples.flatMap (p.writesOf target now)

/-- What becomes of events that are taken: one is taken after the other. -/
structure TakesEvents (p : Pipeline) (now : Instant) (target : String) (events : List Event)
    (answer : Pipeline × Response) : Prop where
  response : answer.2 = { status := 200 }
  inTurn : answer.1 = p.after (events.map (.ingestEvent target now))
  taken : ∀ before e after, events = before ++ e :: after →
    ∃ count, ((p.after (before.map (.ingestEvent target now))).ingestEvent target now e).2 =
      .ok count
  events : answer.1.events = p.events ++ events.map fun e => (p.interpret target e).1

/-- The way on from accepted entries to samples in the pipeline. -/
theorem takeSamples_eq :
    takeSamples reader p now target r = takeTelemetry reader readSample
      (fun samples => (p.ingestSamples target now samples).map id fun result =>
        (result.mapError .ingest).map fun _ => ()) p target r := by
  unfold takeSamples takeTelemetry
  cases readBody reader p target r with
  | error _ => rfl
  | ok payload =>
    dsimp only
    cases readPayload readSample payload <;> rfl

/-- The way on from accepted entries to events in the pipeline. -/
theorem takeEvents_eq :
    takeEvents reader p now target r =
      takeTelemetry reader (readEvent target now) (fun events => takeEach now target events p) p
        target r := by
  unfold takeEvents takeTelemetry
  cases readBody reader p target r with
  | error _ => rfl
  | ok payload =>
    dsimp only
    cases readPayload (readEvent target now) payload <;> rfl

/-- A configured target takes any samples. -/
theorem takesSamples_of_hasTarget (samples : List Sample) (hname : target ≠ "")
    (hconfigured : p.hasTarget target = true) :
    TakesSamples p now target samples (answerIngest
      ((p.ingestSamples target now samples).map id fun result =>
        (result.mapError .ingest).map fun _ => ())) := by
  have hmetrics := (p.sameDelivery_ingestSamples target now samples).metrics
  rw [Pipeline.Call.writes, if_pos hconfigured] at hmetrics
  obtain ⟨summary, hresult, haccepted⟩ :=
    p.ingestSamples_of_hasTarget now samples hname hconfigured
  have hanswer : answerIngest ((p.ingestSamples target now samples).map id fun result =>
      (result.mapError .ingest).map fun _ => ()) =
        ((p.ingestSamples target now samples).1, { status := 200 }) := by
    rw [Prod.map, hresult]
    rfl
  rw [hanswer]
  exact ⟨rfl, ⟨summary, Prod.ext rfl hresult, haccepted⟩, hmetrics⟩

/-- The pipeline after events were taken in turn knows what it knew before. -/
theorem registry_after_ingestEvents (events : List Event) :
    (p.after (events.map (.ingestEvent target now))).registry = p.registry := by
  induction events generalizing p with
  | nil => rfl
  | cons e events ih => exact ih.trans (p.known_ingestEvent target now e)

/-- A configured target takes one event after the other and refuses none. -/
theorem takeEach_of_hasTarget (events : List Event) (hname : target ≠ "")
    (hconfigured : p.hasTarget target = true) :
    takeEach now target events p = (p.after (events.map (.ingestEvent target now)), .ok ()) := by
  induction events generalizing p with
  | nil => rfl
  | cons e events ih =>
    have hresult := (p.ingestEvent_of_hasTarget now e hname hconfigured).1
    have hstep : p.ingestEvent target now e = (p.perform (.ingestEvent target now e),
        .ok (p.interpret target e).2.toList.length) := Prod.ext rfl hresult
    have hknown : (p.perform (.ingestEvent target now e)).registry = p.registry :=
      p.known_ingestEvent target now e
    rw [takeEach, hstep]
    exact ih (by rwa [Pipeline.hasTarget, hknown])

/-- Events that are taken in turn are sent on in their order. -/
theorem events_after_ingestEvents (events : List Event) (hconfigured : p.hasTarget target = true) :
    (p.after (events.map (.ingestEvent target now))).events =
      p.events ++ events.map fun e => (p.interpret target e).1 := by
  induction events generalizing p with
  | nil => exact (List.append_nil _).symm
  | cons e events ih =>
    have hknown : (p.perform (.ingestEvent target now e)).registry = p.registry :=
      p.known_ingestEvent target now e
    have hinterpret (e' : Event) :
        (p.perform (.ingestEvent target now e)).interpret target e' = p.interpret target e' := by
      rw [Pipeline.interpret, Pipeline.interpret, hknown]
    have hevents := (p.sameDelivery_ingestEvent target now e).events
    rw [Pipeline.Call.events, if_pos hconfigured] at hevents
    rw [List.map_cons, Pipeline.after_cons, ih (by rwa [Pipeline.hasTarget, hknown])]
    simp only [hinterpret, List.map_cons]
    exact (congrArg (· ++ _) hevents).trans (List.append_assoc _ _ _)

/-- A configured target takes any events. -/
theorem takesEvents_of_hasTarget (events : List Event) (hname : target ≠ "")
    (hconfigured : p.hasTarget target = true) :
    TakesEvents p now target events (answerIngest (takeEach now target events p)) := by
  rw [takeEach_of_hasTarget events hname hconfigured]
  refine ⟨rfl, rfl, fun before e after _ => ?_, events_after_ingestEvents events hconfigured⟩
  have hknown : (p.after (before.map (.ingestEvent target now))).hasTarget target = true := by
    rwa [Pipeline.hasTarget, registry_after_ingestEvents]
  exact ⟨_, (Pipeline.ingestEvent_of_hasTarget _ now e hname hknown).1⟩

/-! ## The endpoints -/

/-- Whether a request posts to an endpoint for telemetry of a target what fits into memory. -/
structure Posts (r : Request) (route : String → Route) (target : String) : Prop where
  method : r.method = "POST"
  addressed : ∃ spelled, Route.ofPath? r.path = some (route spelled) ∧
    percentDecode? spelled = some target
  fits : r.body.size ≤ maxBody

/-- What is posted to an endpoint that takes nothing but posts reaches its target. -/
theorem Posts.exists_serveTarget {route : String → Route} (h : Posts r route target)
    (hmethods : ∀ spelled, (route spelled).methods = ["POST"])
    (htarget : ∀ spelled, (route spelled).target? = some spelled) :
    ∃ spelled, serveWith reader p now r = serveTarget reader p now r (route spelled) target := by
  obtain ⟨spelled, hpath, hspelled⟩ := h.addressed
  have hmethod : (!(route spelled).methods.contains r.method) = false := by
    rw [hmethods, h.method]
    rfl
  refine ⟨spelled, ?_⟩
  simp only [serveWith, hpath, hmethod, htarget, hspelled, Bool.false_eq_true, if_false]

/-- What is posted to the endpoint for samples is taken as samples. -/
theorem serveWith_samples (h : Posts r .samples target) :
    serveWith reader p now r = answerIngest (takeSamples reader p now target r) := by
  obtain ⟨spelled, hserve⟩ := h.exists_serveTarget (fun _ => rfl) fun _ => rfl
  rw [hserve, serveTarget, if_neg (Nat.not_lt.mpr h.fits)]

/-- What is posted to the endpoint for events is taken as events. -/
theorem serveWith_events (h : Posts r .events target) :
    serveWith reader p now r = answerIngest (takeEvents reader p now target r) := by
  obtain ⟨spelled, hserve⟩ := h.exists_serveTarget (fun _ => rfl) fun _ => rfl
  rw [hserve, serveTarget, if_neg (Nat.not_lt.mpr h.fits)]

/-- **Telemetry is taken as a whole or refused as a whole.** However documents are read, the
endpoints for samples and for events of every reachable pipeline answer 404 if nobody configured the
target, else 415 if the content is not announced as JSON in visible characters, else 400 if no
document can be read, else 422 with the place of the first entry that does not decode, where a
document that is no list counts as a fault at the first place, else 200. A refusal changes nothing
but the count of its reason. Entries that are taken are taken in turn, and the pipeline refuses none
of them. -/
theorem telemetry_all_or_nothing (reader : ByteArray → Option Json) (hp : p.Reachable)
    (now : Instant) (target : String) (r : Request) :
    AnswersTelemetry reader p target r TellsSample (TakesSamples p now target)
        (answerIngest (takeSamples reader p now target r)) ∧
      AnswersTelemetry reader p target r (TellsEvent target now) (TakesEvents p now target)
        (answerIngest (takeEvents reader p now target r)) ∧
      (Posts r .samples target →
        serveWith reader p now r = answerIngest (takeSamples reader p now target r)) ∧
      (Posts r .events target →
        serveWith reader p now r = answerIngest (takeEvents reader p now target r)) := by
  refine ⟨?_, ?_, serveWith_samples, serveWith_events⟩
  · rw [takeSamples_eq]
    exact answersTelemetry_takeTelemetry (fun v s => readSample_eq_ok_iff)
      fun samples hconfigured =>
        takesSamples_of_hasTarget samples (hp.ne_of_hasTarget hconfigured) hconfigured
  · rw [takeEvents_eq]
    exact answersTelemetry_takeTelemetry (fun v e => readEvent_eq_ok_iff)
      fun events hconfigured =>
        takesEvents_of_hasTarget events (hp.ne_of_hasTarget hconfigured) hconfigured

/-- A request that posts a text, announced by a header. -/
def posting (contentType : Option String) (text : String) : Request :=
  { method := "POST", path := "/ceilometer/v1/samples/site", contentType, body := text.toUTF8 }

/-- The bytes of a text are read as the text is. -/
theorem document?_toUTF8 (text : String) : document? text.toUTF8 = Json.read? text := by
  have hvalid : String.fromUTF8? text.toUTF8 = some text := dif_pos text.isValidUTF8
  rw [document?, hvalid, Option.bind_some]

/-- A site has a machine whose processor feeds a datapoint, and lists one type of events. -/
def machineCalls : List Pipeline.Call :=
  [.applyConfig "site"
    { datasources :=
        [{ resourceId := "vm", component := "server-vm", componentKind := "Instance"
           meters := .ofList [("cpu", [{ id := "load", name := "vm_load", path := "load" }])] }]
      eventTypes := ["compute.instance.update"] }]

/-- The processor reports as a list and as an object, and an interface that nobody models shows
up. -/
def samplesText : String :=
  "[[\"vm\",\"cpu\",1,21090],\x7b\"name\":\"cpu\",\"resource_id\":\"vm\",\"timestamp\":21091," ++
    "\"volume\":2\x7d,[\"tap-vm-eth0\",\"network.incoming.bytes\",3,21092]]"

/-- What the samples tell. -/
def toldSamples : List Sample :=
  [⟨"vm", "cpu", .ofInt 1, .ofSeconds 21090⟩, ⟨"vm", "cpu", .ofInt 2, .ofSeconds 21091⟩,
    ⟨"tap-vm-eth0", "network.incoming.bytes", .ofInt 3, .ofSeconds 21092⟩]

/-- The machine has changed. -/
def eventsText : String :=
  "[[\"compute.instance.update\",21093,\"m-1\",[[\"instance_id\",1,\"vm\"]]]]"

/-- The site takes three samples, of which two are written, and an event, which is sent on. It
refuses a list whose second entry is no sample, what is no list, what breaks off, and what is not
announced; the lab is not known at all. -/
theorem site_judges_telemetry :
    let p := (Pipeline.fresh {}).after machineCalls
    let now : Instant := .ofSeconds 21160
    let ask (target : String) (r : Request) := answerIngest (takeSamples document? p now target r)
    let tell (r : Request) := answerIngest (takeEvents document? p now "site" r)
    let json := posting "application/json"
    ((ask "site" (json samplesText)).2.status = 200 ∧
      (ask "site" (json samplesText)).1.metrics.map (·.datapoint.id) = ["load", "load"]) ∧
      ((tell (json eventsText)).2.status = 200 ∧
        (tell (json eventsText)).1.events.map (·.component) = ["server-vm"]) ∧
      RefusesEntry p 1 (ask "site" (json "[[\"vm\",\"cpu\",1,21090],[]]")) ∧
      RefusesEntry p 0 (tell (json "null")) ∧
      Refuses p 400 "bad_json" (tell (json "[")) ∧
      Refuses p 415 "unsupported_media_type" (ask "site" (posting none "[]")) ∧
      Refuses p 404 "unknown_target" (ask "lab" (posting none "[]")) := by
  intro p now ask tell json
  have hp : p.Reachable := (Pipeline.Reachable.fresh {}).after machineCalls
  have hsite : p.hasTarget "site" = true := by decide
  have hlab : p.hasTarget "lab" = false := by decide
  have hjson : Announced (some "application/json") := announcesJson_iff.mp (by decide)
  have hcarries (text : String) (v : Json) (h : Json.read? text = some v) :
      Carries document? p "site" (json text) v :=
    ⟨hsite, hjson, (document?_toUTF8 text).trans h⟩
  have hsamples (r : Request) := (telemetry_all_or_nothing document? hp now "site" r).1
  have hevents (r : Request) := (telemetry_all_or_nothing document? hp now "site" r).2.1
  refine ⟨?_, ?_, ?_, ?_, ?_, ?_, ?_⟩
  · have hdocument : Carries document? p "site" (json samplesText) (.array
        [.array [.string "vm", .string "cpu", .ofInt 1, .ofInt 21090],
          .object [("name", .string "cpu"), ("resource_id", .string "vm"),
            ("timestamp", .ofInt 21091), ("volume", .ofInt 2)],
          .array [.string "tap-vm-eth0", .string "network.incoming.bytes", .ofInt 3,
            .ofInt 21092]]) := hcarries _ _ (by decide +kernel)
    have htaken : TakesSamples p now "site" toldSamples (ask "site" (json samplesText)) := by
      refine (hsamples _).taken hdocument (.cons ?_ (.cons ?_ (.cons ?_ .nil)))
      · exact ⟨Nat.le_refl 4, rfl, rfl, ⟨_, rfl, rfl⟩, _, rfl, by decide +kernel⟩
      · exact ⟨by simp [Json.IsStruct], rfl, rfl, ⟨_, rfl, rfl⟩, _, rfl, by decide +kernel⟩
      · exact ⟨Nat.le_refl 4, rfl, rfl, ⟨_, rfl, rfl⟩, _, rfl, by decide +kernel⟩
    refine ⟨congrArg Response.status htaken.response, ?_⟩
    rw [htaken.metrics]
    decide +kernel
  · have hdocument : Carries document? p "site" (json eventsText) (.array
        [.array [.string "compute.instance.update", .ofInt 21093, .string "m-1",
          .array [.array [.string "instance_id", .ofInt 1, .string "vm"]]]]) :=
      hcarries _ _ (by decide +kernel)
    let entry : EventEntry :=
      ⟨"compute.instance.update", some (.ofInt 21093), some "m-1", [("instance_id", .string "vm")]⟩
    have htold : TellsEventEntry (.array [.string "compute.instance.update", .ofInt 21093,
        .string "m-1", .array [.array [.string "instance_id", .ofInt 1, .string "vm"]]]) entry :=
      ⟨Nat.le_refl 4, rfl, ⟨_, rfl, by decide, rfl⟩, ⟨_, rfl, by decide, rfl⟩,
        _, rfl, .cons rfl .nil⟩
    have htaken := (hevents _).taken hdocument
      (.cons ⟨entry, .ofSeconds 21093, htold, by decide +kernel, rfl⟩ .nil)
    refine ⟨congrArg Response.status htaken.response, ?_⟩
    rw [htaken.events]
    decide
  · let sample : Json := .array [.string "vm", .string "cpu", .ofInt 1, .ofInt 21090]
    have hdocument : Carries document? p "site" (json "[[\"vm\",\"cpu\",1,21090],[]]")
        (.array ([sample] ++ .array [] :: [])) := hcarries _ _ (by decide +kernel)
    refine (hsamples _).noEntry hdocument ?_ ?_
    · obtain ⟨time, htime⟩ : ∃ time, instant? (.ofInt 21090) = some time :=
        Option.isSome_iff_exists.mp (by decide)
      simp only [List.mem_singleton, forall_eq]
      exact ⟨⟨"vm", "cpu", .ofInt 1, time⟩, Nat.le_refl 4, rfl, rfl, ⟨_, rfl, rfl⟩, _, rfl, htime⟩
    · rintro ⟨s, hs⟩
      cases hs.resource
  · refine (hevents _).noList (hcarries "null" .null (by decide)) fun items hitems => ?_
    cases hitems
  · refine (hevents _).noDocument hsite hjson ((document?_toUTF8 "[").trans ?_)
    decide
  · refine (hsamples _).unannounced hsite ?_
    rintro ⟨header, hheader, -⟩
    cases hheader
  · exact (telemetry_all_or_nothing document? hp now "lab" _).1.unknown hlab

/-- A header that names JSON does not always announce it: a character outside of ASCII in a
parameter makes the whole header unreadable, and telemetry that is fine otherwise is refused,
however documents are read. -/
theorem not_every_json_header_accepted :
    ¬∃ reader : ByteArray → Option Json,
      ∀ (p : Pipeline) (now : Instant) (target : String) (r : Request) (header : String),
        p.Reachable → p.hasTarget target = true → r.contentType = some header → NamesJson header →
          (answerIngest (takeSamples reader p now target r)).2.status ≠ 415 := by
  rintro ⟨reader, h⟩
  have hunannounced : ¬Announced (some "application/json; charset=é") := by
    rw [← announcesJson_iff]
    decide
  refine h ((Pipeline.fresh {}).after machineCalls) (.ofSeconds 21160) "site"
    (posting "application/json; charset=é" "[]") "application/json; charset=é"
    ((Pipeline.Reachable.fresh {}).after _) (by decide) rfl (by unfold NamesJson; decide) ?_
  rw [takeSamples_eq, takeTelemetry_of_error (readBody_of_unannounced (by decide) hunannounced)]
  rfl

end CloudCollector.Http
