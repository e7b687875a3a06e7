import CloudCollector.Proofs.Pipeline.Drain

/-!
# Calls taken apart into sections

Threads share a pipeline without holding it for a whole call. A push takes it twice, once to
replace what is known about its target and once to tune the queue of the target. A drain takes it
for a moment each time that it reads the configured targets, lists the targets with a state, drains
one of them or forgets one of them. An append takes it once. Between two such sections any other
thread may have its turn. Where nothing comes between them, the sections of a call are the call.
-/

namespace CloudCollector.Pipeline

/-! ## Drains step by step -/

/-- How far a drain has come. -/
inductive DrainStage where
  /-- It is to read which targets are configured. -/
  | reading
  /-- It is to list the targets with a state. -/
  | listing (configured : List String)
  /-- It is to drain the targets that are left, one after the other. -/
  | draining (configured left : List String) (progress : DrainProgress)
  /-- It is to forget the targets that are left and still hold nothing, one after the other. -/
  | pruning (left : List String) (batches : List Batch)
  | finished (batches : List Batch)

/-- Whether a drain has returned. -/
def DrainStage.isFinished : DrainStage → Bool
  | finished _ => true
  | _ => false

/-- One step of a drain, if it is not finished. The targets with a state are listed in any
order. -/
def DrainStage.step? (order : List String → List String) (p : Pipeline) (now : Instant) :
    DrainStage → Option (Pipeline × DrainStage)
  | reading => some (p, .listing p.registry.targets.keys)
  | listing configured => some (p, .draining configured (order p.targets.keys) {})
  | draining configured (name :: left) progress =>
    let (p, progress) := p.drainTarget configured now progress name
    some (p, .draining configured left progress)
  | draining _ [] progress => some (p, .pruning progress.idle progress.batches)
  | pruning (name :: left) batches => some (p.prune name, .pruning left batches)
  | pruning [] batches => some (p.countTargets, .finished batches)
  | finished _ => none

/-- What a step of a drain does, case by case. -/
inductive DrainStage.Steps (order : List String → List String) (p : Pipeline) (now : Instant) :
    DrainStage → Pipeline → DrainStage → Prop where
  | read : Steps order p now .reading p (.listing p.registry.targets.keys)
  | list (configured : List String) :
    Steps order p now (.listing configured) p (.draining configured (order p.targets.keys) {})
  | drain (configured : List String) (name : String) (left : List String)
    (progress : DrainProgress) :
    Steps order p now (.draining configured (name :: left) progress)
      (p.drainTarget configured now progress name).1
      (.draining configured left (p.drainTarget configured now progress name).2)
  | drained (configured : List String) (progress : DrainProgress) :
    Steps order p now (.draining configured [] progress) p
      (.pruning progress.idle progress.batches)
  | prune (name : String) (left : List String) (batches : List Batch) :
    Steps order p now (.pruning (name :: left) batches) (p.prune name) (.pruning left batches)
  | finish (batches : List Batch) :
    Steps order p now (.pruning [] batches) p.countTargets (.finished batches)

/-- A step that a drain takes is one of the steps. -/
theorem DrainStage.steps_of_step? {order : List String → List String} {p : Pipeline}
    {now : Instant} {stage : DrainStage} {next : Pipeline × DrainStage}
    (h : stage.step? order p now = some next) : stage.Steps order p now next.1 next.2 := by
  cases stage with
  | reading =>
    obtain rfl := Option.some.inj h
    exact .read
  | listing configured =>
    obtain rfl := Option.some.inj h
    exact .list configured
  | draining configured left progress =>
    cases left with
    | nil =>
      obtain rfl := Option.some.inj h
      exact .drained configured progress
    | cons name left =>
      obtain rfl := Option.some.inj h
      exact .drain configured name left progress
  | pruning left batches =>
    cases left with
    | nil =>
      obtain rfl := Option.some.inj h
      exact .finish batches
    | cons name left =>
      obtain rfl := Option.some.inj h
      exact .prune name left batches
  | finished batches => cases h

/-! ## Several calls at once -/

/-- A pipeline while calls are under way. -/
structure UnderWay where
  pipeline : Pipeline
  /-- The accepted pushes that have taken their first step and not the second. -/
  pushes : List (String × TargetConfig) := []
  drain : DrainStage := .reading
  /-- The order in which the drain goes over targets. -/
  order : List String → List String

/-- What a thread does to the pipeline while no other thread can reach it. -/
inductive Section where
  /-- The first step of a push. A push that is refused takes no other. -/
  | register (target : String) (config : TargetConfig)
  /-- The second step of an accepted push. -/
  | retune (target : String) (config : TargetConfig)
  | append (target : String) (now : Instant) (record : Option Record)
  /-- The next step of the drain, at the time that its clock shows then. -/
  | drain (now : Instant)
  deriving DecidableEq

namespace UnderWay

/-- The start of calls on a pipeline. -/
def start (p : Pipeline) (order : List String → List String) : UnderWay :=
  { pipeline := p, order }

/-- The pipeline after one more section, unless no call can enter it. -/
def enter? (s : UnderWay) : Section → Option UnderWay
  | .register target config =>
    match checkConfig target config with
    | .error _ => some s
    | .ok () =>
      some { s with
        pipeline := s.pipeline.register target config
        pushes := (target, config) :: s.pushes }
  | .retune target config =>
    if (target, config) ∈ s.pushes then
      some { s with
        pipeline := (s.pipeline.retune target config.queue).countTargets
        pushes := s.pushes.erase (target, config) }
    else none
  | .append target now record =>
    some { s with pipeline := (s.pipeline.appendRecord target now record).1 }
  | .drain now =>
    (s.drain.step? s.order s.pipeline now).map fun next =>
      { s with pipeline := next.1, drain := next.2 }

/-- What a section does, case by case. -/
inductive Enters (s : UnderWay) : Section → UnderWay → Prop where
  | refused {target : String} {config : TargetConfig} {cause : PipelineError}
    (h : checkConfig target config = .error cause) : Enters s (.register target config) s
  | registered {target : String} {config : TargetConfig} (h : checkConfig target config = .ok ()) :
    Enters s (.register target config)
      { s with
        pipeline := s.pipeline.register target config
        pushes := (target, config) :: s.pushes }
  | retuned {target : String} {config : TargetConfig} (h : (target, config) ∈ s.pushes) :
    Enters s (.retune target config)
      { s with
        pipeline := (s.pipeline.retune target config.queue).countTargets
        pushes := s.pushes.erase (target, config) }
  | appended (target : String) (now : Instant) (record : Option Record) :
    Enters s (.append target now record)
      { s with pipeline := (s.pipeline.appendRecord target now record).1 }
  | drained {now : Instant} {p : Pipeline} {stage : DrainStage}
    (h : s.drain.Steps s.order s.pipeline now p stage) :
    Enters s (.drain now) { s with pipeline := p, drain := stage }

/-- What a section does when it is entered is one of the cases. -/
theorem enters_of_enter? {s t : UnderWay} {act : Section} (h : s.enter? act = some t) :
    s.Enters act t := by
  cases act with
  | register target config =>
    rw [enter?] at h
    split at h
    · next hcheck =>
      obtain rfl := Option.some.inj h
      exact .refused hcheck
    · next hcheck =>
      obtain rfl := Option.some.inj h
      exact .registered hcheck
  | retune target config =>
    rw [enter?] at h
    split at h
    · next hpush =>
      obtain rfl := Option.some.inj h
      exact .retuned hpush
    · cases h
  | append target now record =>
    obtain rfl := Option.some.inj h
    exact .appended target now record
  | drain now =>
    obtain ⟨next, hnext, rfl⟩ := Option.map_eq_some_iff.mp h
    exact .drained (DrainStage.steps_of_step? hnext)

/-- The pipeline after an interleaving of sections. -/
def run? (s : UnderWay) (sections : List Section) : Option UnderWay :=
  sections.foldlM enter? s

/-- Whether every call has returned. -/
def Returned (s : UnderWay) : Prop :=
  s.pushes = [] ∧ s.drain.isFinished = true

instance (s : UnderWay) : Decidable s.Returned :=
  inferInstanceAs (Decidable (s.pushes = [] ∧ s.drain.isFinished = true))

/-- No sections change nothing. -/
theorem run?_nil (s : UnderWay) : s.run? [] = some s := rfl

/-- An interleaving enters its first section and then the rest. -/
theorem run?_cons (s : UnderWay) (first : Section) (rest : List Section) :
    s.run? (first :: rest) = (s.enter? first).bind fun next => next.run? rest :=
  List.foldlM_cons ..

/-- An interleaving may be made in two parts. -/
theorem run?_append (s : UnderWay) (first second : List Section) :
    s.run? (first ++ second) = (s.run? first).bind fun next => next.run? second :=
  List.foldlM_append ..

/-- An interleaving enters its last section after the others. -/
theorem run?_concat (s : UnderWay) (sections : List Section) (last : Section) :
    s.run? (sections ++ [last]) = (s.run? sections).bind fun next => next.enter? last := by
  rw [run?_append]
  congr 1
  funext next
  rw [run?_cons]
  cases next.enter? last <;> rfl

/-! ## Calls that no other interrupts -/

/-- The two steps of a push that nothing comes between are the whole push. -/
theorem run?_push (s : UnderWay) {target : String} {config : TargetConfig}
    (h : checkConfig target config = .ok ()) :
    s.run? [.register target config, .retune target config] =
      some { s with pipeline := (s.pipeline.applyConfig target config).1 } := by
  rw [run?_cons, enter?, h, Option.bind_some, run?_cons, enter?, if_pos List.mem_cons_self,
    Option.bind_some, run?_nil, applyConfig, h, List.erase_cons_head]

/-- A refused push does nothing. -/
theorem run?_refused_push (s : UnderWay) {target : String} {config : TargetConfig}
    {cause : PipelineError} (h : checkConfig target config = .error cause) :
    s.run? [.register target config] = some s := by
  rw [run?_cons, enter?, h, Option.bind_some, run?_nil]

section Uninterrupted

variable (now : Instant)

/-- The targets that are left to drain are drained one after the other. -/
theorem run?_draining (s : UnderWay) (configured left : List String) (progress : DrainProgress) :
    run? { s with drain := .draining configured left progress }
        (List.replicate (left.length + 1) (.drain now)) =
      let found := left.foldl (fun x name => x.1.drainTarget configured now x.2 name)
        (s.pipeline, progress)
      some { s with pipeline := found.1, drain := .pruning found.2.idle found.2.batches } := by
  induction left generalizing s progress with
  | nil => rfl
  | cons name left ih =>
    rw [List.length_cons, List.replicate_succ, run?_cons]
    exact ih { s with pipeline := (s.pipeline.drainTarget configured now progress name).1 } _

/-- The targets that are left to prune are pruned one after the other, and then the drain
returns. -/
theorem run?_pruning (s : UnderWay) (left : List String) (batches : List Batch) :
    run? { s with drain := .pruning left batches }
        (List.replicate (left.length + 1) (.drain now)) =
      some { s with
        pipeline := (left.foldl prune s.pipeline).countTargets
        drain := .finished batches } := by
  induction left generalizing s with
  | nil => rfl
  | cons name left ih =>
    rw [List.length_cons, List.replicate_succ, run?_cons]
    exact ih { s with pipeline := s.pipeline.prune name }

/-- The steps of a drain that nothing comes between are the whole drain. -/
theorem exists_run?_drain (p : Pipeline) :
    ∃ steps, (start p id).run? (List.replicate steps (.drain now)) =
      some { start (p.drain now).1 id with drain := .finished (p.drain now).2 } := by
  refine ⟨2 + ((p.targets.keys.length + 1) + ((p.stages now).2.idle.length + 1)), ?_⟩
  rw [← List.replicate_append_replicate, run?_append, ← List.replicate_append_replicate]
  have hbegin : (start p id).run? (List.replicate 2 (.drain now)) =
      some { start p id with
        drain := .draining p.registry.targets.keys p.targets.keys {} } := rfl
  rw [hbegin, Option.bind_some, run?_append, run?_draining, Option.bind_some]
  exact run?_pruning now (start (p.stages now).1 id) _ _

end Uninterrupted

end UnderWay

end CloudCollector.Pipeline
