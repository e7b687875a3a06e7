import CloudCollector.Proofs.Pipeline.Run
import Mathlib.Data.List.DropRight

/-!
# Target systems do not disturb each other

A pipeline treats each target as if it were alone, and a removal forgets the target entirely. A run
is cut down to one target: what names other targets is left out, and of what came before the last
removal of the target only the sweeps stay. The pipeline does to the target in the run that is left
what it does in the whole run.
-/

namespace CloudCollector.Pipeline

/-- A run up to the last removal of a target, or nothing of it if there is none. -/
def untilRemoval (target : String) (calls : List Call) : List Call :=
  calls.rdropWhile fun call => call ≠ .removeTarget target

/-- A run since the last removal of a target, or all of it if there is none. -/
def sinceRemoval (target : String) (calls : List Call) : List Call :=
  calls.rtakeWhile fun call => call ≠ .removeTarget target

/-- A run without what the target does not need: before its last removal the sweeps are kept, and
since then what names the target and the sweeps. -/
def cutDownTo (target : String) (calls : List Call) : List Call :=
  (untilRemoval target calls).filter Call.isSweep ++
    (sinceRemoval target calls).filter (Call.concerns target)

/-- What an answer says about one target: of a drain the batches of the target, and of a discovery
nothing, as it counts over all targets. -/
def Answer.about (target : String) : Answer → Answer
  | .drained batches => .drained (batchesOf target batches)
  | .discovered _ => .nothing
  | answer => answer

/-- What a run answers to the calls that concern a target, as far as it is about the target. -/
def answersTo (target : String) (p : Pipeline) : List Call → List Answer
  | [] => []
  | call :: rest =>
    if call.concerns target then
      (p.step call).2.about target :: answersTo target (p.perform call) rest
    else answersTo target (p.perform call) rest

section Target

variable {target : String} {p q : Pipeline}

/-- Pipelines that are the same at a target answer alike to what concerns it. -/
theorem SameAt.about_eq (h : SameAt target p q) {call : Call}
    (hcall : call.concerns target = true) :
    (p.step call).2.about target = (q.step call).2.about target := by
  by_cases hname : call.target? = some target
  · rw [(h.step hname).result]
  · have hsweep : call.isSweep = true := by simpa [Call.concerns, hname] using hcall
    cases call with
    | drain now => exact congrArg Answer.drained (h.batchesOf_drain_eq now)
    | discover now =>
      have hcount (r : Pipeline) : (r.step (.discover now)).2.about target = .nothing := rfl
      rw [hcount, hcount]
    | _ => cases hsweep

/-- Pipelines that are the same at a target stay so if one of them misses what does not concern
it. -/
theorem SameAt.after_filter (h : SameAt target p q) (calls : List Call) :
    SameAt target (p.after calls) (q.after (calls.filter (Call.concerns target))) := by
  induction calls generalizing p q with
  | nil => exact h
  | cons call rest ih =>
    rw [after_cons]
    cases hcall : call.concerns target with
    | false =>
      rw [List.filter_cons_of_neg (by simp [hcall])]
      exact ih ((sameAt_perform_of_not_concerns hcall).trans h)
    | true =>
      rw [List.filter_cons_of_pos hcall, after_cons]
      exact ih (h.perform call)

/-- Pipelines that are the same at a target give the same answers to it if one of them misses what
does not concern it. -/
theorem SameAt.answersTo_filter (h : SameAt target p q) (calls : List Call) :
    answersTo target p calls = answersTo target q (calls.filter (Call.concerns target)) := by
  induction calls generalizing p q with
  | nil => rfl
  | cons call rest ih =>
    cases hcall : call.concerns target with
    | false =>
      rw [List.filter_cons_of_neg (by simp [hcall]), answersTo, if_neg (by simp [hcall])]
      exact ih ((sameAt_perform_of_not_concerns hcall).trans h)
    | true =>
      rw [List.filter_cons_of_pos hcall, answersTo, answersTo, if_pos hcall, if_pos hcall,
        h.about_eq hcall, ih (h.perform call)]

/-- Sweeps find nothing to do at a target that has no state. -/
theorem sameAt_after_sweeps (settings : Settings) {calls : List Call}
    (h : ∀ call ∈ calls, call.isSweep = true) :
    SameAt target ((fresh settings).after calls) (fresh settings) := by
  have hsweep : ∀ call, call.isSweep = true →
      SameAt target ((fresh settings).perform call) (fresh settings) := by
    intro call hcall
    cases call with
    | drain now =>
      obtain ⟨hsettings, hknown⟩ := (fresh settings).drain_frame now target
      exact ⟨hsettings, hknown, (fresh settings).get?_targets_drain now target⟩
    | discover now => exact ⟨rfl, rfl, (fresh settings).get?_targets_discover now target⟩
    | _ => cases hcall
  induction calls using List.reverseRecOn with
  | nil => exact .refl target _
  | append_singleton calls call ih =>
    rw [after_concat]
    have hbefore := ih fun c hc => h c (List.mem_append_left _ hc)
    exact (hbefore.perform call).trans (hsweep call (h call (by simp)))

end Target

/-- A removal leaves nothing of a target: the run up to it might as well not have been. -/
theorem sameAt_after_untilRemoval (settings : Settings) (target : String) (calls : List Call) :
    SameAt target ((fresh settings).after (untilRemoval target calls)) (fresh settings) := by
  induction calls using List.reverseRecOn with
  | nil => exact .refl target _
  | append_singleton calls call ih =>
    rw [untilRemoval, List.rdropWhile_concat]
    split
    · exact ih
    · next hcall =>
      obtain rfl : call = .removeTarget target := by simpa using hcall
      rw [after_concat]
      refine ⟨?_, ?_, ?_⟩
      · rw [settings_perform, settings_after]
      · exact (get?_known_removeTarget _ target target).trans (if_pos rfl)
      · exact (get?_targets_removeTarget _ target target).trans (if_pos rfl)

/-- **Target systems are isolated.** Since the last removal of a target the calls that name it have
the same answers in a run and in the run cut down to it, and each drain has the same batches of it.
At the end both pipelines know the same about the target, and it has the same queue and the same
sightings in both, or a state in neither. -/
theorem target_isolated (settings : Settings) (target : String) (calls : List Call) :
    answersTo target ((fresh settings).after (untilRemoval target calls))
        (sinceRemoval target calls) =
      answersTo target ((fresh settings).after ((untilRemoval target calls).filter Call.isSweep))
        ((sinceRemoval target calls).filter (Call.concerns target)) ∧
    SameAt target ((fresh settings).after calls)
      ((fresh settings).after (cutDownTo target calls)) := by
  have hsweeps : SameAt target
      ((fresh settings).after ((untilRemoval target calls).filter Call.isSweep)) (fresh settings) :=
    sameAt_after_sweeps settings fun call hcall => (List.mem_filter.mp hcall).2
  have hremoval := (sameAt_after_untilRemoval settings target calls).trans hsweeps.symm
  constructor
  · exact hremoval.answersTo_filter _
  · have hrun := hremoval.after_filter (sinceRemoval target calls)
    rwa [← after_append, ← after_append, untilRemoval, sinceRemoval,
      List.rdropWhile_append_rtakeWhile] at hrun

/-- What a target does not need: other targets, and all of its own before it was removed. -/
example :
    cutDownTo "site"
        [.note "site" "old" (.ofSeconds 14001), .drain (.ofSeconds 14002), .removeTarget "site",
          .note "lab" "disk" (.ofSeconds 14003), .note "site" "new" (.ofSeconds 14004),
          .discover (.ofSeconds 14005), .removeTarget "lab"] =
      [.drain (.ofSeconds 14002), .note "site" "new" (.ofSeconds 14004),
        .discover (.ofSeconds 14005)] := by
  decide

end CloudCollector.Pipeline
