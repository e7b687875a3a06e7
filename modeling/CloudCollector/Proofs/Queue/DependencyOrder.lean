import CloudCollector.Proofs.Queue.Run
import Mathlib.Tactic.ByContra

/-!
# Dependencies within a release

A release is applied from front to back. A record that refers to an entity which the same
release creates must not come before that creation, although creations may refer to each other
in circles. Splitting the references off solves this, and it loses nothing: each creation and
its link record together are the record that waited.
-/

namespace CloudCollector

namespace Release

/-- No record names an entity whose creation stands behind it. -/
def InDependencyOrder (release : Release) : Prop :=
  ∀ i j (hi : i < release.ordered.length) (hj : j < release.ordered.length),
    release.ordered[j].creates = true →
    release.ordered[j].targetId ∈ release.ordered[i].referencedIds → j ≤ i

/-- The fields of the link record of an entity, none if it has no link record. -/
def linkFields (release : Release) (id : String) : Dict Json :=
  (release.links.find? (·.targetId = id)).elim .empty (·.fields)

/-- A created record and the link record of its entity, if there is one, have no field in common,
and with the fields of the link record put back the created record is the whole one. -/
structure SplitsFrom (release : Release) (whole created : Record) : Prop where
  disjoint : ∀ name, created.fields.get? name = none ∨
    (release.linkFields created.targetId).get? name = none
  recovered :
    { created with fields := created.fields.overlay (release.linkFields created.targetId) } = whole

/-- A link record only sets references, at least one, of exactly one entity that the release
creates, at the place of that entity. -/
structure IsLink (release : Release) (link : Record) : Prop where
  lifecycle_eq : link.lifecycle = .update
  nonempty : link.fields.isEmpty = false
  references : ∀ name value, link.fields.get? name = some value → isReference name = true
  created : ∃ c, release.creates.filter (·.targetId = link.targetId) = [c] ∧ c.place = link.place

/-- A release whose first group creates and whose others do not is in dependency order if no
creation names another. -/
theorem inDependencyOrder_of_creates {release : Release}
    (hlinks : ∀ l ∈ release.links, l.creates = false)
    (hupdates : ∀ r ∈ release.updates, r.creates = false)
    (hcreates : 2 ≤ release.creates.length →
      ∀ c ∈ release.creates, ∀ d ∈ release.creates, d.targetId ∉ c.referencedIds) :
    release.InDependencyOrder := by
  intro i j hi hj hcreated hnamed
  have hordered : release.ordered = release.creates ++ (release.links ++ release.updates) :=
    List.append_assoc _ _ _
  have hjlt : j < release.creates.length := by
    by_contra hge
    have hmem : release.ordered[j] ∈ release.links ++ release.updates := by
      simp only [hordered, List.getElem_append_right (Nat.le_of_not_lt hge), List.getElem_mem]
    rcases List.mem_append.mp hmem with hmem | hmem
    · rw [hlinks _ hmem] at hcreated
      exact Bool.false_ne_true hcreated
    · rw [hupdates _ hmem] at hcreated
      exact Bool.false_ne_true hcreated
  by_contra hlt
  have hilt : i < release.creates.length := by omega
  have hci : release.ordered[i] ∈ release.creates := by
    simp only [hordered, List.getElem_append_left hilt, List.getElem_mem]
  have hcj : release.ordered[j] ∈ release.creates := by
    simp only [hordered, List.getElem_append_left hjlt, List.getElem_mem]
  exact hcreates (by omega) _ hci _ hcj hnamed

end Release

namespace Queue

section Drain

variable {q : Queue} {now : Instant} {out : Release}
  (hout : out.Rearranges (q.drain now).2.1)

include hout

/-- Of several creations in a release none names another or itself. -/
theorem not_mem_referencedIds_of_creates (hlength : 2 ≤ out.creates.length) {c d : Record}
    (hc : c ∈ out.creates) (hd : d ∈ out.creates) : d.targetId ∉ c.referencedIds := by
  obtain ⟨_, h, _, _, rfl⟩ := mem_creates_drain_iff.mp (hout.creates.mem_iff.mp hc)
  obtain ⟨id, k, hdue, hcreates, rfl⟩ := mem_creates_drain_iff.mp (hout.creates.mem_iff.mp hd)
  have hgroup : k.record ∈ (group (q.due now)).creates :=
    List.mem_filter.mpr ⟨List.mem_map_of_mem (Dict.mem_values_iff.mpr ⟨id, hdue⟩), hcreates⟩
  have hcount : out.creates.length = (group (q.due now)).creates.length := by
    rw [hout.creates.length_eq, release_drain, Release.split_eq rfl, List.length_map]
  have htarget := Release.mem_linkTargets (hcount ▸ hlength) hgroup
  exact Record.not_mem_referencedIds_withoutLinks htarget

/-- Every release is in dependency order. -/
theorem inDependencyOrder_drain : out.InDependencyOrder := by
  refine Release.inDependencyOrder_of_creates ?_ ?_ ?_
  · intro l hl
    obtain ⟨_, _, _, _, hlink⟩ := mem_links_drain_iff.mp (hout.links.mem_iff.mp hl)
    obtain ⟨_, rfl⟩ := Record.links?_eq_some_iff.mp hlink
    rfl
  · intro r hr
    exact creates_of_mem_updates_drain (hout.updates.mem_iff.mp hr)
  · intro hlength c hc d hd
    exact not_mem_referencedIds_of_creates hout hlength hc hd

variable (hq : q.Keyed)

include hq

/-- The link fields of a creation that is due are its references to the link targets. -/
theorem linkFields_drain {id : String} {h : Held} (hdue : (q.due now).get? id = some h)
    (hcreates : h.record.creates = true) :
    out.linkFields id = h.record.linked (group (q.due now)).linkTargets := by
  rw [Release.linkFields, ← List.head?_filter, hq.filter_links_drain hout, hdue, Option.elim_some,
    if_pos hcreates]
  cases hlink : h.record.links? (group (q.due now)).linkTargets with
  | none => exact (Record.links?_eq_none_iff.mp hlink).symm
  | some link =>
    obtain ⟨_, rfl⟩ := Record.links?_eq_some_iff.mp hlink
    rfl

/-- Every released creation and its link record together are a record that waited. -/
theorem splitsFrom_drain {c : Record} (hc : c ∈ out.creates) :
    ∃ h, q.held.get? c.targetId = some h ∧ out.SplitsFrom h.record c := by
  obtain ⟨id, h, hdue, hcreates, rfl⟩ := mem_creates_drain_iff.mp (hout.creates.mem_iff.mp hc)
  have hheld := (get?_due_eq_some_iff.mp hdue).1
  have hid : h.record.targetId = id := hq id h hheld
  have hfields := linkFields_drain hout hq hdue hcreates
  rw [Record.targetId_withoutLinks, hid]
  refine ⟨h, hheld, ?_, ?_⟩
  · rw [Record.targetId_withoutLinks, hid, hfields]
    exact h.record.withoutLinks_linked_disjoint _
  · rw [Record.targetId_withoutLinks, hid, hfields, Record.withoutLinks_overlay_linked, ← hid]
    rfl

/-- Every link record of a release has the references of one creation in it. -/
theorem isLink_drain {l : Record} (hl : l ∈ out.links) : out.IsLink l := by
  obtain ⟨id, h, hdue, hcreates, hlink⟩ := mem_links_drain_iff.mp (hout.links.mem_iff.mp hl)
  have hid : h.record.targetId = id := hq.due now id h hdue
  obtain ⟨hnonempty, rfl⟩ := Record.links?_eq_some_iff.mp hlink
  refine ⟨rfl, hnonempty, ?_, h.record.withoutLinks (group (q.due now)).linkTargets, ?_, rfl⟩
  · intro name value hfield
    exact (Record.linksTo_iff.mp (Record.linksTo_of_links? hlink hfield).2).1
  · rw [Record.splitOff, hid, hq.filter_creates_drain hout, hdue, Option.elim_some,
      if_pos hcreates]

end Drain

/-- **Same-batch dependency order and lossless split.** Whatever the arrangement of its groups,
a release of a queue that a run led to is in dependency order, every created record is split
from one that waited under its id, and the link records are links of distinct creations. -/
theorem drain_inDependencyOrder_and_splits {q : Queue} (hq : q.Reachable) {now : Instant}
    {out : Release} (hout : out.Rearranges (q.drain now).2.1) :
    out.InDependencyOrder ∧
    (∀ c ∈ out.creates, ∃ h, q.held.get? c.targetId = some h ∧ out.SplitsFrom h.record c) ∧
    (∀ l ∈ out.links, out.IsLink l) ∧
    ∀ c ∈ out.creates, (out.links.filter (·.targetId = c.targetId)).length ≤ 1 := by
  refine ⟨inDependencyOrder_drain hout, ?_, ?_, ?_⟩
  · intro c hc
    exact splitsFrom_drain hout hq.keyed hc
  · intro l hl
    exact isLink_drain hout hq.keyed hl
  · intro c _
    exact (hq.keyed.single_drain hout c.targetId).2.1

/-- Two hosts that refer to each other, one of them also to itself and to an entity that is not
created, and a disk that refers to both. -/
def clusterCalls : List Call :=
  [.append (.ofSeconds 1000)
      { targetId := "left", lifecycle := .create, fields := .ofList [("name", .string "l"),
        ("set_peers", .array [.string "right", .string "left", .null])] },
    .append (.ofSeconds 1001)
      { targetId := "right", lifecycle := .create, fields := .ofList [("set_peer", .string "left"),
        ("set_zone", .string "eu")] },
    .append (.ofSeconds 1001)
      { targetId := "disk", fields := .ofList [("set_hosts",
        .array [.string "left", .string "right"])] }]

/-- Turned around, the release of the two hosts and the disk is still in dependency order, and
the references between the hosts are in link records. -/
theorem cluster_inDependencyOrder :
    let release := (((fresh {}).after clusterCalls).drain (.ofSeconds 1041)).2.1
    let out : Release := ⟨release.creates.reverse, release.links.reverse, release.updates.reverse⟩
    out.InDependencyOrder ∧ (∀ l ∈ out.links, out.IsLink l) ∧
      out.links.map (·.targetId) = ["right", "left"] := by
  intro release out
  have hout : out.Rearranges release :=
    ⟨List.reverse_perm _, List.reverse_perm _, List.reverse_perm _⟩
  have hsplit := drain_inDependencyOrder_and_splits ⟨{}, clusterCalls, rfl⟩ hout
  exact ⟨hsplit.1, hsplit.2.2.1, by decide⟩

end Queue

end CloudCollector
