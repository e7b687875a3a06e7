import CloudCollector.Proofs.Queue.Conservation
import CloudCollector.Proofs.Queue.DependencyOrder

/-!
# Which references leave a creation

A creation has companions: the other entities that the same release creates. A field of it moves to
the link record of its entity exactly if it is a reference that names a companion, with one
exception. Where there are companions at all, a reference by which a creation names itself moves as
well, whereas a single creation keeps it. So what becomes of a creation that does not name itself
depends on the companions that it names and on no others; one that names itself depends also on
whether it is alone.
-/

namespace CloudCollector

namespace Release

/-- The other entities that a release creates beside one of them. -/
def companions (release : Release) (id : String) : List String :=
  (release.creates.map (·.targetId)).filter (· ≠ id)

/-- A field that waited in a created record is now in the link record of its entity. -/
def Moves (release : Release) (created : Record) (name : String) (value : Json) : Prop :=
  created.fields.get? name = none ∧
    (release.linkFields created.targetId).get? name = some value

/-- A field that waited in a created record is still there. -/
def Keeps (release : Release) (created : Record) (name : String) (value : Json) : Prop :=
  created.fields.get? name = some value ∧
    (release.linkFields created.targetId).get? name = none

/-- A field refers to a companion of the created entity. -/
def NamesCompanion (release : Release) (id name : String) (value : Json) : Prop :=
  isReference name = true ∧ ∃ other ∈ namedIds value, other ∈ release.companions id

/-- A field refers to the created entity itself, which is not the only one. -/
def NamesItself (release : Release) (id name : String) (value : Json) : Prop :=
  isReference name = true ∧ id ∈ namedIds value ∧ release.companions id ≠ []

instance (release : Release) (created : Record) (name : String) (value : Json) :
    Decidable (release.Moves created name value) :=
  inferInstanceAs (Decidable (_ ∧ _))

instance (release : Release) (id name : String) (value : Json) :
    Decidable (release.NamesCompanion id name value) :=
  inferInstanceAs (Decidable (_ ∧ _))

instance (release : Release) (id name : String) (value : Json) :
    Decidable (release.NamesItself id name value) :=
  inferInstanceAs (Decidable (_ ∧ _))

/-- The companions of an entity are the other ones that the release creates. -/
theorem mem_companions_iff {release : Release} {id other : String} :
    other ∈ release.companions id ↔
      (∃ c ∈ release.creates, c.targetId = other) ∧ other ≠ id := by
  rw [companions, List.mem_filter, List.mem_map, decide_eq_true_iff]

/-- Among creations of distinct entities, all but one are companions of that one. -/
theorem length_companions {release : Release} (h : (release.creates.map (·.targetId)).Nodup)
    {c : Record} (hc : c ∈ release.creates) :
    (release.companions c.targetId).length + 1 = release.creates.length := by
  have hmem : c.targetId ∈ release.creates.map (·.targetId) := List.mem_map_of_mem hc
  have herase : release.companions c.targetId =
      (release.creates.map (·.targetId)).erase c.targetId := by
    rw [h.erase_eq_filter, companions]
    congr 1
    funext id
    rw [Bool.eq_iff_iff, decide_eq_true_iff, bne_iff_ne]
  have hlength := List.length_erase_of_mem hmem
  have hpos := List.length_pos_of_mem hmem
  rw [List.length_map] at hlength hpos
  rw [herase, hlength]
  omega

end Release

namespace Queue

section Drain

variable {q : Queue} (hq : q.Keyed) {now : Instant} {out : Release}
  (hout : out.Rearranges (q.drain now).2.1)

include hout in
/-- A release creates the entities of the creations that are due. -/
theorem targetIds_creates_perm :
    (out.creates.map (·.targetId)).Perm ((group (q.due now)).creates.map (·.targetId)) := by
  have hperm := hout.creates.map (·.targetId)
  rwa [release_drain, Release.split_eq rfl, List.map_map] at hperm

include hq hout

/-- Whatever the arrangement of a release, it creates no entity twice. -/
theorem Keyed.nodup_targetIds_creates : (out.creates.map (·.targetId)).Nodup := by
  have hunrepeated := (hq.accounts hout).unrepeated
  rw [List.map_append] at hunrepeated
  exact (List.nodup_append.mp hunrepeated).1

/-- The references that are split off are those to companions, and to the entity itself if it has
companions. -/
theorem Keyed.mem_linkTargets_iff {c : Record} (hc : c ∈ out.creates) {id : String} :
    id ∈ (group (q.due now)).linkTargets ↔
      id ∈ out.companions c.targetId ∨ id = c.targetId ∧ out.companions c.targetId ≠ [] := by
  have hperm := targetIds_creates_perm hout
  have hlength := Release.length_companions (hq.nodup_targetIds_creates hout) hc
  have hcount := hperm.length_eq
  rw [List.length_map, List.length_map] at hcount
  rw [Release.linkTargets]
  split
  · next halone =>
    have hempty : out.companions c.targetId = [] := List.length_eq_zero_iff.mp (by omega)
    simp [hempty]
  · next hseveral =>
    have hcompanions : out.companions c.targetId ≠ [] := List.ne_nil_of_length_pos (by omega)
    have hown : c.targetId ∈ out.creates.map (·.targetId) := List.mem_map_of_mem hc
    rw [← hperm.mem_iff, Release.mem_companions_iff, ← List.mem_map]
    by_cases hid : id = c.targetId
    · simp [hid, hown, hcompanions]
    · simp [hid]

/-- A reference is split off a creation exactly if it names a companion, or the entity itself where
it has companions. -/
theorem Keyed.linksTo_linkTargets_iff {c : Record} (hc : c ∈ out.creates) {name : String}
    {value : Json} :
    Record.linksTo (group (q.due now)).linkTargets name value = true ↔
      out.NamesCompanion c.targetId name value ∨ out.NamesItself c.targetId name value := by
  rw [Record.linksTo_iff, Release.NamesCompanion, Release.NamesItself, ← and_or_left]
  refine and_congr_right fun _ => ?_
  simp only [hq.mem_linkTargets_iff hout hc]
  constructor
  · rintro ⟨id, hnamed, hcompanion | ⟨rfl, hcompanions⟩⟩
    · exact .inl ⟨id, hnamed, hcompanion⟩
    · exact .inr ⟨hnamed, hcompanions⟩
  · rintro (⟨id, hnamed, hcompanion⟩ | ⟨hnamed, hcompanions⟩)
    · exact ⟨id, hnamed, .inl hcompanion⟩
    · exact ⟨c.targetId, hnamed, .inr ⟨rfl, hcompanions⟩⟩

/-- A created record and the link fields of its entity are the two parts of a record that waited. -/
theorem Keyed.parts_of_mem_creates {c : Record} (hc : c ∈ out.creates) :
    ∃ h, q.held.get? c.targetId = some h ∧
      c = h.record.withoutLinks (group (q.due now)).linkTargets ∧
      out.linkFields c.targetId = h.record.linked (group (q.due now)).linkTargets := by
  obtain ⟨id, h, hdue, hcreates, rfl⟩ := mem_creates_drain_iff.mp (hout.creates.mem_iff.mp hc)
  have hid : h.record.targetId = id := hq.due now id h hdue
  rw [Record.targetId_withoutLinks, hid]
  exact ⟨h, (get?_due_eq_some_iff.mp hdue).1, rfl, linkFields_drain hout hq hdue hcreates⟩

/-- Every field of the record that waited is moved or kept, by whom it names. -/
theorem Keyed.moves_or_keeps {c : Record} (hc : c ∈ out.creates) {h : Held}
    (hheld : q.held.get? c.targetId = some h) {name : String} {value : Json}
    (hfield : h.record.fields.get? name = some value) :
    (out.Moves c name value ↔
      out.NamesCompanion c.targetId name value ∨ out.NamesItself c.targetId name value) ∧
    (out.Keeps c name value ↔ ¬out.Moves c name value) := by
  obtain ⟨waiting, hwaiting, hcreated, hlinked⟩ := hq.parts_of_mem_creates hout hc
  obtain rfl : waiting = h := Option.some.inj (hwaiting.symm.trans hheld)
  rw [← hq.linksTo_linkTargets_iff hout hc, Release.Moves, Release.Keeps, hlinked, hcreated,
    Record.withoutLinks, Record.linked, Dict.get?_filter, Dict.get?_filter, hfield,
    Option.filter_some, Option.filter_some]
  cases Record.linksTo (group (q.due now)).linkTargets name value <;> simp

end Drain

/-- **Which references move.** For every created record of a release, in whatever arrangement, a
field of the record that waited moves to the link record exactly if it is a reference that names
another entity of the release's creations, or names the entity itself while there are others; any
other field stays. Where the same record is released in two batches, of the same queue or of
different ones, the outcome is the same if the creations that it names are the same and, should it
name itself, both batches or neither have other creations. -/
theorem references_moved_exactly {q : Queue} (hq : q.Reachable) {now : Instant} {out : Release}
    (hout : out.Rearranges (q.drain now).2.1) {c : Record} (hc : c ∈ out.creates) :
    ∃ h, q.held.get? c.targetId = some h ∧
      (∀ name value, h.record.fields.get? name = some value →
        (out.Moves c name value ↔
          out.NamesCompanion c.targetId name value ∨ out.NamesItself c.targetId name value) ∧
        (out.Keeps c name value ↔ ¬out.Moves c name value)) ∧
      ∀ (q' : Queue) (now' : Instant) (out' : Release) (c' : Record) (h' : Held), q'.Reachable →
        out'.Rearranges (q'.drain now').2.1 → c' ∈ out'.creates →
        q'.held.get? c'.targetId = some h' → h'.record = h.record →
        (∀ id ∈ h.record.referencedIds,
          id ∈ out'.companions c.targetId ↔ id ∈ out.companions c.targetId) →
        (c.targetId ∈ h.record.referencedIds →
          (out'.companions c.targetId = [] ↔ out.companions c.targetId = [])) →
        c' = c ∧ out'.linkFields c.targetId = out.linkFields c.targetId := by
  obtain ⟨h, hheld, hcreated, hlinked⟩ := hq.keyed.parts_of_mem_creates hout hc
  refine ⟨h, hheld, fun name value hfield => hq.keyed.moves_or_keeps hout hc hheld hfield, ?_⟩
  intro q' now' out' c' h' hq' hout' hc' hheld' hsame hcompanions halone
  obtain ⟨waiting, hwaiting, hcreated', hlinked'⟩ := hq'.keyed.parts_of_mem_creates hout' hc'
  obtain rfl : waiting = h' := Option.some.inj (hwaiting.symm.trans hheld')
  have hid : c'.targetId = c.targetId := by
    rw [← hq'.keyed _ _ hheld', ← hq.keyed _ _ hheld, hsame]
  -- both batches split the same references off
  have htargets : ∀ id ∈ h.record.referencedIds,
      id ∈ (group (q'.due now')).linkTargets ↔ id ∈ (group (q.due now)).linkTargets := by
    intro id hnamed
    rw [hq'.keyed.mem_linkTargets_iff hout' hc', hq.keyed.mem_linkTargets_iff hout hc, hid,
      hcompanions id hnamed]
    refine or_congr_right (and_congr_right fun hown => not_congr (halone ?_))
    rwa [← hown]
  obtain ⟨hwithout, hlinks⟩ := Record.withoutLinks_and_linked_congr htargets
  rw [hid] at hlinked'
  exact ⟨by rw [hcreated', hsame, hwithout, ← hcreated], by rw [hlinked', hsame, hlinks, hlinked]⟩

/-- A node that is its own backup and has two peers is created. -/
def node : Record :=
  { targetId := "node", lifecycle := .create, fields := .ofList [("name", .string "n"),
    ("set_backup", .string "node"), ("set_peers", .array [.string "east", .string "west"])] }

/-- Nothing else is created with the node. -/
def nodeCalls : List Call :=
  [.append (.ofSeconds 22000) node]

/-- A disk is created beside the node, which does not refer to it. -/
def nodeAndDiskCalls : List Call :=
  nodeCalls ++ [.append (.ofSeconds 22000) { targetId := "disk", lifecycle := .create }]

/-- Beside the disk, the node loses the reference to itself and keeps the one to its peers. A zone
that it does not refer to either makes no difference. -/
theorem node_moves_own_reference :
    let beside := (((fresh {}).after nodeAndDiskCalls).drain (.ofSeconds 22040)).2.1
    let crowded := (((fresh {}).after (nodeAndDiskCalls ++ [.append (.ofSeconds 22001)
      { targetId := "zone", lifecycle := .create }])).drain (.ofSeconds 22041)).2.1
    let remains := node.withoutLinks ["node"]
    beside.Moves remains "set_backup" (.string "node") ∧
      beside.Keeps remains "set_peers" (.array [.string "east", .string "west"]) ∧
      ∀ c ∈ crowded.creates, c.targetId = "node" →
        c = remains ∧ crowded.linkFields "node" = beside.linkFields "node" := by
  intro beside crowded remains
  have hremains : remains ∈ beside.creates := by decide
  obtain ⟨h, hheld, hfields, hstable⟩ :=
    references_moved_exactly ⟨{}, nodeAndDiskCalls, rfl⟩ (.refl beside) hremains
  obtain rfl : ⟨.ofSeconds 22000, node⟩ = h := Option.some.inj hheld
  have hbackup := hfields "set_backup" (.string "node") rfl
  have hpeers := hfields "set_peers" (.array [.string "east", .string "west"]) rfl
  refine ⟨hbackup.1.mpr (by decide), hpeers.2.mpr (hpeers.1.not.mpr (by decide)), ?_⟩
  intro c hc hid
  have hwaiting : ((fresh {}).after (nodeAndDiskCalls ++ [.append (.ofSeconds 22001)
      { targetId := "zone", lifecycle := .create }])).held.get? c.targetId =
        some ⟨.ofSeconds 22000, node⟩ := by
    rw [hid]
    decide
  exact hstable _ _ crowded c _ ⟨{}, _, rfl⟩ (.refl crowded) hc hwaiting rfl (by decide) (by decide)

/-- A reference can move without naming another created entity, and whether it does can depend on a
creation that the record does not name. -/
theorem not_only_references_to_companions_move :
    (¬∀ (q : Queue) (now : Instant) (out : Release) (c : Record) (h : Held) (name : String)
      (value : Json), q.Reachable → out.Rearranges (q.drain now).2.1 → c ∈ out.creates →
      q.held.get? c.targetId = some h → h.record.fields.get? name = some value →
      (out.Moves c name value ↔ out.NamesCompanion c.targetId name value)) ∧
    ¬∀ (q q' : Queue) (now now' : Instant) (out out' : Release) (c c' : Record) (h h' : Held),
      q.Reachable → out.Rearranges (q.drain now).2.1 → c ∈ out.creates →
      q.held.get? c.targetId = some h → q'.Reachable → out'.Rearranges (q'.drain now').2.1 →
      c' ∈ out'.creates → q'.held.get? c'.targetId = some h' → h'.record = h.record →
      (∀ id ∈ h.record.referencedIds,
        id ∈ out'.companions c.targetId ↔ id ∈ out.companions c.targetId) →
      c' = c := by
  constructor
  · intro hmoves
    have hbackup := hmoves ((fresh {}).after nodeAndDiskCalls) (.ofSeconds 22040) _
      (node.withoutLinks ["node"]) ⟨.ofSeconds 22000, node⟩ "set_backup" (.string "node")
      ⟨{}, nodeAndDiskCalls, rfl⟩ (.refl _) (by decide) (by decide) rfl
    exact absurd (hbackup.mp (by decide)) (by decide)
  · intro hstable
    have hnode := hstable ((fresh {}).after nodeCalls) ((fresh {}).after nodeAndDiskCalls)
      (.ofSeconds 22040) (.ofSeconds 22040) _ _ node (node.withoutLinks ["node"])
      ⟨.ofSeconds 22000, node⟩ ⟨.ofSeconds 22000, node⟩
      ⟨{}, nodeCalls, rfl⟩ (.refl _) (by decide) (by decide)
      ⟨{}, nodeAndDiskCalls, rfl⟩ (.refl _) (by decide) (by decide) rfl (by decide)
    exact absurd hnode (by decide)

end Queue

end CloudCollector
