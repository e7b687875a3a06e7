import CloudCollector.Proofs.Discovery.Emission
import CloudCollector.Proofs.Text.Bytes
import Mathlib.Data.List.Nodup

/-!
# Which parent a candidate has

A candidate may be split in several ways: its text may hold the id of one parent more than once,
occurrences may overlap, and one parent may be part of another. The search tries the rules in their
order and, for each rule, the parents in theirs, and of one parent only the first occurrence. This
misses nothing, because the first occurrence leaves the longest suffix: a candidate that can be
split at all is split, and always in the same way.
-/

namespace CloudCollector

namespace Rule

/-! ## The first occurrence -/

/-- What follows an occurrence is the end of the text, behind the occurrence. -/
theorem exists_of_after? {needle text rest : List Char} (h : after? needle text = some rest) :
    ∃ front, text = front ++ needle ++ rest := by
  induction text with
  | nil => exact ⟨[], Text.dropFront?_eq_some_iff.mp h⟩
  | cons c cs ih =>
    rw [after?] at h
    cases hdrop : Text.dropFront? needle (c :: cs) with
    | some found =>
      rw [hdrop] at h
      obtain rfl := Option.some.inj h
      exact ⟨[], Text.dropFront?_eq_some_iff.mp hdrop⟩
    | none =>
      rw [hdrop] at h
      obtain ⟨front, rfl⟩ := ih h
      exact ⟨c :: front, rfl⟩

/-- Any occurrence is found or comes after the one that is found, which leaves more. -/
theorem exists_after? {needle text front other : List Char} (h : text = front ++ needle ++ other) :
    ∃ rest, after? needle text = some rest ∧ other.length ≤ rest.length := by
  induction text generalizing front with
  | nil =>
    obtain ⟨hfront, rfl⟩ := List.append_eq_nil_iff.mp h.symm
    obtain ⟨rfl, rfl⟩ := List.append_eq_nil_iff.mp hfront
    exact ⟨[], rfl, Nat.le_refl 0⟩
  | cons c cs ih =>
    rw [after?]
    cases hdrop : Text.dropFront? needle (c :: cs) with
    | some rest =>
      have hrest : c :: cs = needle ++ rest := Text.dropFront?_eq_some_iff.mp hdrop
      have hlength := congrArg List.length (hrest.symm.trans h)
      simp only [List.length_append] at hlength
      exact ⟨rest, rfl, by omega⟩
    | none =>
      cases front with
      | nil =>
        have hfound : Text.dropFront? needle (c :: cs) = some other :=
          Text.dropFront?_eq_some_iff.mpr h
        rw [hdrop] at hfound
        cases hfound
      | cons first front =>
        obtain ⟨-, hcs⟩ := List.cons.inj h
        exact ih hcs

/-! ## The suffix -/

/-- A candidate consists of the id of a parent between dashes, with some text in front of it and
a suffix after it. -/
def Splits (candidate parent suffix : String) : Prop :=
  ∃ front, candidate = front ++ "-" ++ parent ++ "-" ++ suffix

/-- A candidate splits at a parent if it is made of some beginning, the parent between dashes and
the suffix. -/
theorem splits_iff {candidate parent suffix : String} :
    Splits candidate parent suffix ↔
      ∃ front, candidate.toList = front ++ ('-' :: (parent.toList ++ ['-'])) ++ suffix.toList := by
  constructor
  · rintro ⟨front, rfl⟩
    exact ⟨front.toList, by simp⟩
  · rintro ⟨front, h⟩
    refine ⟨.ofList front, String.toList_inj.mp ?_⟩
    rw [h]
    simp

/-- The first occurrence of the parent leaves the longest text after it. -/
theorem after?_eq_some_iff {candidate parent suffix : String} :
    after? ('-' :: (parent.toList ++ ['-'])) candidate.toList = some suffix.toList ↔
      Splits candidate parent suffix ∧
        ∀ other, Splits candidate parent other → other.length ≤ suffix.length := by
  constructor
  · intro h
    refine ⟨splits_iff.mpr (exists_of_after? h), fun other hother => ?_⟩
    obtain ⟨front, hfront⟩ := splits_iff.mp hother
    obtain ⟨rest, hrest, hlength⟩ := exists_after? hfront
    obtain rfl := Option.some.inj (h.symm.trans hrest)
    exact hlength
  · rintro ⟨hsplits, hlongest⟩
    obtain ⟨front, hfront⟩ := splits_iff.mp hsplits
    obtain ⟨rest, hrest, hlength⟩ := exists_after? hfront
    obtain ⟨front', hfront'⟩ := exists_of_after? hrest
    have hlonger : rest.length ≤ suffix.length := by
      have hsplits' : Splits candidate parent (.ofList rest) :=
        splits_iff.mpr ⟨front', by rw [hfront', String.toList_ofList]⟩
      simpa using hlongest _ hsplits'
    have hsame : rest.length = suffix.toList.length :=
      Nat.le_antisymm (by rwa [String.length_toList]) hlength
    rw [hrest, List.append_inj_right' (hfront'.symm.trans hfront) hsame]

/-- A suffix is what follows the first occurrence of the parent, if that is something. -/
theorem suffix?_eq_some_iff_after? {candidate parent suffix : String} :
    suffix? candidate parent = some suffix ↔
      parent ≠ "" ∧ suffix ≠ "" ∧
        after? ('-' :: (parent.toList ++ ['-'])) candidate.toList = some suffix.toList := by
  by_cases hparent : parent = ""
  · simp [suffix?, hparent]
  · rw [suffix?, if_neg hparent]
    cases after? ('-' :: (parent.toList ++ ['-'])) candidate.toList with
    | none => simp
    | some rest =>
      cases rest with
      | nil =>
        simp only [reduceCtorEq, false_iff]
        rintro ⟨-, hsuffix, h⟩
        exact hsuffix (String.toList_eq_nil_iff.mp (Option.some.inj h).symm)
      | cons c rest =>
        have hof : .ofList (c :: rest) = suffix ↔ c :: rest = suffix.toList := by
          rw [← String.toList_inj, String.toList_ofList]
        simp only [Option.some.injEq, hof, ne_eq, hparent, not_false_eq_true, true_and]
        refine ⟨fun h => ⟨?_, h⟩, And.right⟩
        rintro rfl
        cases h

/-- The suffix is the longest one that the candidate has after the parent. -/
theorem suffix?_eq_some_iff {candidate parent suffix : String} :
    suffix? candidate parent = some suffix ↔
      parent ≠ "" ∧ suffix ≠ "" ∧ Splits candidate parent suffix ∧
        ∀ other, Splits candidate parent other → other.length ≤ suffix.length := by
  rw [suffix?_eq_some_iff_after?, after?_eq_some_iff]

/-- If a candidate has any suffix after the parent, it has one after the first occurrence. -/
theorem isSome_suffix?_iff {candidate parent : String} :
    (suffix? candidate parent).isSome = true ↔
      parent ≠ "" ∧ ∃ suffix, suffix ≠ "" ∧ Splits candidate parent suffix := by
  rw [Option.isSome_iff_exists]
  constructor
  · rintro ⟨suffix, h⟩
    obtain ⟨hparent, hsuffix, hsplits, -⟩ := suffix?_eq_some_iff.mp h
    exact ⟨hparent, suffix, hsuffix, hsplits⟩
  · rintro ⟨hparent, suffix, hsuffix, hsplits⟩
    obtain ⟨front, hfront⟩ := splits_iff.mp hsplits
    obtain ⟨rest, hrest, hlength⟩ := exists_after? hfront
    have hrestNe : String.ofList rest ≠ "" := by
      intro hempty
      obtain rfl : rest = [] := by simpa using congrArg String.toList hempty
      rw [List.length_nil, Nat.le_zero, String.length_toList, String.length_eq_zero_iff] at hlength
      exact hsuffix hlength
    exact ⟨.ofList rest, suffix?_eq_some_iff_after?.mpr ⟨hparent, hrestNe, by simpa using hrest⟩⟩

/-- The bytes of the parent between dashes are looked for, and the candidate is cut after the first
bytes that are found. This is no byte inside a character and none outside the candidate, and what
follows is the suffix. -/
theorem suffix?_of_first_occurrence {candidate parent : String} {offset : Nat}
    (hparent : parent ≠ "") (hoccurs : Text.OccursAt ("-" ++ parent ++ "-") candidate offset)
    (hfirst : ∀ sooner < offset, ¬Text.OccursAt ("-" ++ parent ++ "-") candidate sooner) :
    ∃ front slice, candidate = front ++ slice ∧
      front.utf8ByteSize = offset + ("-" ++ parent ++ "-").utf8ByteSize ∧
      suffix? candidate parent = if slice = "" then none else some slice := by
  have hneedle : "-" ++ parent ++ "-" ≠ "" := by
    intro hempty
    simpa using congrArg String.length hempty
  obtain ⟨front, slice, hcandidate, hfront⟩ := hoccurs.exists_append hneedle
  refine ⟨front ++ ("-" ++ parent ++ "-"), slice, hcandidate, ?_, ?_⟩
  · rw [String.utf8ByteSize_append, hfront]
  have hsplits : Splits candidate parent slice :=
    ⟨front, by simpa only [String.append_assoc] using hcandidate⟩
  have hlongest : ∀ other, Splits candidate parent other → other.length ≤ slice.length := by
    rintro other ⟨front', hother⟩
    have hcandidate' : candidate = front' ++ ("-" ++ parent ++ "-") ++ other := by
      simpa only [String.append_assoc] using hother
    have hlater : offset ≤ front'.utf8ByteSize := by
      by_contra hsooner
      refine hfirst front'.utf8ByteSize (by omega) ?_
      rw [hcandidate']
      exact Text.occursAt_append _ _ _
    refine Text.length_le_of_utf8ByteSize_le hcandidate hcandidate' ?_
    simp only [String.utf8ByteSize_append]
    omega
  by_cases hslice : slice = ""
  · rw [if_pos hslice, ← Option.not_isSome_iff_eq_none, isSome_suffix?_iff]
    rintro ⟨-, suffix, hsuffix, hother⟩
    have hlength := hlongest suffix hother
    rw [hslice, String.length_empty, Nat.le_zero, String.length_eq_zero_iff] at hlength
    exact hsuffix hlength
  · rw [if_neg hslice]
    exact suffix?_eq_some_iff.mpr ⟨hparent, hslice, hsplits, hlongest⟩

/-! ## The parent -/

/-- A rule, a resource of the kind that it asks for and a suffix make up a candidate. -/
structure Reveals (rule : Rule) (registry : Registry) (target candidate parent suffix : String) :
    Prop where
  /-- The parent is known to be of the kind. -/
  known : ∃ resource, registry.resource? target parent = some resource ∧
    resource.kind = rule.parentKind
  parent_ne : parent ≠ ""
  suffix_ne : suffix ≠ ""
  splits : Splits candidate parent suffix

variable {rule : Rule} {registry : Registry} {target candidate parent suffix : String}

/-- A parent is revealed by some suffix exactly when it is known to be of the kind and the search
finds one. -/
theorem exists_reveals_iff :
    (∃ suffix, rule.Reveals registry target candidate parent suffix) ↔
      parent ∈ registry.idsOfKind target rule.parentKind ∧
        (suffix? candidate parent).isSome = true := by
  rw [Registry.mem_idsOfKind_iff, isSome_suffix?_iff]
  constructor
  · rintro ⟨suffix, h⟩
    exact ⟨h.known, h.parent_ne, suffix, h.suffix_ne, h.splits⟩
  · rintro ⟨hknown, hparent, suffix, hsuffix, hsplits⟩
    exact ⟨suffix, hknown, hparent, hsuffix, hsplits⟩

/-- The search misses no way to split a candidate. -/
theorem fits_iff :
    rule.Fits registry target candidate ↔
      ∃ parent suffix, rule.Reveals registry target candidate parent suffix := by
  simp only [exists_reveals_iff, Fits]

/-- The record of a child names the least parent and, for this parent, the longest suffix. -/
theorem exists_of_childOf? {record : Record}
    (h : rule.childOf? registry target candidate = some record) :
    ∃ parent suffix component, rule.Reveals registry target candidate parent suffix ∧
      (∀ other suffix', rule.Reveals registry target candidate other suffix' → parent ≤ other) ∧
      (∀ other, rule.Reveals registry target candidate parent other →
        other.length ≤ suffix.length) ∧
      registry.componentFor? target parent = some component ∧
      record = rule.childRecord candidate parent component suffix := by
  obtain ⟨before, parent, after, hids, hfound, hbefore⟩ := List.findSome?_eq_some_iff.mp h
  obtain ⟨suffix, hsuffix, hbound⟩ := Option.bind_eq_some_iff.mp hfound
  obtain ⟨component, hcomponent, hrecord⟩ := Option.bind_eq_some_iff.mp hbound
  obtain ⟨hparent, hsuffixNe, hsplits, hlongest⟩ := suffix?_eq_some_iff.mp hsuffix
  have hknown := Registry.mem_idsOfKind_iff.mp (hids ▸ List.mem_append_cons_self)
  refine ⟨parent, suffix, component, ⟨hknown, hparent, hsuffixNe, hsplits⟩, ?_,
    fun other hother => hlongest other hother.splits, hcomponent, (Option.some.inj hrecord).symm⟩
  intro other suffix' hother
  obtain ⟨hmem, hsome⟩ := exists_reveals_iff.mp ⟨suffix', hother⟩
  rw [hids, List.mem_append, List.mem_cons] at hmem
  rcases hmem with hmem | rfl | hmem
  · -- a parent that was tried before has no suffix
    obtain ⟨found, hfound⟩ := Option.isSome_iff_exists.mp hsome
    obtain ⟨resource, hresource, -⟩ := hother.known
    have hnone := hbefore other hmem
    simp [hfound, Registry.componentFor?, hresource] at hnone
  · exact String.le_refl _
  · have hincreasing := registry.pairwise_idsOfKind target rule.parentKind
    rw [hids, List.pairwise_append, List.pairwise_cons] at hincreasing
    exact String.lt_asymm (hincreasing.2.1.1 other hmem)

end Rule

/-! ## The order of the datasources -/

/-- Two resources may be added either way round. -/
theorem Namespace.addDatasource_comm (resources : Dict Resource) {a b : Datasource}
    (hne : a.resourceId ≠ b.resourceId) :
    addDatasource (addDatasource resources a) b = addDatasource (addDatasource resources b) a := by
  simp only [addDatasource, Dict.get?_insert, if_neg hne, if_neg hne.symm]
  exact Dict.insert_comm _ hne _ _

/-- Where no resource is listed twice, the order of the datasources does not matter. -/
theorem Namespace.ofConfig_perm {config : TargetConfig} {datasources : List Datasource}
    (hperm : config.datasources.Perm datasources)
    (hnodup : (config.datasources.map (·.resourceId)).Nodup) :
    ofConfig { config with datasources } = ofConfig config := by
  have hcomm : ∀ a ∈ config.datasources, ∀ b ∈ config.datasources, ∀ resources,
      addDatasource (addDatasource resources a) b =
        addDatasource (addDatasource resources b) a := by
    intro a ha b hb resources
    by_cases hid : a.resourceId = b.resourceId
    · rw [List.inj_on_of_nodup_map hnodup ha hb hid]
    · exact addDatasource_comm resources hid
  rw [ofConfig, ofConfig, hperm.foldl_eq' hcomm]

/-- What is known after more pushes, each with the name of its target. -/
def Registry.afterPushes (r : Registry) (pushes : List (String × TargetConfig)) : Registry :=
  pushes.foldl (fun r push => r.setConfig push.1 push.2) r

namespace Sightings

/-- **Matching is complete and canonical.** A candidate is matched exactly when some rule, some
resource of the kind that it asks for and some suffix make it up. The record is that of the first
such rule, of its least parent in the order of bytes and of the longest suffix. The order in which
a push lists its resources does not matter if it lists none twice, whatever was known before and
is pushed later. And where the bytes of a parent between dashes are first found, the candidate is
cut at a byte of its own that begins a character or at its end. -/
theorem match_complete_and_canonical (registry : Registry) (target : String) (rules : List Rule)
    (candidate : String) :
    ((matchCandidate registry target rules candidate).isSome = true ↔
      ∃ rule ∈ rules, ∃ parent suffix, rule.Reveals registry target candidate parent suffix) ∧
    (∀ record, matchCandidate registry target rules candidate = some record →
      ∃ first rule rest parent suffix component, rules = first ++ rule :: rest ∧
        (∀ sooner ∈ first, ∀ p s, ¬sooner.Reveals registry target candidate p s) ∧
        rule.Reveals registry target candidate parent suffix ∧
        (∀ p s, rule.Reveals registry target candidate p s → Text.bytes parent ≤ Text.bytes p) ∧
        (∀ s, rule.Reveals registry target candidate parent s → s.length ≤ suffix.length) ∧
        registry.componentFor? target parent = some component ∧
        record =
          { targetId := rule.childIdPrefix ++ "-" ++ parent ++ "-" ++ suffix
            lifecycle := .create
            place :=
              { module := rule.childModule
                container := "components/" ++ component
                relationship := rule.childRelationship }
            fields := .ofList [("title", .string suffix), ("resourceId", .string candidate)] }) ∧
    (∀ name config datasources later, config.datasources.Perm datasources →
      (config.datasources.map (·.resourceId)).Nodup →
      matchCandidate ((registry.setConfig name { config with datasources }).afterPushes later)
          target rules candidate =
        matchCandidate ((registry.setConfig name config).afterPushes later) target rules
          candidate) ∧
    ∀ parent offset, parent ≠ "" → Text.OccursAt ("-" ++ parent ++ "-") candidate offset →
      (∀ sooner < offset, ¬Text.OccursAt ("-" ++ parent ++ "-") candidate sooner) →
      let cut : String.Pos.Raw := ⟨offset + ("-" ++ parent ++ "-").utf8ByteSize⟩
      cut.byteIdx ≤ candidate.utf8ByteSize ∧ cut.IsValid candidate ∧
        ∃ front slice, candidate = front ++ slice ∧ front.utf8ByteSize = cut.byteIdx ∧
          Rule.suffix? candidate parent = if slice = "" then none else some slice := by
  refine ⟨?_, fun record hrecord => ?_, ?_, ?_⟩
  · simp only [isSome_matchCandidate_iff, Rule.fits_iff]
  · obtain ⟨first, rule, rest, hrules, hchild, hfirst⟩ := matchCandidate_eq_some_iff.mp hrecord
    obtain ⟨parent, suffix, component, hreveals, hleast, hlongest, hcomponent, hrecord⟩ :=
      Rule.exists_of_childOf? hchild
    refine ⟨first, rule, rest, parent, suffix, component, hrules, fun sooner hsooner p s h => ?_,
      hreveals, fun p s h => ?_, hlongest, hcomponent, hrecord⟩
    · exact hfirst sooner hsooner (Rule.fits_iff.mpr ⟨p, s, h⟩)
    · exact Text.bytes_le_iff.mpr (hleast p s h)
  · intro name config datasources later hperm hnodup
    rw [Registry.setConfig, Namespace.ofConfig_perm hperm hnodup, ← Registry.setConfig]
  · intro parent offset hparent hoccurs hfirst cut
    obtain ⟨front, slice, hcandidate, hfront, hsuffix⟩ :=
      Rule.suffix?_of_first_occurrence hparent hoccurs hfirst
    have hvalid : cut.IsValid candidate :=
      String.Pos.Raw.isValid_iff_exists_append.mpr
        ⟨front, slice, hcandidate, String.Pos.Raw.ext hfront.symm⟩
    exact ⟨hvalid.le_utf8ByteSize, hvalid, front, slice, hcandidate, hfront, hsuffix⟩

/-- Two machines, and the id of one is part of the id of the other. -/
def nestedMachines : TargetConfig :=
  { datasources :=
      [{ resourceId := "é-é", component := "server-b", componentKind := "Instance" },
        { resourceId := "é", component := "server-a", componentKind := "Instance" }] }

/-- An id in which the shorter machine id occurs twice, the second time from the dash on that ends
the first. The least machine is its parent and it is cut after the first occurrence, which ends
after seven bytes; how the machines are listed does not matter. -/
theorem nested_machine_matched :
    let registry := Registry.setConfig {} "site" nestedMachines
    let reordered := Registry.setConfig {} "site"
      { nestedMachines with datasources := nestedMachines.datasources.reverse }
    (∃ record, matchCandidate registry "site" [.networkInterfaces] "tap-é-é-eth" = some record ∧
      record.place.container = "components/server-a") ∧
    matchCandidate reordered "site" [.networkInterfaces] "tap-é-é-eth" =
      matchCandidate registry "site" [.networkInterfaces] "tap-é-é-eth" ∧
    (⟨7⟩ : String.Pos.Raw).IsValid "tap-é-é-eth" := by
  intro registry reordered
  obtain ⟨hsome, -, -, hcut⟩ :=
    match_complete_and_canonical registry "site" [.networkInterfaces] "tap-é-é-eth"
  obtain ⟨-, -, horder, -⟩ :=
    match_complete_and_canonical {} "site" [.networkInterfaces] "tap-é-é-eth"
  have hreveals : Rule.networkInterfaces.Reveals registry "site" "tap-é-é-eth" "é" "é-eth" :=
    { known := ⟨⟨"server-a", "Instance", .empty⟩, by decide, by decide⟩
      parent_ne := by decide
      suffix_ne := by decide
      splits := ⟨"tap", by decide⟩ }
  obtain ⟨record, hrecord⟩ := Option.isSome_iff_exists.mp
    (hsome.mpr ⟨.networkInterfaces, List.mem_singleton_self _, "é", "é-eth", hreveals⟩)
  refine ⟨⟨record, hrecord, ?_⟩, ?_, ?_⟩
  · have hcontainer : (matchCandidate registry "site" [.networkInterfaces] "tap-é-é-eth").map
        (·.place.container) = some "components/server-a" := by decide
    rw [hrecord] at hcontainer
    exact Option.some.inj hcontainer
  · exact horder "site" nestedMachines _ [] (List.reverse_perm _).symm (by decide)
  · exact (hcut "é" 3 (by decide) (by decide) (by decide)).2.1

end Sightings

end CloudCollector
