import CloudCollector.Dict

/-!
# Lookups after bulk updates

A dictionary is used through its lookups. This file says what a lookup finds after
many entries were put in at once, after two dictionaries were laid over each other,
and after a dictionary was taken apart by a test on its entries.
-/

namespace CloudCollector.Dict

variable {α : Type}

/-- A key has a value exactly when the lookup finds one. -/
theorem contains_eq_isSome (d : Dict α) (key : String) :
    d.contains key = (d.get? key).isSome := rfl

/-- Of two values that are put in under one key, the later stays. -/
theorem insert_insert (d : Dict α) (key : String) (first second : α) :
    (d.insert key first).insert key second = d.insert key second := by
  apply ext_get?
  intro other
  by_cases hother : other = key <;> simp [hother]

/-- Values that are put in under two keys may be put in either way round. -/
theorem insert_comm (d : Dict α) {key key' : String} (hne : key ≠ key') (value value' : α) :
    (d.insert key value).insert key' value' = (d.insert key' value').insert key value := by
  apply ext_get?
  intro other
  by_cases hother : other = key
  · simp [hother, hne]
  · simp [hother]

/-- Putting in the value that is there changes nothing. -/
theorem insert_eq_self {d : Dict α} {key : String} {value : α} (h : d.get? key = some value) :
    d.insert key value = d := by
  apply ext_get?
  intro other
  by_cases hother : other = key <;> simp [hother, h]

/-- Putting one value under many keys changes the lookups of these keys only. -/
theorem get?_insertAll (d : Dict α) (keys : List String) (value : α) (key : String) :
    (d.insertAll keys value).get? key = if key ∈ keys then some value else d.get? key := by
  induction keys generalizing d with
  | nil => simp [insertAll]
  | cons first rest ih =>
    have hstep : d.insertAll (first :: rest) value = (d.insert first value).insertAll rest value :=
      rfl
    rw [hstep, ih, get?_insert]
    by_cases hfirst : key = first <;> by_cases hrest : key ∈ rest <;> simp [hfirst, hrest]

/-- An update changes the lookup of its key only. -/
theorem getD_update (d : Dict α) (key other : String) (fallback : α) (f : α → α) :
    (d.update key fallback f).getD other fallback =
      if other = key then f (d.getD key fallback) else d.getD other fallback := by
  rw [update, getD, get?_insert]
  split
  · rfl
  · rw [getD]

/-- A key is not listed among larger ones. -/
theorem findEntry_eq_none {key : String} {entries : List (String × α)}
    (h : ∀ entry ∈ entries, key < entry.1) : findEntry key entries = none := by
  induction entries with
  | nil => rfl
  | cons first rest ih =>
    have hne : key ≠ first.1 := fun heq =>
      absurd (heq ▸ h first List.mem_cons_self) (String.lt_irrefl _)
    rw [findEntry, if_neg hne, ih fun entry hentry => h entry (List.mem_cons_of_mem _ hentry)]

/-- Putting entries in one after the other, a lookup finds the last one of its key. The
entries of a dictionary have distinct keys, so there is at most one. -/
theorem get?_foldl_insert (entries : List (String × α))
    (h : entries.Pairwise fun a b => a.1 < b.1) (d : Dict α) (key : String) :
    (entries.foldl (fun d entry => d.insert entry.1 entry.2) d).get? key =
      (findEntry key entries).or (d.get? key) := by
  induction entries generalizing d with
  | nil => simp [findEntry]
  | cons first rest ih =>
    have hrest := List.pairwise_cons.mp h
    rw [List.foldl_cons, ih hrest.2, get?_insert]
    by_cases hkey : key = first.1
    · have habsent : findEntry key rest = none := findEntry_eq_none (hkey ▸ hrest.1)
      simp [findEntry, hkey, hkey ▸ habsent]
    · simp [findEntry, hkey]

/-- Laid over another, a dictionary hides the entries of the same keys and no others. -/
theorem get?_overlay (d upper : Dict α) (key : String) :
    (d.overlay upper).get? key = (upper.get? key).or (d.get? key) :=
  get?_foldl_insert upper.entries upper.increasing d key

/-- Laid over each other, two dictionaries have the keys of both. -/
theorem contains_overlay (d upper : Dict α) (key : String) :
    (d.overlay upper).contains key = (upper.contains key || d.contains key) := by
  simp only [contains_eq_isSome, get?_overlay, Option.isSome_or]

/-- Three dictionaries laid over each other have one result. -/
theorem overlay_assoc (a b c : Dict α) : (a.overlay b).overlay c = a.overlay (b.overlay c) := by
  apply ext_get?
  intro key
  simp only [get?_overlay, Option.or_assoc]

/-- The entries that fail a test, with those that pass it laid over them, are all entries. -/
theorem filter_not_overlay_filter (d : Dict α) (test : String → α → Bool) :
    (d.filter fun key value => !test key value).overlay (d.filter test) = d := by
  apply ext_get?
  intro key
  rw [get?_overlay, get?_filter, get?_filter]
  cases d.get? key with
  | none => rfl
  | some value => cases h : test key value <;> simp [h]

/-- A filter that accepts every entry keeps the dictionary. -/
theorem filter_eq_self {d : Dict α} {keep : String → α → Bool}
    (h : ∀ key value, d.get? key = some value → keep key value = true) : d.filter keep = d := by
  apply ext_get?
  intro key
  rw [get?_filter]
  cases hvalue : d.get? key with
  | none => rfl
  | some value => simp [h key value hvalue]

/-- Filters that judge every entry alike keep the same entries. -/
theorem filter_congr {d : Dict α} {keep keep' : String → α → Bool}
    (h : ∀ key value, d.get? key = some value → keep key value = keep' key value) :
    d.filter keep = d.filter keep' := by
  apply ext_get?
  intro key
  rw [get?_filter, get?_filter]
  cases hvalue : d.get? key with
  | none => rfl
  | some value => rw [Option.filter_some, Option.filter_some, h key value hvalue]

/-- A dictionary has no entries exactly when every lookup fails. -/
theorem isEmpty_iff {d : Dict α} : d.isEmpty = true ↔ ∀ key, d.get? key = none := by
  constructor
  · intro h key
    have hentries : d.entries = [] := List.isEmpty_iff.mp h
    rw [get?, hentries, findEntry]
  · intro h
    have hempty : d = empty := ext_get? fun key => by rw [h, get?_empty]
    rw [hempty]
    rfl

/-- The values are what lookups find. -/
theorem mem_values_iff {d : Dict α} {value : α} :
    value ∈ d.values ↔ ∃ key, d.get? key = some value := by
  simp only [values, List.mem_map, Prod.exists, exists_eq_right, mem_entries_iff]

/-- Where every value names its own key, the values that name a key are the one that its lookup
finds, if any. -/
theorem filter_values_eq_toList {d : Dict α} {name : α → String}
    (h : ∀ key value, d.get? key = some value → name value = key) (key : String) :
    (d.values.filter fun value => name value = key) = (d.get? key).toList := by
  obtain ⟨entries, increasing⟩ := d
  simp only [← mem_entries_iff] at h
  simp only [values, get?]
  induction entries with
  | nil => rfl
  | cons first rest ih =>
    have hrest := List.pairwise_cons.mp increasing
    have hname : name first.2 = first.1 := h first.1 first.2 List.mem_cons_self
    have htail := ih hrest.2 fun k v hmem => h k v (List.mem_cons_of_mem _ hmem)
    by_cases hkey : key = first.1
    · have habsent : (rest.map (·.2)).filter (fun value => name value = key) = [] := by
        rw [List.filter_eq_nil_iff]
        intro value hvalue
        obtain ⟨entry, hentry, rfl⟩ := List.mem_map.mp hvalue
        have hlt := hrest.1 entry hentry
        have hentryName := h entry.1 entry.2 (List.mem_cons_of_mem _ hentry)
        rw [decide_eq_true_eq, hentryName, hkey]
        exact fun heq => absurd (heq ▸ hlt) (String.lt_irrefl _)
      simp only [List.map_cons, findEntry, hkey, if_true, Option.toList_some]
      rw [List.filter_cons_of_pos (by simpa using hname), ← hkey, habsent]
    · rw [List.map_cons, List.filter_cons_of_neg (by simpa [hname] using Ne.symm hkey), htail,
        findEntry, if_neg hkey]

/-- Two filters in a row keep what both accept. -/
theorem filter_filter (d : Dict α) (first second : String → α → Bool) :
    (d.filter first).filter second =
      d.filter fun key value => second key value && first key value := by
  apply ext_get?
  intro key
  rw [get?_filter, get?_filter, get?_filter, Option.filter_filter]
  simp only [Bool.and_comm]

/-- Keys are distinct. -/
theorem nodup_keys (d : Dict α) : d.keys.Nodup := by
  rw [keys, List.Nodup, List.pairwise_map]
  exact d.increasing.imp fun hlt heq => absurd (heq ▸ hlt) (String.lt_irrefl _)

/-- There are as many keys as entries. -/
theorem length_keys (d : Dict α) : d.keys.length = d.size :=
  List.length_map _

/-- A test divides the keys into those whose entries pass it and those whose entries fail it. -/
theorem keys_perm_filter (d : Dict α) (test : String → α → Bool) :
    d.keys.Perm ((d.filter test).keys ++ (d.filter fun key value => !test key value).keys) := by
  have hentries := List.filter_append_perm (fun entry => test entry.1 entry.2) d.entries
  have hkeys := hentries.symm.map (·.1)
  rwa [List.map_append] at hkeys

/-- The size of what passes a test and the size of what fails it add up. -/
theorem size_eq_add_filter (d : Dict α) (test : String → α → Bool) :
    d.size = (d.filter test).size + (d.filter fun key value => !test key value).size := by
  have hlength := (d.keys_perm_filter test).length_eq
  rwa [List.length_append, length_keys, length_keys, length_keys] at hlength

/-- Putting in a value adds an entry unless its key has one. -/
theorem size_insert (d : Dict α) (key : String) (value : α) :
    (d.insert key value).size = d.size + (!d.contains key).toNat := by
  have hmem : ∀ other, other ∈ (d.insert key value).keys ↔ other = key ∨ other ∈ d.keys := by
    intro other
    rw [mem_keys_iff, get?_insert, mem_keys_iff]
    by_cases hother : other = key
    · simp [hother]
    · simp [hother]
  rw [← length_keys, ← length_keys]
  cases hcontains : d.contains key with
  | true =>
    have hkey : key ∈ d.keys := contains_iff.mp hcontains
    have hperm : (d.insert key value).keys.Perm d.keys := by
      rw [List.perm_ext_iff_of_nodup (nodup_keys _) d.nodup_keys]
      intro other
      rw [hmem]
      exact ⟨fun h => h.elim (fun heq => heq ▸ hkey) id, .inr⟩
    exact hperm.length_eq
  | false =>
    have hkey : key ∉ d.keys := fun h => by rw [contains_iff.mpr h] at hcontains; cases hcontains
    have hperm : (d.insert key value).keys.Perm (key :: d.keys) := by
      rw [List.perm_ext_iff_of_nodup (nodup_keys _) (List.nodup_cons.mpr ⟨hkey, d.nodup_keys⟩)]
      intro other
      rw [hmem, List.mem_cons]
    exact hperm.length_eq

end CloudCollector.Dict
