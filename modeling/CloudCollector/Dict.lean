/-!
# Dictionaries

A dictionary is a finite map from strings. It lists its entries in increasing order of
their keys, so every listing has one order and two dictionaries that answer every lookup
alike are equal (`Dict.ext_get?`).
-/

namespace CloudCollector

/-- A finite map from strings to `α`, listed in increasing order of keys. -/
structure Dict (α : Type) where
  /-- The entries, by increasing key. -/
  entries : List (String × α)
  /-- Keys increase strictly along the entries. -/
  increasing : entries.Pairwise fun a b => a.1 < b.1
  deriving DecidableEq

namespace Dict

variable {α β : Type}

/-- Puts `value` under `key` into entries listed by key, replacing what was there. -/
def insertEntry (key : String) (value : α) : List (String × α) → List (String × α)
  | [] => [(key, value)]
  | entry :: rest =>
    if key < entry.1 then (key, value) :: entry :: rest
    else if key = entry.1 then (key, value) :: rest
    else entry :: insertEntry key value rest

/-- After an insertion each entry is the new one or was there before. -/
theorem mem_insertEntry {key : String} {value : α} {entry : String × α}
    {entries : List (String × α)} (h : entry ∈ insertEntry key value entries) :
    entry = (key, value) ∨ entry ∈ entries := by
  induction entries with
  | nil => simpa [insertEntry] using h
  | cons first rest ih =>
    unfold insertEntry at h
    split at h
    · simpa using h
    · split at h
      · rcases List.mem_cons.mp h with h | h
        · exact .inl h
        · exact .inr (List.mem_cons_of_mem _ h)
      · rcases List.mem_cons.mp h with h | h
        · exact .inr (h ▸ List.mem_cons_self)
        · exact (ih h).imp_right (List.mem_cons_of_mem _)

/-- A key that is neither below nor equal to another is above it. -/
theorem lt_of_not_lt_of_ne {a b : String} (hlt : ¬ a < b) (hne : a ≠ b) : b < a :=
  Decidable.by_contra fun h => hne (String.le_antisymm (String.not_lt.mp h) (String.not_lt.mp hlt))

/-- An insertion keeps the keys in increasing order. -/
theorem pairwise_insertEntry (key : String) (value : α) {entries : List (String × α)}
    (h : entries.Pairwise fun a b => a.1 < b.1) :
    (insertEntry key value entries).Pairwise fun a b => a.1 < b.1 := by
  induction entries with
  | nil => simp [insertEntry]
  | cons first rest ih =>
    have hrest := List.pairwise_cons.mp h
    unfold insertEntry
    split
    · next hlt =>
      refine List.pairwise_cons.mpr ⟨fun entry hentry => ?_, h⟩
      rcases List.mem_cons.mp hentry with rfl | hentry
      · exact hlt
      · exact String.lt_trans hlt (hrest.1 entry hentry)
    · next hlt =>
      split
      · next heq =>
        exact List.pairwise_cons.mpr ⟨fun entry hentry => heq ▸ hrest.1 entry hentry, hrest.2⟩
      · next hne =>
        refine List.pairwise_cons.mpr ⟨fun entry hentry => ?_, ih hrest.2⟩
        rcases mem_insertEntry hentry with rfl | hentry
        · exact lt_of_not_lt_of_ne hlt hne
        · exact hrest.1 entry hentry

/-- The dictionary without entries. -/
def empty : Dict α := ⟨[], .nil⟩

instance : EmptyCollection (Dict α) := ⟨empty⟩
instance : Inhabited (Dict α) := ⟨empty⟩

/-- The first value that entries list under `key`. -/
def findEntry (key : String) : List (String × α) → Option α
  | [] => none
  | entry :: rest => if key = entry.1 then some entry.2 else findEntry key rest

/-- The value under `key`, if there is one. -/
def get? (d : Dict α) (key : String) : Option α :=
  findEntry key d.entries

/-- The value under `key`, or `fallback`. -/
def getD (d : Dict α) (key : String) (fallback : α) : α :=
  (d.get? key).getD fallback

/-- Whether `key` has a value. -/
def contains (d : Dict α) (key : String) : Bool :=
  (d.get? key).isSome

/-- Puts `value` under `key`, replacing what was there. -/
def insert (d : Dict α) (key : String) (value : α) : Dict α :=
  ⟨insertEntry key value d.entries, pairwise_insertEntry key value d.increasing⟩

/-- Keeps the entries that `keep` accepts. -/
def filter (d : Dict α) (keep : String → α → Bool) : Dict α :=
  ⟨d.entries.filter fun entry => keep entry.1 entry.2, d.increasing.filter _⟩

/-- Drops the entry under `key`. -/
def erase (d : Dict α) (key : String) : Dict α :=
  d.filter fun k _ => k != key

/-- Applies `f` to every value, with its key. -/
def map (d : Dict α) (f : String → α → β) : Dict β :=
  ⟨d.entries.map fun entry => (entry.1, f entry.1 entry.2),
    List.pairwise_map.mpr d.increasing⟩

/-- The keys, in increasing order. -/
def keys (d : Dict α) : List String :=
  d.entries.map (·.1)

/-- The values, by increasing key. -/
def values (d : Dict α) : List α :=
  d.entries.map (·.2)

/-- The number of entries. -/
def size (d : Dict α) : Nat :=
  d.entries.length

/-- Whether there is no entry. -/
def isEmpty (d : Dict α) : Bool :=
  d.entries.isEmpty

/-- Reads a list of pairs; of two pairs with one key the later wins. -/
def ofList (entries : List (String × α)) : Dict α :=
  entries.foldl (fun d entry => d.insert entry.1 entry.2) empty

/-- Puts every entry of `upper` over those of `d`. -/
def overlay (d upper : Dict α) : Dict α :=
  upper.entries.foldl (fun d entry => d.insert entry.1 entry.2) d

/-- Puts `value` under each of `keys`. -/
def insertAll (d : Dict α) (keys : List String) (value : α) : Dict α :=
  keys.foldl (fun d key => d.insert key value) d

/-- Replaces the value under `key` by its image under `f`, where an absent value counts as
`fallback`. -/
def update (d : Dict α) (key : String) (fallback : α) (f : α → α) : Dict α :=
  d.insert key (f (d.getD key fallback))

/-- Nothing is found in the empty dictionary. -/
@[simp]
theorem get?_empty (key : String) : (empty : Dict α).get? key = none := rfl

/-- After an insertion the new value is found under its key, and under any other what was there
before. -/
theorem findEntry_insertEntry (key other : String) (value : α) (entries : List (String × α)) :
    findEntry other (insertEntry key value entries) =
      if other = key then some value else findEntry other entries := by
  induction entries with
  | nil => simp [insertEntry, findEntry]
  | cons first rest ih =>
    unfold insertEntry
    split
    · simp [findEntry]
    · split
      · next heq => by_cases h : other = key <;> simp_all [findEntry]
      · next hne =>
        by_cases hfirst : other = first.1
        · have : other ≠ key := fun h => hne (h ▸ hfirst)
          simp [findEntry, hfirst, Ne.symm hne]
        · simp [findEntry, hfirst, ih]

/-- A lookup after an insertion finds the new value under its key, and elsewhere what was
there. -/
@[simp]
theorem get?_insert (d : Dict α) (key other : String) (value : α) :
    (d.insert key value).get? other = if other = key then some value else d.get? other :=
  findEntry_insertEntry key other value d.entries

/-- An entry lists a key exactly with the value that the lookup finds. -/
theorem mem_entries_iff {d : Dict α} {key : String} {value : α} :
    (key, value) ∈ d.entries ↔ d.get? key = some value := by
  unfold get?
  have h := d.increasing
  revert h
  induction d.entries with
  | nil => simp [findEntry]
  | cons first rest ih =>
    intro h
    have hrest := List.pairwise_cons.mp h
    by_cases hkey : key = first.1
    · subst hkey
      simp only [List.mem_cons, findEntry, ↓reduceIte, Option.some.injEq]
      constructor
      · rintro (h | h)
        · exact congrArg Prod.snd h.symm
        · exact absurd (hrest.1 _ h) (String.lt_irrefl _)
      · rintro rfl
        exact .inl rfl
    · have hne : (key, value) ≠ first := fun h => hkey (congrArg Prod.fst h)
      simp [findEntry, hkey, hne, ih hrest.2]

/-- A lookup after a filter finds what was there, if the filter accepts it. -/
theorem get?_filter (d : Dict α) (keep : String → α → Bool) (key : String) :
    (d.filter keep).get? key = (d.get? key).filter (keep key) := by
  apply Option.ext
  intro value
  rw [← mem_entries_iff, filter, Option.filter_eq_some_iff, ← mem_entries_iff]
  simp

/-- A lookup after an erasure finds nothing under the key, and elsewhere what was there. -/
@[simp]
theorem get?_erase (d : Dict α) (key other : String) :
    (d.erase key).get? other = if other = key then none else d.get? other := by
  rw [erase, get?_filter]
  by_cases h : other = key <;> cases d.get? other <;> simp [h]

/-- A lookup after a map finds the image of what was there. -/
@[simp]
theorem get?_map (d : Dict α) (f : String → α → β) (key : String) :
    (d.map f).get? key = (d.get? key).map (f key) := by
  apply Option.ext
  intro value
  rw [← mem_entries_iff, map, Option.map_eq_some_iff]
  constructor
  · intro h
    obtain ⟨⟨k, v⟩, hmem, heq⟩ := List.mem_map.mp h
    obtain ⟨rfl, rfl⟩ := Prod.mk.inj heq
    exact ⟨v, mem_entries_iff.mp hmem, rfl⟩
  · rintro ⟨v, hv, rfl⟩
    exact List.mem_map.mpr ⟨(key, v), mem_entries_iff.mpr hv, rfl⟩

/-- The keys are those under which something is found. -/
theorem mem_keys_iff {d : Dict α} {key : String} :
    key ∈ d.keys ↔ ∃ value, d.get? key = some value := by
  simp [keys, ← mem_entries_iff]

/-- A dictionary contains its keys. -/
theorem contains_iff {d : Dict α} {key : String} : d.contains key = true ↔ key ∈ d.keys := by
  rw [contains, Option.isSome_iff_exists, mem_keys_iff]

/-- Entries listed by increasing key are determined by their members. -/
theorem eq_of_pairwise_of_mem_iff {a b : List (String × α)}
    (ha : a.Pairwise fun x y => x.1 < y.1) (hb : b.Pairwise fun x y => x.1 < y.1)
    (h : ∀ entry, entry ∈ a ↔ entry ∈ b) : a = b := by
  induction a generalizing b with
  | nil =>
    cases b with
    | nil => rfl
    | cons first rest => exact absurd ((h first).mpr List.mem_cons_self) (by simp)
  | cons x xs ih =>
    cases b with
    | nil => exact absurd ((h x).mp List.mem_cons_self) (by simp)
    | cons y ys =>
      have hx := List.pairwise_cons.mp ha
      have hy := List.pairwise_cons.mp hb
      have hxy : x = y := by
        rcases List.mem_cons.mp ((h x).mp List.mem_cons_self) with hxy | hxy
        · exact hxy
        · rcases List.mem_cons.mp ((h y).mpr List.mem_cons_self) with hyx | hyx
          · exact hyx.symm
          · exact absurd (String.lt_trans (hx.1 y hyx) (hy.1 x hxy)) (String.lt_irrefl _)
      subst hxy
      congr 1
      refine ih hx.2 hy.2 fun entry => ⟨fun hentry => ?_, fun hentry => ?_⟩
      · rcases List.mem_cons.mp ((h entry).mp (List.mem_cons_of_mem _ hentry)) with rfl | hmem
        · exact absurd (hx.1 entry hentry) (String.lt_irrefl _)
        · exact hmem
      · rcases List.mem_cons.mp ((h entry).mpr (List.mem_cons_of_mem _ hentry)) with rfl | hmem
        · exact absurd (hy.1 entry hentry) (String.lt_irrefl _)
        · exact hmem

/-- Dictionaries that answer every lookup alike are equal. -/
theorem ext_get? {a b : Dict α} (h : ∀ key, a.get? key = b.get? key) : a = b := by
  have hentries : a.entries = b.entries :=
    eq_of_pairwise_of_mem_iff a.increasing b.increasing fun entry => by
      obtain ⟨key, value⟩ := entry
      rw [mem_entries_iff, mem_entries_iff, h]
  cases a
  cases b
  simpa using hentries

end Dict

end CloudCollector
