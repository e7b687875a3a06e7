import CloudCollector.Decode.Value

/-!
# Structs in JSON values

A JSON value gives the fields of a struct by name, as an object, or by position, as an array. A
struct is read from it exactly when no field is given twice, none is given beyond the last, and
the fields make a value; so a reader may be described field by field (`Fields.read_eq_ok_iff`).
-/

namespace CloudCollector

/-! ## Steps of a reader -/

section Steps

variable {ε δ α β : Type}

/-- Two steps succeed if the first one does and the second one does with its result. -/
theorem bind_eq_ok_iff {x : Except ε α} {f : α → Except ε β} {b : β} :
    x >>= f = .ok b ↔ ∃ a, x = .ok a ∧ f a = .ok b := by
  cases x <;> simp [bind, Except.bind]

/-- A step that only returns something succeeds with just that. -/
theorem pure_eq_ok_iff {a b : α} : (pure a : Except ε α) = .ok b ↔ a = b := by
  simp [pure, Except.pure]

/-- To tell a failure in other words makes no difference to success. -/
theorem mapError_eq_ok_iff {x : Except ε α} {f : ε → δ} {a : α} :
    x.mapError f = .ok a ↔ x = .ok a := by
  cases x with
  | error e => exact ⟨nofun, nofun⟩
  | ok b => constructor <;> rintro ⟨⟩ <;> rfl

end Steps

/-! ## What a value gives -/

namespace Json

/-- What a value gives for a field of a struct: an object by name, an array by position. -/
def fieldAt? : Json → String → Nat → Option Json
  | .object members, name, _ => Dict.findEntry name members
  | .array items, _, index => items[index]?
  | _, _, _ => none

/-- Whether a value has the shape of a struct: an object that gives no field twice, or an array
that ends with the last field at the latest. -/
def IsStruct (names : List String) : Json → Prop
  | .object members => ((members.map (·.1)).filter (· ∈ names)).Nodup
  | .array items => items.length ≤ names.length
  | _ => False

/-- The fault that a missing field without default is. -/
def faultAt (expected : String) : Json → String → Nat → DecodeError
  | .array _, _, index => .tooShort index expected
  | _, name, _ => .missingField name

/-- What a struct holds for a field. -/
def slotAt (expected : String) (v : Json) (name : String) (index : Nat) : Slot Json :=
  match v.fieldAt? name index with
  | some w => .given w
  | none => .absent (v.faultAt expected name index)

variable {expected name : String} {index : Nat} {v w : Json}

/-- The slot of a field is filled if the value gives the field. -/
theorem slotAt_eq_given_iff :
    v.slotAt expected name index = .given w ↔ v.fieldAt? name index = some w := by
  unfold slotAt
  split <;> simp_all

/-- The slot of a field is empty if the value does not give the field. -/
theorem exists_slotAt_eq_absent_iff :
    (∃ fault, v.slotAt expected name index = .absent fault) ↔ v.fieldAt? name index = none := by
  unfold slotAt
  split <;> simp_all

end Json

/-! ## What fields make of it -/

namespace Fields

variable {ν α β : Type} {f : Fields ν α} {slots rest : List (Slot ν)}

/-- The names of the fields, in order of declaration. -/
def names (f : Fields ν α) : List String :=
  f.checks.map (·.1)

/-- A struct made of another one is built if the other one is. -/
theorem build_map_eq_ok_iff {g : α → β} {b : β} :
    (g <$> f).build slots = .ok (b, rest) ↔ ∃ a, f.build slots = .ok (a, rest) ∧ g a = b := by
  have hmap : (g <$> f).build slots = f.build slots >>= fun x => Pure.pure (g x.1, x.2) := rfl
  simp only [hmap, bind_eq_ok_iff, pure_eq_ok_iff, Prod.exists, Prod.mk.injEq, ← and_assoc,
    exists_eq_right]

/-- A struct with one more field is built if the fields before are, and then the field. -/
theorem build_seq_eq_ok_iff {g : Fields ν (α → β)} {b : β} :
    (g <*> f).build slots = .ok (b, rest) ↔
      ∃ h between, g.build slots = .ok (h, between) ∧
        ∃ a, f.build between = .ok (a, rest) ∧ h a = b := by
  have hseq : (g <*> f).build slots = g.build slots >>= fun x =>
      f.build x.2 >>= fun y => Pure.pure (x.1 y.1, y.2) := rfl
  simp only [hseq, bind_eq_ok_iff, pure_eq_ok_iff, Prod.exists, Prod.mk.injEq, ← and_assoc,
    exists_eq_right]

/-- A field without default is built from a slot that is filled with something that decodes. -/
theorem build_required_eq_ok_iff {name : String} {decode : ν → Reading α} {a : α} :
    (required name decode).build slots = .ok (a, rest) ↔
      ∃ v, slots = .given v :: rest ∧ decode v = .ok a := by
  match slots with
  | [] => simp [required]
  | .absent fault :: slots => simp [required]
  | .faulty fault :: slots => simp [required]
  | .given v :: slots =>
    simp only [required, bind_eq_ok_iff, pure_eq_ok_iff]
    grind

/-- A field with a default is built from a slot that is filled with something that decodes, or from
an empty slot or none at all as the default. -/
theorem build_defaulted_eq_ok_iff {name : String} {fallback : α} {decode : ν → Reading α} {a : α} :
    (defaulted name fallback decode).build slots = .ok (a, rest) ↔
      (∃ v, slots = .given v :: rest ∧ decode v = .ok a) ∨
        ((∃ fault, slots = .absent fault :: rest) ∨ slots = [] ∧ rest = []) ∧ fallback = a := by
  match slots with
  | [] =>
    simp only [defaulted]
    grind
  | .absent fault :: slots => simp [defaulted, and_comm]
  | .faulty fault :: slots => simp [defaulted]
  | .given v :: slots =>
    simp only [defaulted, bind_eq_ok_iff, pure_eq_ok_iff]
    grind

/-- A field without default is built from a value that gives it something that decodes. -/
theorem build_required_slotAt_iff {field expected : String} {i : Nat} {v : Json}
    {slots rest : List (Slot Json)} {decode : Json → Reading α} {a : α} :
    (required field decode).build (v.slotAt expected field i :: slots) = .ok (a, rest) ↔
      (∃ w, v.fieldAt? field i = some w ∧ decode w = .ok a) ∧ slots = rest := by
  simp only [build_required_eq_ok_iff, List.cons.injEq, Json.slotAt_eq_given_iff]
  grind

/-- A field with a default is built from a value that gives it something that decodes or does not
give it. -/
theorem build_defaulted_slotAt_iff {field expected : String} {i : Nat} {v : Json}
    {slots rest : List (Slot Json)} {fallback : α} {decode : Json → Reading α} {a : α} :
    (defaulted field fallback decode).build (v.slotAt expected field i :: slots) =
        .ok (a, rest) ↔
      (v.fieldAt? field i).elim (fallback = a) (fun w => decode w = .ok a) ∧ slots = rest := by
  simp only [build_defaulted_eq_ok_iff, List.cons.injEq, Json.slotAt_eq_given_iff,
    exists_and_right, Json.exists_slotAt_eq_absent_iff, reduceCtorEq, false_and, or_false]
  cases v.fieldAt? field i <;> grind

/-! ## Fields that stand for their slots -/

/-- Fields that make a value take one slot each, and every value that they are given converts. -/
structure Converts (f : Fields ν α) : Prop where
  rest_eq {slots rest : List (Slot ν)} {a : α} :
    f.build slots = .ok (a, rest) → rest = slots.drop f.checks.length
  check_eq {slots rest : List (Slot ν)} {a : α} {i : Nat} {entry : String × (ν → Reading Unit)}
    {v : ν} :
    f.build slots = .ok (a, rest) → f.checks[i]? = some entry → slots[i]? = some (.given v) →
      entry.2 v = .ok ()

/-- What decodes passes the check of whether it decodes. -/
theorem check_eq_ok {decode : ν → Reading α} {v : ν} {a : α} (h : decode v = .ok a) :
    check decode v = .ok () :=
  bind_eq_ok_iff.mpr ⟨a, h, rfl⟩

/-- A single field converts if what it makes of its slot does. -/
theorem converts_of_single {name : String} {decode : ν → Reading α}
    (hchecks : f.checks = [(name, check decode)])
    (hmade : ∀ {slots a rest}, f.build slots = .ok (a, rest) → rest = slots.tail ∧
      ∀ v, slots.head? = some (.given v) → decode v = .ok a) : f.Converts := by
  constructor
  · intro slots rest a h
    rw [(hmade h).1, hchecks, List.length_singleton, List.drop_one]
  · intro slots rest a i entry v h hentry hslot
    obtain ⟨rfl, rfl⟩ : i = 0 ∧ entry = (name, check decode) := by
      rw [hchecks] at hentry
      cases i <;> simp_all
    exact check_eq_ok ((hmade h).2 v (by rwa [List.head?_eq_getElem?]))

/-- A field without default is built only from what passes its check. -/
theorem converts_required (name : String) (decode : ν → Reading α) :
    (required name decode).Converts := by
  refine converts_of_single rfl fun h => ?_
  obtain ⟨v, rfl, hdecode⟩ := build_required_eq_ok_iff.mp h
  exact ⟨rfl, by simp_all⟩

/-- A field with a default is built only from what passes its check or is not given. -/
theorem converts_defaulted (name : String) (fallback : α) (decode : ν → Reading α) :
    (defaulted name fallback decode).Converts := by
  refine converts_of_single rfl fun h => ?_
  rcases build_defaulted_eq_ok_iff.mp h with
    ⟨v, rfl, hdecode⟩ | ⟨⟨fault, rfl⟩ | ⟨rfl, rfl⟩, -⟩
  · exact ⟨rfl, by simp_all⟩
  · exact ⟨rfl, by simp⟩
  · exact ⟨rfl, by simp⟩

/-- Checks stay sufficient for a struct that is made of another one. -/
theorem Converts.map (hf : f.Converts) (g : α → β) : (g <$> f).Converts := by
  have hchecks : (g <$> f).checks = f.checks := rfl
  constructor
  · intro slots rest b h
    obtain ⟨a, hbuild, -⟩ := build_map_eq_ok_iff.mp h
    exact hf.rest_eq hbuild
  · intro slots rest b i entry v h hentry hslot
    obtain ⟨a, hbuild, -⟩ := build_map_eq_ok_iff.mp h
    exact hf.check_eq hbuild hentry hslot

/-- Checks stay sufficient for a struct with one more field. -/
theorem Converts.seq {g : Fields ν (α → β)} (hg : g.Converts) (hf : f.Converts) :
    (g <*> f).Converts := by
  have hchecks : (g <*> f).checks = g.checks ++ f.checks := rfl
  constructor
  · intro slots rest b h
    obtain ⟨k, between, hfirst, a, hsecond, -⟩ := build_seq_eq_ok_iff.mp h
    rw [hf.rest_eq hsecond, hg.rest_eq hfirst, List.drop_drop, hchecks, List.length_append]
  · intro slots rest b i entry v h hentry hslot
    obtain ⟨k, between, hfirst, a, hsecond, -⟩ := build_seq_eq_ok_iff.mp h
    rw [hchecks, List.getElem?_append] at hentry
    split at hentry
    · exact hg.check_eq hfirst hentry hslot
    · next hi =>
      refine hf.check_eq hsecond hentry ?_
      rwa [hg.rest_eq hfirst, List.getElem?_drop, Nat.add_sub_cancel' (Nat.not_lt.mp hi)]

end Fields

/-! ## Reading a struct -/

namespace Dict

variable {α : Type} {name : String} {entries : List (String × α)}

/-- A lookup by name finds the first entry of that name. -/
theorem findEntry_eq_find? :
    findEntry name entries = (entries.find? (·.1 == name)).map (·.2) := by
  induction entries with
  | nil => rfl
  | cons entry rest ih =>
    rw [findEntry, List.find?_cons]
    by_cases h : name = entry.1
    · simp [h]
    · have hother : (entry.1 == name) = false := by simpa using Ne.symm h
      rw [if_neg h, hother, ih]

/-- Of distinct names, each has the value that it is listed with. -/
theorem findEntry_eq_some_iff {value : α} (h : (entries.map (·.1)).Nodup) :
    findEntry name entries = some value ↔ (name, value) ∈ entries := by
  induction entries with
  | nil => simp [findEntry]
  | cons entry rest ih =>
    obtain ⟨hfirst, hrest⟩ := List.nodup_cons.mp h
    rw [findEntry]
    by_cases hname : name = entry.1
    · have habsent : (name, value) ∉ rest := fun hmem =>
        hfirst (List.mem_map.mpr ⟨(name, value), hmem, hname⟩)
      simp [hname ▸ habsent, hname, Prod.ext_iff, eq_comm]
    · simp [hname, ih hrest, Prod.ext_iff]

/-- What a test on names lets pass is found as before. -/
theorem findEntry_filter (test : String → Bool) (h : test name = true) :
    findEntry name (entries.filter fun entry => test entry.1) = findEntry name entries := by
  induction entries with
  | nil => rfl
  | cons entry rest ih =>
    by_cases hname : name = entry.1
    · subst hname
      simp [findEntry, h]
    · by_cases htest : test entry.1
      · simp [findEntry, htest, hname, ih]
      · simp [findEntry, htest, hname, ih]

/-- Distinct names are found in any order. -/
theorem findEntry_reverse (h : (entries.map (·.1)).Nodup) :
    findEntry name entries.reverse = findEntry name entries := by
  have h' : (entries.reverse.map (·.1)).Nodup := by
    rw [List.map_reverse]
    exact List.pairwise_reverse.mpr (h.imp Ne.symm)
  refine Option.ext fun value => ?_
  rw [findEntry_eq_some_iff h, findEntry_eq_some_iff h', List.mem_reverse]

end Dict

namespace Fields

variable {α : Type} {f : Fields Json α} {expected name : String} {a : α}

/-- The members of an object that a struct knows. -/
def known (names : List String) (members : List (String × Json)) : List (String × Json) :=
  members.filter fun member => member.1 ∈ names

section Collect

variable {checks : List (String × (Json → Reading Unit))} {found result : List (String × Json)}
  {given : String} {v : Json} {rest : List (Reading (String × Json))}

/-- A member that no field asks for is passed over. -/
theorem collect_of_unknown (h : checks.find? (·.1 == given) = none) :
    collect checks found (.ok (given, v) :: rest) = collect checks found rest := by
  rw [collect]
  simp only [bind, Except.bind, h]
  rfl

/-- A member that a field asks for is taken if none of its name was and it passes the check. -/
theorem collect_of_known {entry : String × (Json → Reading Unit)}
    (h : checks.find? (·.1 == given) = some entry) :
    collect checks found (.ok (given, v) :: rest) = .ok result ↔
      (∀ other ∈ found, other.1 ≠ given) ∧ entry.2 v = .ok () ∧
        collect checks ((given, v) :: found) rest = .ok result := by
  rw [collect]
  simp only [bind, Except.bind, h]
  cases hany : found.any (·.1 == given) with
  | true =>
    obtain ⟨other, hother, hname⟩ := List.any_eq_true.mp hany
    simp only [↓reduceIte, throw, throwThe, MonadExceptOf.throw, reduceCtorEq, false_iff]
    exact fun hfresh => hfresh.1 other hother (by simpa using hname)
  | false =>
    have hfresh : ∀ other ∈ found, other.1 ≠ given := by simpa using hany
    rw [and_iff_right hfresh]
    cases entry.2 v <;> simp

/-- Members are collected exactly when each known one is the first of its name and converts. -/
theorem collect_eq_ok_iff {members : List (String × Json)} :
    collect checks found (members.map .ok) = .ok result ↔
      result = (known (checks.map (·.1)) members).reverse ++ found ∧
        ((known (checks.map (·.1)) members).map (·.1)).Nodup ∧
        (∀ member ∈ known (checks.map (·.1)) members, ∀ other ∈ found, other.1 ≠ member.1) ∧
        ∀ member ∈ members, ∀ entry, checks.find? (·.1 == member.1) = some entry →
          entry.2 member.2 = .ok () := by
  induction members generalizing found with
  | nil => simp [collect, known, eq_comm]
  | cons member rest ih =>
    obtain ⟨given, v⟩ := member
    rw [List.map_cons]
    cases hfind : checks.find? (·.1 == given) with
    | none =>
      have hunknown : given ∉ checks.map (·.1) := by
        intro hmem
        obtain ⟨entry, hentry, rfl⟩ := List.mem_map.mp hmem
        simpa using List.find?_eq_none.mp hfind entry hentry
      have hknown : known (checks.map (·.1)) ((given, v) :: rest) =
          known (checks.map (·.1)) rest := List.filter_cons_of_neg (by simpa using hunknown)
      rw [collect_of_unknown hfind, hknown, ih]
      simp [hfind]
    | some entry =>
      have hmem : given ∈ checks.map (·.1) :=
        List.mem_map.mpr ⟨entry, List.mem_of_find?_eq_some hfind, by
          simpa using List.find?_some hfind⟩
      have hknown : known (checks.map (·.1)) ((given, v) :: rest) =
          (given, v) :: known (checks.map (·.1)) rest :=
        List.filter_cons_of_pos (by simpa using hmem)
      rw [collect_of_known hfind, hknown, ih]
      have hdistinct : given ∉ (known (checks.map (·.1)) rest).map (·.1) ↔
          ∀ member ∈ known (checks.map (·.1)) rest, given ≠ member.1 := by
        simp only [List.mem_map, not_exists, not_and, eq_comm (a := given), Ne]
      simp only [List.reverse_cons, List.append_assoc, List.singleton_append, List.map_cons,
        List.nodup_cons, List.forall_mem_cons, hfind, Option.some.injEq, forall_eq', hdistinct,
        imp_and, forall_and]
      constructor
      · rintro ⟨hfresh, hconvert, hresult, hnodup, ⟨hgiven, hothers⟩, hrest⟩
        exact ⟨hresult, ⟨hgiven, hnodup⟩, ⟨hfresh, hothers⟩, hconvert, hrest⟩
      · rintro ⟨hresult, ⟨hgiven, hnodup⟩, ⟨hfresh, hothers⟩, hconvert, hrest⟩
        exact ⟨hfresh, hconvert, hresult, hnodup, ⟨hgiven, hothers⟩, hrest⟩

end Collect

/-- The slots of an array are filled by position, and those behind its end are empty. -/
theorem getElem?_slotsByPosition (index i : Nat) (names : List String) (items : List Json) :
    (slotsByPosition expected index names (items.map .ok))[i]? = names[i]?.map fun _ =>
      match items[i]? with
      | some v => .given v
      | none => .absent (.tooShort (index + i) expected) := by
  induction names generalizing index i items with
  | nil => simp [slotsByPosition]
  | cons name names ih =>
    have hnext (i : Nat) : index + 1 + i = index + (i + 1) := by omega
    cases items with
    | nil =>
      cases i with
      | zero => simp [slotsByPosition]
      | succ i => simpa [slotsByPosition, hnext] using ih (index + 1) i []
    | cons v items =>
      cases i with
      | zero => simp [slotsByPosition]
      | succ i => simpa [slotsByPosition, hnext] using ih (index + 1) i items

/-- The slots of a struct. -/
def slotsOf (expected : String) (names : List String) (v : Json) : List (Slot Json) :=
  names.zipIdx.map fun field => v.slotAt expected field.1 field.2

/-- The slot of a field is the one at its position among the names. -/
theorem getElem?_slotsOf {names : List String} {v : Json} {i : Nat} :
    (slotsOf expected names v)[i]? = names[i]?.map fun name => v.slotAt expected name i := by
  rw [slotsOf, List.getElem?_map, List.getElem?_zipIdx, Option.map_map]
  simp [Function.comp_def]

/-- The slots that are filled by position are those of the array. -/
theorem slotsByPosition_eq_slotsOf {names : List String} {items : List Json} :
    slotsByPosition expected 0 names (items.map .ok) = slotsOf expected names (.array items) := by
  refine List.ext_getElem? fun i => ?_
  rw [getElem?_slotsByPosition, getElem?_slotsOf]
  simp [Json.slotAt, Json.fieldAt?, Json.faultAt]

/-- The slots that are filled by name are those of the object, if it gives no field twice. -/
theorem slotsByName_eq_slotsOf {names : List String} {members : List (String × Json)}
    (h : ((known names members).map (·.1)).Nodup) :
    slotsByName names (known names members).reverse = slotsOf expected names (.object members) := by
  refine List.ext_getElem? fun i => ?_
  rw [slotsByName, getElem?_slotsOf, List.getElem?_map]
  refine Option.map_congr fun name hname => ?_
  have hfind : Dict.findEntry name (known names members).reverse = Dict.findEntry name members := by
    rw [Dict.findEntry_reverse h]
    exact Dict.findEntry_filter (fun name => name ∈ names)
      (by simpa using List.mem_of_getElem? hname)
  rw [Dict.findEntry_eq_find?] at hfind
  simp only [Json.slotAt, Json.fieldAt?, ← hfind]
  cases (known names members).reverse.find? (·.1 == name) <;> rfl

/-- The words for a struct with so many fields. -/
def shape (name : String) (count : Nat) : String :=
  "struct " ++ name ++ " with " ++ toString count ++
    (if count = 1 then " element" else " elements")

/-- A struct is read from an array that is not too long and whose slots build it. -/
theorem read_array_eq_ok_iff {items : List Json} :
    f.read name (.array items) = .ok a ↔ items.length ≤ f.names.length ∧
      ∃ rest, f.build (slotsOf (shape name f.checks.length) f.names (.array items)) =
        .ok (a, rest) := by
  have hmembers : Source.members ("struct " ++ name) (Json.array items) =
      .ok (.byPosition (items.map .ok)) := rfl
  rw [← slotsByPosition_eq_slotsOf, read, hmembers]
  simp only [bind, Except.bind, names, shape, List.length_map]
  generalize slotsByPosition _ 0 _ _ = slots
  cases f.build slots with
  | error fault => simp
  | ok made =>
    dsimp only
    split
    · next hlong => simp [Nat.not_le.mpr hlong, throw, throwThe, MonadExceptOf.throw]
    · next hshort => simp [Nat.not_lt.mp hshort, pure_eq_ok_iff, Prod.ext_iff]

/-- A struct is read from an object that gives no field twice and whose slots build it. -/
theorem read_object_eq_ok_iff (hf : f.Converts) {members : List (String × Json)} :
    f.read name (.object members) = .ok a ↔ ((known f.names members).map (·.1)).Nodup ∧
      ∃ rest, f.build (slotsOf (shape name f.checks.length) f.names (.object members)) =
        .ok (a, rest) := by
  have hread : f.read name (.object members) = (do
      let found ← collect f.checks [] (members.map .ok)
      let made ← f.build (slotsByName f.names found)
      return made.1) := rfl
  rw [hread, bind_eq_ok_iff]
  constructor
  · rintro ⟨found, hcollect, hbuild⟩
    obtain ⟨rfl, hnodup, -⟩ := collect_eq_ok_iff.mp hcollect
    obtain ⟨⟨made, rest⟩, hmade, hvalue⟩ := bind_eq_ok_iff.mp hbuild
    obtain rfl := pure_eq_ok_iff.mp hvalue
    rw [List.append_nil] at hmade
    exact ⟨hnodup, rest, slotsByName_eq_slotsOf hnodup ▸ hmade⟩
  · rintro ⟨hnodup, rest, hbuild⟩
    refine ⟨(known f.names members).reverse, ?_, bind_eq_ok_iff.mpr
      ⟨(a, rest), slotsByName_eq_slotsOf hnodup ▸ hbuild, rfl⟩⟩
    refine collect_eq_ok_iff.mpr ⟨(List.append_nil _).symm, hnodup, by simp, ?_⟩
    intro member hmember entry hentry
    -- the slot at the place of the check holds what the member gives
    obtain ⟨i, hi⟩ := List.getElem?_of_mem (List.mem_of_find?_eq_some hentry)
    have hname : entry.1 = member.1 := by simpa using List.find?_some hentry
    have hplace : f.names[i]? = some member.1 := by simp [names, hi, hname]
    have hknown : member.1 ∈ f.names := List.mem_of_getElem? hplace
    have hgiven : Dict.findEntry member.1 members = some member.2 := by
      rw [← Dict.findEntry_filter (fun name => name ∈ f.names) (by simpa using hknown)]
      exact (Dict.findEntry_eq_some_iff hnodup).mpr
        (List.mem_filter.mpr ⟨hmember, by simpa using hknown⟩)
    refine hf.check_eq hbuild hi ?_
    rw [getElem?_slotsOf, hplace, Option.map_some]
    exact congrArg some (Json.slotAt_eq_given_iff.mpr hgiven)

/-- A struct is read from a value exactly when the value has its shape and its fields make a
value of what is given. -/
theorem read_eq_ok_iff (hf : f.Converts) {v : Json} :
    f.read name v = .ok a ↔ v.IsStruct f.names ∧
      ∃ rest, f.build (slotsOf (shape name f.checks.length) f.names v) = .ok (a, rest) := by
  cases v with
  | object members =>
    rw [read_object_eq_ok_iff hf, Json.IsStruct, List.filter_map]
    rfl
  | array items => exact read_array_eq_ok_iff
  | null | bool | number | string => exact ⟨nofun, fun h => h.1.elim⟩

end Fields

end CloudCollector
