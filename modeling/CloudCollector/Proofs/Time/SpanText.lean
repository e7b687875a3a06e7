import CloudCollector.Time.SpanText
import Mathlib.Data.List.Basic
import Mathlib.Tactic.Ring

/-!
# A written span reads back

A written span is a list of groups of a number and a unit, from the largest unit to the smallest.
The reader takes group after group and adds up what it reads, and the parts of a span add up to the
span again, although years and months are no whole numbers of days. No sum on the way is larger
than the last one, so nothing overflows.
-/

namespace CloudCollector.Span

/-! ## Numbers -/

/-- A digit by its code. -/
theorem isDigit_iff {c : Char} : c.isDigit = true ↔ 48 ≤ c.toNat ∧ c.toNat ≤ 57 := by
  rw [Char.isDigit, Bool.and_eq_true, decide_eq_true_iff, decide_eq_true_iff]
  exact Iff.rfl

/-- The name of a unit can be told from a number and from white space. -/
theorem not_digit_of_isUnitChar {c : Char} (h : isUnitChar c = true) :
    c.isDigit = false ∧ Text.isBlank c = false ∧ c ≠ '.' := by
  have hcode : 97 ≤ c.toNat ∧ c.toNat ≤ 122 ∨ 65 ≤ c.toNat ∧ c.toNat ≤ 90 ∨ c.toNat = 181 := by
    simp only [isUnitChar, Bool.or_eq_true, Bool.and_eq_true, decide_eq_true_iff, beq_iff_eq] at h
    rcases h with (h | h) | h
    · exact .inl h
    · exact .inr (.inl h)
    · exact .inr (.inr (by rw [h]; rfl))
  refine ⟨?_, ?_, ?_⟩
  · rw [← Bool.not_eq_true, isDigit_iff]
    omega
  · simp only [Text.isBlank, Bool.or_eq_false_iff, Bool.and_eq_false_iff, decide_eq_false_iff_not,
      beq_eq_false_iff_ne, ne_eq]
    omega
  · rintro rfl
    revert hcode
    decide

/-- A digit is no blank. -/
theorem not_blank_of_isDigit {c : Char} (h : c.isDigit = true) : Text.isBlank c = false := by
  rw [isDigit_iff] at h
  simp only [Text.isBlank, Bool.or_eq_false_iff, Bool.and_eq_false_iff, decide_eq_false_iff_not,
    beq_eq_false_iff_ne, ne_eq]
  omega

/-- Further digits do not make a number smaller. -/
theorem le_ofDigitChars (digits : List Char) (n : Nat) : n ≤ Nat.ofDigitChars 10 digits n := by
  induction digits generalizing n with
  | nil => exact Nat.le_refl n
  | cons d digits ih =>
    rw [Nat.ofDigitChars_cons]
    have hrest := ih (10 * n + (d.toNat - '0'.toNat))
    omega

/-- Digits are read up to the name of a unit, if the number fits. -/
theorem readWhole_append {digits : List Char} (hdigits : ∀ d ∈ digits, d.isDigit = true) {c : Char}
    (hc : isUnitChar c = true) (rest : List Char) {n : Nat}
    (hfits : Nat.ofDigitChars 10 digits n < 18446744073709551616) :
    readWhole n (digits ++ c :: rest) = some (Nat.ofDigitChars 10 digits n, c :: rest) := by
  induction digits generalizing n with
  | nil =>
    obtain ⟨hdigit, hblank, -⟩ := not_digit_of_isUnitChar hc
    simp [readWhole, hdigit, hblank, hc]
  | cons d digits ih =>
    rw [Nat.ofDigitChars_cons] at hfits ⊢
    have hword : word? (10 * n + digitValue d) = some (10 * n + digitValue d) :=
      if_pos (Nat.lt_of_le_of_lt (le_ofDigitChars digits _) hfits)
    rw [List.cons_append, readWhole, if_pos (hdigits d List.mem_cons_self), hword, Option.bind_some]
    exact ih (fun e he => hdigits e (List.mem_cons_of_mem d he)) hfits

/-- A written number is read up to the name of its unit. -/
theorem readNumber_toDigits {n : Nat} (hfits : n < 18446744073709551616) {first : Char}
    {digits : List Char} (hn : Nat.toDigits 10 n = first :: digits) {c : Char}
    (hc : isUnitChar c = true) (rest : List Char) :
    readNumber first (digits ++ c :: rest) = some (n, none, c :: rest) := by
  have hall : ∀ d ∈ first :: digits, d.isDigit = true := by
    rw [← hn]
    exact fun d => Nat.isDigit_of_mem_toDigits (by decide) (by decide)
  have hvalue : Nat.ofDigitChars 10 digits (digitValue first) = n := by
    have hcons := @Nat.ofDigitChars_cons 10 first digits 0
    rw [← hn, Nat.ofDigitChars_toDigits (by decide) (by decide), Nat.mul_zero, Nat.zero_add]
      at hcons
    exact hcons.symm
  have hwhole := readWhole_append (fun d hd => hall d (List.mem_cons_of_mem first hd)) hc rest
    (hvalue ▸ hfits)
  obtain ⟨-, -, hpoint⟩ := not_digit_of_isUnitChar hc
  rw [hvalue] at hwhole
  rw [readNumber, hwhole]
  split
  · next heq => simp_all
  · next heq => simp_all
  · next heq => cases heq

/-! ## Groups -/

/-- Whether a text is a name of a unit, and nothing else could be read from it. -/
def TimeUnit.IsName (unit : TimeUnit) (name : String) : Prop :=
  name.toList ≠ [] ∧ name.toList.all isUnitChar = true ∧ ofName? name = some unit

instance (unit : TimeUnit) (name : String) : Decidable (unit.IsName name) :=
  inferInstanceAs (Decidable (_ ∧ _ ∧ _))

/-- A number of units under one of the names of the unit. -/
structure Group where
  count : Nat
  name : String
  unit : TimeUnit

namespace Group

/-- The group as it is written. -/
def text (g : Group) : String :=
  toString g.count ++ g.name

/-- The length of the group in nanoseconds. -/
def nanos (g : Group) : Nat :=
  g.count * g.unit.nanos

/-- What the reader makes of the group, after what it has added up. -/
def add (total : Nat) (g : Group) : Option Nat :=
  addUnits total g.count none g.unit

/-- A group that can be read: its name is a name of its unit, and what is less than a second stays
so. -/
structure Readable (g : Group) : Prop where
  fits : g.count < 18446744073709551616
  small : g.unit.countsSeconds = true ∨ g.nanos < nanosPerSecond
  name : g.unit.IsName g.name

variable {g : Group}

/-- A group is a number and a unit, with nothing in between. -/
theorem toList_text (g : Group) :
    g.text.toList = Nat.toDigits 10 g.count ++ g.name.toList := by
  rw [text, String.toList_append, Nat.toString_eq_repr, Nat.toList_repr]

/-- A group is read and added, if white space or nothing follows. -/
theorem Readable.readGroups (hg : g.Readable) {rest : List Char}
    (hrest : ∀ c ∈ rest.head?, Text.isBlank c = true) (total fuel : Nat) :
    readGroups total (fuel + 1) (g.text.toList ++ rest) =
      (g.add total).bind fun total => readGroups total fuel rest := by
  obtain ⟨hname_ne, hall, hunit⟩ := hg.name
  have hchars : ∀ c ∈ g.name.toList, isUnitChar c = true := List.all_eq_true.mp hall
  obtain ⟨first, digits, hdigits⟩ := List.exists_cons_of_ne_nil
    (List.ne_nil_of_length_pos (@Nat.length_toDigits_pos 10 g.count))
  obtain ⟨c, name, hname⟩ := List.exists_cons_of_ne_nil hname_ne
  have hfirst : first.isDigit = true :=
    Nat.isDigit_of_mem_toDigits (by decide) (by decide) (hdigits ▸ List.mem_cons_self)
  have hstop : rest.takeWhile isUnitChar = [] ∧ rest.dropWhile isUnitChar = rest := by
    cases rest with
    | nil => exact ⟨rfl, rfl⟩
    | cons r rest =>
      have hunit : isUnitChar r = false := by
        rw [← Bool.not_eq_true]
        intro hunit
        have hblank := (not_digit_of_isUnitChar hunit).2.1
        rw [hrest r rfl] at hblank
        cases hblank
      simp [hunit]
  have htake : (g.name.toList ++ rest).takeWhile isUnitChar = g.name.toList := by
    rw [List.takeWhile_append_of_pos hchars, hstop.1, List.append_nil]
  have hdrop : (g.name.toList ++ rest).dropWhile isUnitChar = rest := by
    rw [List.dropWhile_append_of_pos hchars, hstop.2]
  have hnumber : readNumber first (digits ++ (g.name.toList ++ rest)) =
      some (g.count, none, g.name.toList ++ rest) := by
    rw [hname, List.cons_append]
    exact readNumber_toDigits hg.fits hdigits (hchars c (hname ▸ List.mem_cons_self)) _
  have htrim : Text.trimStart (g.text.toList ++ rest) =
      first :: (digits ++ (g.name.toList ++ rest)) := by
    rw [toList_text, hdigits, Text.trimStart, List.cons_append, List.cons_append,
      List.dropWhile_cons_of_neg (by rw [not_blank_of_isDigit hfirst]; decide), List.append_assoc]
  rw [Span.readGroups, htrim]
  dsimp only
  rw [if_pos hfirst, hnumber]
  dsimp only
  rw [htake, hdrop, String.ofList_toList, hunit, add]
  cases rest with
  | nil =>
    dsimp only
    cases addUnits total g.count none g.unit <;> rfl
  | cons r rest =>
    have hends : (r.isDigit || Text.isBlank r) = true := by rw [hrest r rfl, Bool.or_true]
    simp only [hends]
    cases addUnits total g.count none g.unit <;> rfl

end Group

/-- Groups as they are written, one after the other. -/
def textOf (groups : List Group) : String :=
  " ".intercalate (groups.map Group.text)

/-- Groups are written with a blank in between. -/
theorem toList_textOf_cons_cons (g next : Group) (groups : List Group) :
    (textOf (g :: next :: groups)).toList =
      g.text.toList ++ ' ' :: (textOf (next :: groups)).toList := by
  rw [textOf, List.map_cons, String.intercalate_cons_of_ne_nil (by simp), String.toList_append,
    String.toList_append, List.append_assoc]
  rfl

/-- The space between groups is passed over. -/
theorem readGroups_space (total fuel : Nat) (cs : List Char) :
    readGroups total fuel (' ' :: cs) = readGroups total fuel cs := by
  have htrim : Text.trimStart (' ' :: cs) = Text.trimStart cs :=
    List.dropWhile_cons_of_pos (by decide)
  cases fuel with
  | zero => rfl
  | succ fuel => rw [readGroups, readGroups, htrim]

/-- Written groups are read and added one after the other. -/
theorem readGroups_textOf {groups : List Group} (hgroups : ∀ g ∈ groups, g.Readable) {fuel : Nat}
    (hfuel : groups.length < fuel) (total : Nat) :
    readGroups total fuel (textOf groups).toList = groups.foldlM Group.add total := by
  induction groups generalizing fuel total with
  | nil =>
    obtain ⟨fuel, rfl⟩ := Nat.exists_eq_add_one.mpr (Nat.zero_lt_of_lt hfuel)
    rfl
  | cons g groups ih =>
    obtain ⟨fuel, rfl⟩ := Nat.exists_eq_add_one.mpr (Nat.zero_lt_of_lt hfuel)
    have hg : g.Readable := hgroups g List.mem_cons_self
    have hfuel : groups.length < fuel := Nat.lt_of_succ_lt_succ hfuel
    have hrest := fun total => ih (fun h hh => hgroups h (List.mem_cons_of_mem g hh)) hfuel total
    rw [List.foldlM_cons]
    cases groups with
    | nil =>
      have htext : (textOf [g]).toList = g.text.toList ++ [] := by
        rw [List.append_nil, textOf, List.map_singleton, String.intercalate_singleton]
      rw [htext, hg.readGroups (by simp)]
      exact congrArg _ (funext hrest)
    | cons next groups =>
      rw [toList_textOf_cons_cons, hg.readGroups (by simp; decide)]
      refine congrArg _ (funext fun total => ?_)
      rw [readGroups_space]
      exact hrest total

/-! ## Sums -/

/-- What stays in the range of spans is added without overflow. -/
theorem accumulate_eq {total seconds nanos : Nat} (hnanos : nanos < nanosPerSecond)
    (hbound : total + seconds * nanosPerSecond + nanos < 18446744073709551616 * nanosPerSecond) :
    accumulate total seconds nanos = some (total + seconds * nanosPerSecond + nanos) := by
  simp only [nanosPerSecond] at hnanos hbound
  have hbeside : total % 1000000000 + nanos < 18446744073709551616 := by omega
  have hseconds : seconds + (total % 1000000000 + nanos) / 1000000000 < 18446744073709551616 := by
    omega
  simp [accumulate, word?, hbeside, hseconds, hbound]

/-- A unit that is counted in seconds is a whole number of them. -/
theorem TimeUnit.exists_nanos_eq {unit : TimeUnit} (h : unit.countsSeconds = true) :
    ∃ seconds, unit.nanos = seconds * nanosPerSecond ∧ unit.nanos / nanosPerSecond = seconds := by
  have hpos : 0 < nanosPerSecond := by decide
  cases unit with
  | nanosecond | microsecond | millisecond => cases h
  | second => exact ⟨1, (Nat.one_mul _).symm, Nat.div_self hpos⟩
  | _ => exact ⟨_, rfl, Nat.mul_div_cancel _ hpos⟩

namespace Group

variable {g : Group}

/-- A group that stays in the range of spans adds its length. -/
theorem Readable.add_eq (hg : g.Readable) {total : Nat}
    (hbound : total + g.nanos < 18446744073709551616 * nanosPerSecond) :
    g.add total = some (total + g.nanos) := by
  rw [add, addUnits]
  cases hcounts : g.unit.countsSeconds with
  | true =>
    obtain ⟨seconds, hnanos, hseconds⟩ := TimeUnit.exists_nanos_eq hcounts
    have hlength : g.nanos = g.count * seconds * nanosPerSecond := by
      rw [nanos, hnanos, Nat.mul_assoc]
    have hfits : g.count * seconds < 18446744073709551616 := by
      simp only [hlength, nanosPerSecond] at hbound
      omega
    have hsum : accumulate total (g.count * seconds) 0 = some (total + g.nanos) := by
      rw [accumulate_eq (Nat.succ_pos _) (by rwa [← hlength, Nat.add_zero]), Nat.add_zero, hlength]
    have hword : word? (g.count * (g.unit.nanos / nanosPerSecond)) = some (g.count * seconds) := by
      rw [hseconds]
      exact if_pos hfits
    rw [if_pos rfl, hword]
    exact congrArg (· >>= _) hsum
  | false =>
    have hsmall : g.nanos < nanosPerSecond := hg.small.resolve_left (by simp [hcounts])
    have hfits : g.count * g.unit.nanos < 18446744073709551616 := by
      simp only [nanos, nanosPerSecond] at hsmall
      omega
    have hsum : accumulate total 0 (g.count * g.unit.nanos) = some (total + g.nanos) := by
      have hzero : total + 0 * nanosPerSecond = total := by rw [Nat.zero_mul, Nat.add_zero]
      rw [← nanos, accumulate_eq hsmall (by rwa [hzero]), hzero]
    have hword : word? (g.count * g.unit.nanos) = some (g.count * g.unit.nanos) := if_pos hfits
    rw [if_neg Bool.false_ne_true, hword]
    exact congrArg (· >>= _) hsum

end Group

/-- Groups that stay in the range of spans add up. -/
theorem foldlM_add_eq {groups : List Group} (hgroups : ∀ g ∈ groups, g.Readable) {total : Nat}
    (hbound : total + (groups.map Group.nanos).sum < 18446744073709551616 * nanosPerSecond) :
    groups.foldlM Group.add total = some (total + (groups.map Group.nanos).sum) := by
  induction groups generalizing total with
  | nil => rfl
  | cons g groups ih =>
    rw [List.map_cons, List.sum_cons] at hbound ⊢
    rw [List.foldlM_cons, (hgroups g List.mem_cons_self).add_eq (by omega)]
    have hrest := @ih (fun h hh => hgroups h (List.mem_cons_of_mem g hh)) (total + g.nanos)
      (by omega)
    rw [← Nat.add_assoc]
    exact hrest

/-! ## Whole spans -/

/-- The group of a part of a written span; a part of no units has none. -/
def groupOf (n : Nat) (name : String) (plural : Bool) (unit : TimeUnit) : List Group :=
  if n = 0 then [] else [⟨n, name ++ (if plural && 1 < n then "s" else ""), unit⟩]

/-- A group of a span is written as its part is. -/
theorem map_text_groupOf (n : Nat) (name : String) (plural : Bool) (unit : TimeUnit) :
    (groupOf n name plural unit).map Group.text = part n name plural := by
  unfold groupOf part
  split
  · rfl
  · rw [List.map_singleton, Group.text, String.append_assoc]

/-- A group counts as many of its unit as it says, and none is left out but one of zero. -/
theorem sum_groupOf (n : Nat) (name : String) (plural : Bool) (unit : TimeUnit) :
    ((groupOf n name plural unit).map Group.nanos).sum = n * unit.nanos := by
  unfold groupOf
  split
  · next h => rw [h, Nat.zero_mul, List.map_nil, List.sum_nil]
  · rw [List.map_singleton, List.sum_singleton, Group.nanos]

/-- A group is readable if its unit has its name and its count is not too large. -/
theorem readable_of_mem_groupOf {n : Nat} {name : String} {plural : Bool} {unit : TimeUnit}
    {g : Group} (hg : g ∈ groupOf n name plural unit)
    (hname : unit.IsName name ∧ (plural = true → unit.IsName (name ++ "s")))
    (hfits : n < 18446744073709551616)
    (hsmall : unit.countsSeconds = true ∨ n * unit.nanos < nanosPerSecond) : g.Readable := by
  unfold groupOf at hg
  split at hg
  · cases hg
  · obtain rfl := List.mem_singleton.mp hg
    refine ⟨hfits, hsmall, ?_⟩
    dsimp only
    split
    · next hmany => exact hname.2 (Bool.and_eq_true_iff.mp hmany).1
    · rw [String.append_empty]
      exact hname.1

/-- The groups of a written span. -/
def groups (d : Span) : List Group :=
  let inYear := d.seconds % 31557600
  let inMonth := inYear % 2630016
  let inDay := inMonth % 86400
  groupOf (d.seconds / 31557600) "year" true .year ++
    groupOf (inYear / 2630016) "month" true .month ++ groupOf (inMonth / 86400) "day" true .day ++
    groupOf (inDay / 3600) "h" false .hour ++ groupOf (inDay % 3600 / 60) "m" false .minute ++
    groupOf (inDay % 60) "s" false .second ++
    groupOf (d.subsecNanos / 1000000) "ms" false .millisecond ++
    groupOf (d.subsecNanos / 1000 % 1000) "us" false .microsecond ++
    groupOf (d.subsecNanos % 1000) "ns" false .nanosecond

/-- Years, months, days, hours, minutes and seconds make up all seconds. -/
theorem seconds_eq_sum (s : Nat) :
    s / 31557600 * 31557600 + s % 31557600 / 2630016 * 2630016 +
      s % 31557600 % 2630016 / 86400 * 86400 + s % 31557600 % 2630016 % 86400 / 3600 * 3600 +
      s % 31557600 % 2630016 % 86400 % 3600 / 60 * 60 +
      s % 31557600 % 2630016 % 86400 % 60 = s := by
  omega

/-- Milliseconds, microseconds and nanoseconds make up all nanoseconds. -/
theorem nanos_eq_sum (n : Nat) : n / 1000000 * 1000000 + n / 1000 % 1000 * 1000 + n % 1000 = n := by
  omega

section Groups

variable (d : Span)

/-- The groups of a span are written as its parts are. -/
theorem map_text_groups : d.groups.map Group.text = d.parts := by
  simp only [groups, parts, List.map_append, map_text_groupOf]

/-- A span is the sum of its parts. -/
theorem sum_groups : (d.groups.map Group.nanos).sum = d.nanos := by
  calc (d.groups.map Group.nanos).sum
      = (d.seconds / 31557600 * 31557600 + d.seconds % 31557600 / 2630016 * 2630016 +
          d.seconds % 31557600 % 2630016 / 86400 * 86400 +
          d.seconds % 31557600 % 2630016 % 86400 / 3600 * 3600 +
          d.seconds % 31557600 % 2630016 % 86400 % 3600 / 60 * 60 +
          d.seconds % 31557600 % 2630016 % 86400 % 60) * nanosPerSecond +
        (d.subsecNanos / 1000000 * 1000000 + d.subsecNanos / 1000 % 1000 * 1000 +
          d.subsecNanos % 1000) := by
        simp only [groups, List.map_append, List.sum_append, sum_groupOf, TimeUnit.nanos]
        ring
    _ = d.seconds * nanosPerSecond + d.subsecNanos := by rw [seconds_eq_sum, nanos_eq_sum]
    _ = d.nanos := Nat.div_add_mod' d.nanos nanosPerSecond

/-- Each group of a span is readable. -/
theorem readable_of_mem_groups : ∀ g ∈ d.groups, g.Readable := by
  have hseconds : d.seconds < 18446744073709551616 :=
    Nat.div_lt_of_lt_mul (by rw [Nat.mul_comm]; exact d.bounded)
  have hsubsec : d.subsecNanos < 1000000000 := Nat.mod_lt _ (by decide)
  intro g hg
  simp only [groups, List.mem_append] at hg
  rcases hg with (((((((hg | hg) | hg) | hg) | hg) | hg) | hg) | hg) | hg
  · exact readable_of_mem_groupOf hg (by decide) (by omega) (.inl rfl)
  · exact readable_of_mem_groupOf hg (by decide) (by omega) (.inl rfl)
  · exact readable_of_mem_groupOf hg (by decide) (by omega) (.inl rfl)
  · exact readable_of_mem_groupOf hg (by decide) (by omega) (.inl rfl)
  · exact readable_of_mem_groupOf hg (by decide) (by omega) (.inl rfl)
  · exact readable_of_mem_groupOf hg (by decide) (by omega) (.inl rfl)
  · have hmillis : d.subsecNanos / 1000000 * 1000000 < 1000000000 := by omega
    exact readable_of_mem_groupOf hg (by decide) (by omega) (.inr hmillis)
  · have hmicros : d.subsecNanos / 1000 % 1000 * 1000 < 1000000000 := by omega
    exact readable_of_mem_groupOf hg (by decide) (by omega) (.inr hmicros)
  · have hnanos : d.subsecNanos % 1000 * 1 < 1000000000 := by omega
    exact readable_of_mem_groupOf hg (by decide) (by omega) (.inr hnanos)

/-- A span is written as its groups, or as no seconds. -/
theorem render_eq : d.render = if d.nanos = 0 then "0s" else textOf d.groups := by
  rw [render, textOf, map_text_groups]

end Groups

/-- The text of groups begins with the first one. -/
theorem exists_toList_textOf_cons (g : Group) (groups : List Group) :
    ∃ rest, (textOf (g :: groups)).toList = g.text.toList ++ rest := by
  cases groups with
  | nil => exact ⟨[], by rw [textOf, List.map_singleton, String.intercalate_singleton,
      List.append_nil]⟩
  | cons next groups => exact ⟨_, toList_textOf_cons_cons g next groups⟩

/-- Written groups begin with a digit. -/
theorem exists_toList_textOf_eq_cons (g : Group) (groups : List Group) :
    ∃ first rest, first.isDigit = true ∧ (textOf (g :: groups)).toList = first :: rest := by
  obtain ⟨rest, htext⟩ := exists_toList_textOf_cons g groups
  obtain ⟨first, digits, hdigits⟩ := List.exists_cons_of_ne_nil
    (List.ne_nil_of_length_pos (@Nat.length_toDigits_pos 10 g.count))
  have hfirst : first.isDigit = true :=
    Nat.isDigit_of_mem_toDigits (by decide) (by decide) (hdigits ▸ List.mem_cons_self)
  exact ⟨first, digits ++ g.name.toList ++ rest, hfirst, by
    rw [htext, Group.toList_text, hdigits]
    simp only [List.cons_append]⟩

/-- A group takes at least two characters, a digit and the name of a unit. -/
theorem Group.Readable.two_le_length {g : Group} (hg : g.Readable) :
    2 ≤ g.text.toList.length := by
  have hname := List.length_pos_of_ne_nil hg.name.1
  have hcount := @Nat.length_toDigits_pos 10 g.count
  rw [Group.toList_text, List.length_append]
  omega

/-- Each group takes two characters at least, so that a text is long enough for its groups. -/
theorem two_mul_length_le {groups : List Group} (hgroups : ∀ g ∈ groups, g.Readable) :
    2 * groups.length ≤ (textOf groups).toList.length := by
  induction groups with
  | nil => exact Nat.zero_le _
  | cons g groups ih =>
    have hg := (hgroups g List.mem_cons_self).two_le_length
    have hrest := ih fun h hh => hgroups h (List.mem_cons_of_mem g hh)
    cases groups with
    | nil =>
      rw [textOf, List.map_singleton, String.intercalate_singleton]
      exact hg
    | cons next groups =>
      simp only [toList_textOf_cons_cons, List.length_append, List.length_cons] at hrest ⊢
      omega

/-- Groups that make up a span are read to this span. -/
theorem parse?_textOf {groups : List Group} (hgroups : ∀ g ∈ groups, g.Readable)
    (hne : groups ≠ []) {d : Span} (hsum : (groups.map Group.nanos).sum = d.nanos) :
    parse? (textOf groups) = some d := by
  have hlength := two_mul_length_le hgroups
  have hpos : 0 < groups.length := List.length_pos_iff.mpr hne
  have hzero : textOf groups ≠ "0" := by
    intro h
    rw [h] at hlength
    have hone : "0".toList.length = 1 := rfl
    omega
  have htrim : ∃ first rest, (textOf groups).toList = first :: rest ∧
      Text.trimStart (textOf groups).toList = first :: rest := by
    obtain ⟨g, groups, rfl⟩ := List.exists_cons_of_ne_nil hne
    obtain ⟨first, rest, hfirst, htext⟩ := exists_toList_textOf_eq_cons g groups
    refine ⟨first, rest, htext, ?_⟩
    rw [htext, Text.trimStart,
      List.dropWhile_cons_of_neg (by rw [not_blank_of_isDigit hfirst]; decide)]
  obtain ⟨first, rest, htext, htrim⟩ := htrim
  have hbound : 0 + (groups.map Group.nanos).sum < 18446744073709551616 * nanosPerSecond := by
    rw [Nat.zero_add, hsum]
    exact d.bounded
  have hread : readGroups 0 ((first :: rest).length + 1) (first :: rest) = some d.nanos := by
    rw [← htext, readGroups_textOf hgroups (by omega), foldlM_add_eq hgroups hbound, Nat.zero_add,
      hsum]
  rw [parse?, if_neg hzero, htrim]
  dsimp only
  rw [hread, Option.bind_some, ofNanos?, dif_pos d.bounded]

/-- A span that is not empty has groups. -/
theorem groups_ne_nil {d : Span} (hd : d.nanos ≠ 0) : d.groups ≠ [] := by
  intro h
  rw [← sum_groups, h] at hd
  exact hd rfl

/-- **A written span reads back.** -/
theorem parse?_render (d : Span) : parse? d.render = some d := by
  rw [render_eq]
  split
  · next hzero =>
    -- The empty span is written as one group of no seconds.
    have hgroup : ∀ g ∈ [Group.mk 0 "s" .second], g.Readable := by
      intro g hg
      obtain rfl := List.mem_singleton.mp hg
      exact ⟨by decide, .inl rfl, by decide⟩
    exact parse?_textOf hgroup (by simp) hzero.symm
  · next hd => exact parse?_textOf d.readable_of_mem_groups (groups_ne_nil hd) d.sum_groups

end CloudCollector.Span
