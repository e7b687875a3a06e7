import CloudCollector.Proofs.Text.Bytes
import CloudCollector.Proofs.Time.Calendar
import CloudCollector.Proofs.Time.SpanText
import CloudCollector.Time.Timestamp

/-!
# A written timestamp reads back

A timestamp is written as seven numbers of fixed widths, from the year to the millisecond, and it
has no zone. The reader looks for a zone, then for a `T` after the date, and at last takes the
space. What it reads is the written instant rounded down to the millisecond. Because the widths are
fixed, texts compare as their numbers do, and the numbers as the instants.
-/

namespace CloudCollector

/-! ## White space around a text -/

namespace Text

/-- Blanks in front are trimmed up to the first character that is none. -/
theorem trimStart_append {before cs : List Char} (hbefore : ∀ c ∈ before, isBlank c = true)
    (hcs : ∀ c ∈ cs.head?, isBlank c = false) : trimStart (before ++ cs) = cs := by
  rw [trimStart, List.dropWhile_append_of_pos hbefore]
  cases cs with
  | nil => rfl
  | cons c cs =>
    have hc : isBlank c = false := hcs c rfl
    rw [List.dropWhile_cons, if_neg (by simp [hc])]

/-- The white space around a text that begins and ends with other characters is dropped, and
nothing else. -/
theorem trim_append {before cs after : List Char} (hbefore : ∀ c ∈ before, isBlank c = true)
    (hafter : ∀ c ∈ after, isBlank c = true) (hhead : ∀ c ∈ cs.head?, isBlank c = false)
    (hlast : ∀ c ∈ cs.getLast?, isBlank c = false) (hne : cs ≠ []) :
    trim (before ++ cs ++ after) = cs := by
  have hhead' : ∀ c ∈ (cs ++ after).head?, isBlank c = false := by
    rwa [List.head?_append_of_ne_nil cs hne]
  rw [trim, List.append_assoc, trimStart_append hbefore hhead', List.reverse_append,
    trimStart_append (fun c hc => hafter c (List.mem_reverse.mp hc)) (by rwa [List.head?_reverse]),
    List.reverse_reverse]

end Text

namespace Instant

/-! ## Numbers of a fixed width -/

section Padded

variable {w n : Nat}

/-- The last digit of a number is written last. -/
theorem padded_succ (w n : Nat) :
    padded (w + 2) n = padded (w + 1) (n / 10) ++ [(n % 10).digitChar] := by
  unfold padded
  dsimp only
  rw [Nat.toDigits_eq_if (n := n) (by decide)]
  split
  · next h =>
    rw [Nat.div_eq_of_lt h, Nat.mod_eq_of_lt h, Nat.toDigits_of_lt_base (by decide : 0 < 10)]
    simp [List.replicate_succ']
  · rw [List.length_append, List.length_singleton, Nat.add_sub_add_right _ 1, List.append_assoc]

/-- A number below the power of ten for a width is written in just that width. -/
theorem length_padded (hn : n < 10 ^ (w + 1)) : (padded (w + 1) n).length = w + 1 := by
  have hdigits := (Nat.length_toDigits_le_iff (b := 10) (by decide) (Nat.succ_pos w)).mpr hn
  rw [padded, List.length_append, List.length_replicate]
  omega

/-- A padded number is all digits. -/
theorem isDigit_of_mem_padded {c : Char} (h : c ∈ padded w n) : c.isDigit = true := by
  rcases List.mem_append.mp h with h | h
  · rw [List.eq_of_mem_replicate h]
    rfl
  · exact Nat.isDigit_of_mem_toDigits (by decide) (by decide) h

/-- Zeros in front do not change the number that the digits spell. -/
theorem ofDigitChars_padded (w n : Nat) : Nat.ofDigitChars 10 (padded w n) 0 = n := by
  rw [padded, Nat.ofDigitChars_append, Nat.ofDigitChars_replicate_zero, Nat.mul_zero,
    Nat.ofDigitChars_toDigits (by decide) (by decide)]

/-- A number has at least one digit. -/
theorem padded_ne_nil (w n : Nat) : padded w n ≠ [] :=
  List.append_ne_nil_of_right_ne_nil _ (List.ne_nil_of_length_pos Nat.length_toDigits_pos)

/-- A padded number begins with a digit. -/
theorem exists_padded_eq_cons (w n : Nat) :
    ∃ c digits, padded w n = c :: digits ∧ c.isDigit = true := by
  obtain ⟨c, digits, h⟩ := List.exists_cons_of_ne_nil (padded_ne_nil w n)
  exact ⟨c, digits, h, isDigit_of_mem_padded (h ▸ List.mem_cons_self)⟩

/-- The characters of the digits increase with the digits. -/
theorem digitChar_lt {a b : Nat} (h : a < b) (hb : b < 10) : a.digitChar < b.digitChar := by
  have hdigits : ∀ b < 10, ∀ a < b, a.digitChar < b.digitChar := by decide
  exact hdigits b hb a h

/-- Numbers of one width compare as they are written, and so does what follows equal numbers. -/
theorem padded_append_lt {a b : Nat} {x y : List Char} (ha : a < 10 ^ (w + 1))
    (hb : b < 10 ^ (w + 1)) (h : a < b ∨ a = b ∧ x < y) :
    padded (w + 1) a ++ x < padded (w + 1) b ++ y := by
  -- the digits are compared from the last one on, which joins what follows
  induction w generalizing a b x y with
  | zero =>
    have hone : ∀ n, n < 10 ^ (0 + 1) → padded 1 n = [n.digitChar] := fun n hn => by
      rw [padded, Nat.toDigits_of_lt_base (b := 10) hn]
      rfl
    rw [hone a ha, hone b hb, List.singleton_append, List.singleton_append,
      List.cons_lt_cons_iff]
    rcases h with h | ⟨rfl, h⟩
    · exact .inl (digitChar_lt h hb)
    · exact .inr ⟨rfl, h⟩
  | succ w ih =>
    rw [padded_succ, padded_succ, List.append_assoc, List.append_assoc]
    refine ih (by omega) (by omega) ?_
    rw [List.singleton_append, List.singleton_append, List.cons_lt_cons_iff]
    rcases h with h | ⟨rfl, h⟩
    · rcases Nat.lt_or_ge (a / 10) (b / 10) with hlt | hge
      · exact .inl hlt
      · exact .inr ⟨by omega, .inl (digitChar_lt (by omega) (by omega))⟩
    · exact .inr ⟨rfl, .inr ⟨rfl, h⟩⟩

/-- A number of a fixed width is read up to its last digit, if nothing more may be read. -/
theorem readNumber_padded {least most : Nat} {rest : List Char} (hn : n < 10 ^ (w + 1))
    (hleast : least ≤ w + 1) (hmost : w + 1 ≤ most) (hstop : rest.take (most - (w + 1)) = []) :
    readNumber least most (padded (w + 1) n ++ rest) = some (n, rest) := by
  have hlength := length_padded hn
  have hdigits :
      ((padded (w + 1) n ++ rest).take most).takeWhile Char.isDigit = padded (w + 1) n := by
    rw [List.take_append, hlength, hstop, List.append_nil, List.take_of_length_le (by omega),
      ← List.append_nil (padded (w + 1) n),
      List.takeWhile_append_of_pos fun c => isDigit_of_mem_padded]
    rfl
  have hvalue :
      (padded (w + 1) n).foldl (fun n c => 10 * n + (c.toNat - '0'.toNat)) 0 = n :=
    ofDigitChars_padded (w + 1) n
  rw [readNumber, hdigits, if_neg (by omega), hvalue, List.drop_left]

/-- A number is read back where its width is the least and the most that may be read. -/
theorem readNumber_exactly (hn : n < 10 ^ (w + 1)) (rest : List Char) :
    readNumber (w + 1) (w + 1) (padded (w + 1) n ++ rest) = some (n, rest) :=
  readNumber_padded hn le_rfl le_rfl (by rw [Nat.sub_self, List.take_zero])

/-- No white space stands in front of a number. -/
theorem head_padded_append (w n : Nat) (rest : List Char) :
    ∀ c ∈ (padded w n ++ rest).head?, Text.isBlank c = false := by
  obtain ⟨c, digits, h, hc⟩ := exists_padded_eq_cons w n
  rw [h]
  rintro _ ⟨⟩
  exact Span.not_blank_of_isDigit hc

/-- There is nothing to trim in front of a number. -/
theorem trimStart_padded_append (w n : Nat) (rest : List Char) :
    Text.trimStart (padded w n ++ rest) = padded w n ++ rest :=
  @Text.trimStart_append [] _ (by simp) (head_padded_append w n rest)

end Padded

/-! ## Fields -/

section Readers

variable {n : Nat} {rest : List Char}

/-- A year of four digits is read back. -/
theorem readYear_padded (hn : n < 10 ^ 4) :
    readYear (padded 4 n ++ rest) = some ((n : Int), rest) := by
  obtain ⟨c, digits, h, hc⟩ := exists_padded_eq_cons 4 n
  have hread : readNumber 1 4 (padded 4 n ++ rest) = some (n, rest) :=
    readNumber_padded hn (by decide) (by decide) rfl
  rw [readYear, trimStart_padded_append]
  rw [h] at hread ⊢
  -- a year that begins with a digit has no sign
  split
  · next heq => simp_all
  · next heq => simp_all
  · rw [hread]
    rfl

/-- A field of two digits is read back. -/
theorem readField_padded (hn : n < 10 ^ 2) :
    readField (padded 2 n ++ rest) = some (n, rest) := by
  rw [readField, trimStart_padded_append]
  exact readNumber_padded hn (by decide) (by decide) rfl

/-- The milliseconds are read as nanoseconds. -/
theorem readNanos_padded (hn : n < 10 ^ 3) :
    readNanos ('.' :: padded 3 n) = some (n * 1000000, []) := by
  have hread : readNumber 1 9 (padded 3 n ++ []) = some (n, []) :=
    readNumber_padded hn (by decide) (by decide) rfl
  rw [List.append_nil] at hread
  rw [readNanos, hread]
  dsimp only
  rw [length_padded hn]
  rfl

/-- A separator is read. -/
theorem readChar_cons (c : Char) (rest : List Char) : readChar c (c :: rest) = some rest :=
  if_pos rfl

/-- One reader after another. -/
theorem bind_of_eq_some {α β : Type} {x : Option α} {next : α → Option β} {a : α} {b : Option β}
    (hx : x = some a) (hnext : next a = b) : (x >>= next) = b := by
  rw [hx]
  exact hnext

end Readers

/-- The numbers that a timestamp is written with. -/
structure Fields where
  year : Nat
  month : Nat
  day : Nat
  hour : Nat
  minute : Nat
  second : Nat
  millis : Nat

namespace Fields

/-- The fields, from the year to the millisecond. -/
def numbers (f : Fields) : List Nat :=
  [f.year, f.month, f.day, f.hour, f.minute, f.second, f.millis]

/-- The fields as they are written. -/
def text (f : Fields) : List Char :=
  padded 4 f.year ++ '-' :: (padded 2 f.month ++ '-' :: (padded 2 f.day ++
    ' ' :: (padded 2 f.hour ++ ':' :: (padded 2 f.minute ++ ':' :: (padded 2 f.second ++
      '.' :: padded 3 f.millis)))))

/-- Fits into the widths. -/
structure Fits (f : Fields) : Prop where
  year : f.year < 10 ^ 4
  month : f.month < 10 ^ 2
  day : f.day < 10 ^ 2
  hour : f.hour < 10 ^ 2
  minute : f.minute < 10 ^ 2
  second : f.second < 10 ^ 2
  millis : f.millis < 10 ^ 3

variable {f g : Fields}

/-- Numbers with a separator behind compare as the numbers, and then as what follows. -/
theorem separated_lt {w a b : Nat} {separator : Char} {x y : List Char} (ha : a < 10 ^ (w + 1))
    (hb : b < 10 ^ (w + 1)) (h : a < b ∨ a = b ∧ x < y) :
    padded (w + 1) a ++ separator :: x < padded (w + 1) b ++ separator :: y :=
  padded_append_lt ha hb
    (h.imp_right (And.imp_right fun h => List.cons_lt_cons_iff.mpr (.inr ⟨rfl, h⟩)))

/-- Texts compare as their fields do. -/
theorem text_lt (hf : f.Fits) (hg : g.Fits) (h : f.numbers < g.numbers) : f.text < g.text := by
  simp only [numbers, List.cons_lt_cons_iff] at h
  refine separated_lt hf.year hg.year (h.imp_right (And.imp_right fun h => ?_))
  refine separated_lt hf.month hg.month (h.imp_right (And.imp_right fun h => ?_))
  refine separated_lt hf.day hg.day (h.imp_right (And.imp_right fun h => ?_))
  refine separated_lt hf.hour hg.hour (h.imp_right (And.imp_right fun h => ?_))
  refine separated_lt hf.minute hg.minute (h.imp_right (And.imp_right fun h => ?_))
  refine separated_lt hf.second hg.second (h.imp_right (And.imp_right fun h => ?_))
  have hmillis : f.millis < g.millis := h.resolve_right fun h => List.lt_irrefl _ h.2
  have hlast := padded_append_lt (w := 2) (x := []) (y := []) hf.millis hg.millis (.inl hmillis)
  rwa [List.append_nil, List.append_nil] at hlast

/-- No zone ends the text. -/
theorem parseZoned?_text (hf : f.Fits) : parseZoned? f.text = none := by
  refine bind_of_eq_some (readNumber_exactly (w := 3) hf.year _) ?_
  refine bind_of_eq_some (readChar_cons _ _) ?_
  refine bind_of_eq_some (readNumber_exactly (w := 1) hf.month _) ?_
  refine bind_of_eq_some (readChar_cons _ _) ?_
  refine bind_of_eq_some (readNumber_exactly (w := 1) hf.day _) ?_
  -- a space may stand for the `T`
  refine bind_of_eq_some rfl ?_
  refine bind_of_eq_some (readNumber_exactly (w := 1) hf.hour _) ?_
  refine bind_of_eq_some (readChar_cons _ _) ?_
  refine bind_of_eq_some (readNumber_exactly (w := 1) hf.minute _) ?_
  refine bind_of_eq_some (readChar_cons _ _) ?_
  refine bind_of_eq_some (readNumber_exactly (w := 1) hf.second _) ?_
  refine bind_of_eq_some (readNanos_padded hf.millis) ?_
  have hzone : readZone [] = none := rfl
  exact (congrArg (Option.bind · _) hzone).trans (Option.bind_none _)

/-- No `T` stands between the date and the time of day. -/
theorem parseUniversal?_readChar_text (hf : f.Fits) :
    parseUniversal? (readChar 'T') f.text = none := by
  refine bind_of_eq_some (readYear_padded hf.year) ?_
  refine bind_of_eq_some (readChar_cons _ _) ?_
  refine bind_of_eq_some (readField_padded hf.month) ?_
  refine bind_of_eq_some (readChar_cons _ _) ?_
  refine bind_of_eq_some (readField_padded hf.day) ?_
  have hseparator : ∀ rest, readChar 'T' (' ' :: rest) = none := fun rest => rfl
  exact (congrArg (Option.bind · _) (hseparator _)).trans (Option.bind_none _)

/-- The last attempt reads every field. -/
theorem parseUniversal?_text (hf : f.Fits) :
    parseUniversal? some f.text =
      ofCivil? ⟨f.year, f.month, f.day⟩ f.hour f.minute f.second (f.millis * 1000000) 0 := by
  have hyear := hf.year
  have hcalendar : isCalendarYear f.year = true := by
    simp [isCalendarYear]
    omega
  refine bind_of_eq_some (readYear_padded hf.year) ?_
  refine bind_of_eq_some (readChar_cons _ _) ?_
  refine bind_of_eq_some (readField_padded hf.month) ?_
  refine bind_of_eq_some (readChar_cons _ _) ?_
  refine bind_of_eq_some (readField_padded hf.day) ?_
  -- the space is white space in front of the hour
  refine bind_of_eq_some rfl ?_
  refine bind_of_eq_some (readField_padded hf.hour) ?_
  refine bind_of_eq_some (readChar_cons _ _) ?_
  refine bind_of_eq_some (readField_padded hf.minute) ?_
  refine bind_of_eq_some (readChar_cons _ _) ?_
  refine bind_of_eq_some (readField_padded hf.second) ?_
  refine bind_of_eq_some (readNanos_padded hf.millis) ?_
  exact if_pos (by rw [List.isEmpty_nil, hcalendar]; rfl)

/-- A written timestamp is not empty. -/
theorem text_ne_nil : f.text ≠ [] :=
  List.append_ne_nil_of_left_ne_nil (padded_ne_nil 4 f.year) _

/-- A written timestamp does not begin with a blank. -/
theorem head_text : ∀ c ∈ f.text.head?, Text.isBlank c = false :=
  head_padded_append 4 f.year _

/-- A written timestamp does not end with a blank. -/
theorem getLast_text : ∀ c ∈ f.text.getLast?, Text.isBlank c = false := by
  have hlast : f.text.getLast? = (padded 3 f.millis).getLast? := by
    simp [text, List.getLast?_append, List.getLast?_cons,
      List.getLast?_eq_some_getLast (padded_ne_nil 3 f.millis)]
  rw [hlast]
  exact fun c hc => Span.not_blank_of_isDigit (isDigit_of_mem_padded (List.mem_of_getLast? hc))

end Fields

/-! ## The fields of an instant -/

/-- The date of an instant in universal time. -/
def date (t : Instant) : Date :=
  Date.ofDays (t.seconds / 86400)

/-- The last whole millisecond up to an instant. -/
def floorMillis (t : Instant) : Instant :=
  ⟨t.nanos / 1000000 * 1000000, by have := t.lower; omega, by have := t.upper; omega⟩

/-- The fields that an instant is written with. -/
def fields (t : Instant) : Fields :=
  let second := (t.seconds % 86400).toNat
  ⟨t.date.year.toNat, t.date.month, t.date.day, second / 3600, second / 60 % 60, second % 60,
    t.subsecNanos / 1000000⟩

/-- Lies in one of the years that have four digits. -/
def HasPlainYear (t : Instant) : Prop :=
  0 ≤ t.date.year ∧ t.date.year ≤ 9999

instance (t : Instant) : Decidable t.HasPlainYear :=
  inferInstanceAs (Decidable (_ ∧ _))

variable {t u : Instant}

/-- An instant is made up of its days, its seconds of the day and its nanoseconds. -/
theorem nanos_eq (t : Instant) :
    t.nanos = (t.seconds / 86400 * 86400 + t.seconds % 86400) * 1000000000 + t.subsecNanos ∧
      t.subsecNanos < 1000000000 := by
  unfold seconds subsecNanos nanosPerSecond
  omega

/-- The fields of an instant with a plain year are within their bounds. -/
theorem fits_fields (ht : t.HasPlainYear) : t.fields.Fits := by
  have hdate : t.date.isValid = true := Date.isValid_ofDays (t.seconds / 86400)
  have hlength : Date.daysInMonth t.date.year t.date.month ≤ 31 := by
    unfold Date.daysInMonth
    split_ifs <;> decide
  simp only [Date.isValid, Bool.and_eq_true, decide_eq_true_eq] at hdate
  obtain ⟨hyear, hyear'⟩ := ht
  have hsubsec := (nanos_eq t).2
  constructor <;> dsimp only [fields] <;> omega

/-- The text of an instant with a plain year is that of its fields. -/
theorem toList_dateTime (ht : t.HasPlainYear) : t.dateTime.toList = t.fields.text := by
  have hyear : yearText t.date.year = padded 4 t.date.year.toNat := if_pos ht
  have htext : t.dateTime = .ofList (yearText t.date.year ++ '-' :: padded 2 t.fields.month ++
      '-' :: padded 2 t.fields.day ++ ' ' :: padded 2 t.fields.hour ++
      ':' :: padded 2 t.fields.minute ++ ':' :: padded 2 t.fields.second ++
      '.' :: padded 3 t.fields.millis) := rfl
  rw [htext, hyear, String.toList_ofList]
  simp only [Fields.text, List.append_assoc, List.cons_append]
  rfl

/-- The fields of an instant are those of its millisecond. -/
theorem ofCivil?_fields (ht : t.HasPlainYear) :
    ofCivil? ⟨t.fields.year, t.fields.month, t.fields.day⟩ t.fields.hour t.fields.minute
      t.fields.second (t.fields.millis * 1000000) 0 = some t.floorMillis := by
  have hyear : (t.fields.year : Int) = t.date.year := Int.toNat_of_nonneg ht.1
  have hdate : (⟨t.fields.year, t.fields.month, t.fields.day⟩ : Date) = t.date := by
    rw [hyear]
    rfl
  have hvalid : t.date.isValid = true := Date.isValid_ofDays (t.seconds / 86400)
  have hdays : t.date.toDays = t.seconds / 86400 := Date.toDays_ofDays (t.seconds / 86400)
  have hhour : t.fields.hour < 24 := by
    dsimp only [fields]
    omega
  have hminute : t.fields.minute < 60 := Nat.mod_lt _ (by decide)
  have hsecond : t.fields.second < 60 := Nat.mod_lt _ (by decide)
  have hnanos : (t.seconds / 86400 * 86400 + t.fields.hour * 3600 + t.fields.minute * 60 +
      t.fields.second - 0) * nanosPerSecond + (t.fields.millis * 1000000 : Nat) =
        t.floorMillis.nanos := by
    have hparts := nanos_eq t
    dsimp only [fields, floorMillis, nanosPerSecond]
    omega
  rw [ofCivil?, hdate, if_pos (by simp [hvalid, hhour, hminute, hsecond.le]), hdays, ofParts?,
    hnanos, ofNanos?, dif_pos ⟨t.floorMillis.lower, t.floorMillis.upper⟩]

/-- To drop what is below a millisecond goes back by less than one. -/
theorem floorMillis_spec (t : Instant) :
    t.floorMillis.nanos ≤ t.nanos ∧ t.nanos < t.floorMillis.nanos + 1000000 := by
  dsimp only [floorMillis]
  omega

/-- What is less than a millisecond is not written. -/
theorem fields_floorMillis (t : Instant) : t.floorMillis.fields = t.fields := by
  have hparts := nanos_eq t
  have hfloor := nanos_eq t.floorMillis
  have hnanos := floorMillis_spec t
  have hmillis : t.floorMillis.nanos % 1000000 = 0 := Int.mul_emod_left _ _
  have hseconds : t.floorMillis.seconds = t.seconds := by omega
  have hsubsec : t.floorMillis.subsecNanos / 1000000 = t.subsecNanos / 1000000 := by omega
  rw [fields, fields, date, date, hseconds, hsubsec]

/-- Instants of later milliseconds have greater fields. -/
theorem fields_lt (ht : t.HasPlainYear) (hu : u.HasPlainYear)
    (h : t.floorMillis < u.floorMillis) : t.fields.numbers < u.fields.numbers := by
  have hparts := nanos_eq t
  have hparts' := nanos_eq u
  have hfloor : t.floorMillis.nanos < u.floorMillis.nanos := h
  dsimp only [floorMillis] at hfloor
  obtain ⟨hyear, -⟩ := ht
  obtain ⟨hyear', -⟩ := hu
  simp only [Fields.numbers, List.cons_lt_cons_iff]
  have hdays : t.seconds / 86400 < u.seconds / 86400 ∨ t.seconds / 86400 = u.seconds / 86400 ∧
      t.nanos / 1000000 < u.nanos / 1000000 := by omega
  rcases hdays with hdays | ⟨hdays, hmillis⟩
  · have hbefore : t.date.Before u.date := Date.ofDays_before hdays
    unfold Date.Before at hbefore
    dsimp only [fields]
    omega
  · have hdate : t.date = u.date := congrArg Date.ofDays hdays
    dsimp only [fields]
    rw [hdate]
    omega

/-- A written instant is read up to its millisecond, whatever white space surrounds it. -/
theorem parse?_dateTime (ht : t.HasPlainYear) {before after : String}
    (hbefore : ∀ c ∈ before.toList, Text.isBlank c = true)
    (hafter : ∀ c ∈ after.toList, Text.isBlank c = true) :
    parse? (before ++ t.dateTime ++ after) = some t.floorMillis := by
  have hfits := fits_fields ht
  have htrim : Text.trim (before ++ t.dateTime ++ after).toList = t.fields.text := by
    rw [String.toList_append, String.toList_append, toList_dateTime ht]
    exact Text.trim_append hbefore hafter Fields.head_text Fields.getLast_text Fields.text_ne_nil
  rw [parse?, htrim, Fields.parseZoned?_text hfits, Fields.parseUniversal?_readChar_text hfits,
    Fields.parseUniversal?_text hfits, ofCivil?_fields ht]
  rfl

/-- Texts tell instants apart up to the millisecond. -/
theorem dateTime_eq_iff (ht : t.HasPlainYear) (hu : u.HasPlainYear) :
    t.dateTime = u.dateTime ↔ t.floorMillis = u.floorMillis := by
  constructor
  · intro h
    have hread := @parse?_dateTime t ht "" "" (by simp) (by simp)
    rw [h, @parse?_dateTime u hu "" "" (by simp) (by simp)] at hread
    exact (Option.some.inj hread).symm
  · intro h
    rw [← String.toList_inj, toList_dateTime ht, toList_dateTime hu, ← fields_floorMillis t, h,
      fields_floorMillis]

/-- Instants of later milliseconds have greater texts. -/
theorem dateTime_lt (ht : t.HasPlainYear) (hu : u.HasPlainYear)
    (h : t.floorMillis < u.floorMillis) : t.dateTime < u.dateTime := by
  rw [String.lt_iff, toList_dateTime ht, toList_dateTime hu]
  exact Fields.text_lt (fits_fields ht) (fits_fields hu) (fields_lt ht hu h)

/-- Texts come in the order of their instants, up to the millisecond. -/
theorem dateTime_lt_iff (ht : t.HasPlainYear) (hu : u.HasPlainYear) :
    t.dateTime < u.dateTime ↔ t.floorMillis < u.floorMillis := by
  refine ⟨fun h => ?_, dateTime_lt ht hu⟩
  rcases lt_trichotomy t.floorMillis.nanos u.floorMillis.nanos with hlt | heq | hgt
  · exact hlt
  · rw [(dateTime_eq_iff ht hu).mpr (ext heq)] at h
    exact absurd h (String.lt_irrefl _)
  · exact absurd h (String.lt_asymm (dateTime_lt hu ht hgt))

/-- The writer and the reader of timestamps agree. An instant of the years 0 to 9999 is read back
rounded down to the millisecond, whatever white space surrounds its text. So two texts are equal
exactly if the instants lie in one millisecond, and the texts are in the order of the
milliseconds. -/
theorem dateTime_read_back (ht : t.HasPlainYear) :
    (∀ before after : String, (∀ c ∈ before.toList, Text.isBlank c = true) →
      (∀ c ∈ after.toList, Text.isBlank c = true) →
        parse? (before ++ t.dateTime ++ after) = some t.floorMillis) ∧
    ∀ u : Instant, u.HasPlainYear →
      (t.dateTime = u.dateTime ↔ t.floorMillis = u.floorMillis) ∧
      (Text.bytes t.dateTime < Text.bytes u.dateTime ↔ t.floorMillis < u.floorMillis) :=
  ⟨fun _ _ hbefore hafter => parse?_dateTime ht hbefore hafter, fun _ hu =>
    ⟨dateTime_eq_iff ht hu, Text.bytes_lt_iff.trans (dateTime_lt_iff ht hu)⟩⟩

/-- One and a half milliseconds before the epoch. -/
def beforeEpoch : Instant :=
  ⟨-1500000, by decide, by decide⟩

/-- Less than two milliseconds before the epoch the text is that of the earlier millisecond, with
blanks around it or without, and it comes before the text of the epoch. -/
theorem dateTime_read_back_before_epoch :
    beforeEpoch.HasPlainYear ∧
    parse? ("\t" ++ beforeEpoch.dateTime ++ " \n") = some ⟨-2000000, by decide, by decide⟩ ∧
    Text.bytes beforeEpoch.dateTime < Text.bytes epoch.dateTime := by
  have hyear : beforeEpoch.HasPlainYear := by decide
  obtain ⟨hread, horder⟩ := dateTime_read_back hyear
  exact ⟨hyear, hread "\t" " \n" (by simp [Text.isBlank]) (by simp [Text.isBlank]),
    (horder epoch (by decide)).2.mpr (by decide)⟩

end Instant

end CloudCollector
