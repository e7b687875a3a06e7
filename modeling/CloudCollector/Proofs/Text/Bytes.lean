import CloudCollector.Dict
import Mathlib.Tactic.SplitIfs

/-!
# Texts and their bytes

A text is stored as the bytes of its characters in UTF-8. Texts are compared by their characters
here; comparing their bytes gives the same order, because no code of a character begins another and
the codes of two characters compare as the characters do. A text is looked for byte by byte, but
wherever its bytes are found, characters begin and end there.
-/

namespace CloudCollector.Text

/-- The UTF-8 bytes of a text. -/
def bytes (text : String) : List UInt8 :=
  text.toByteArray.data.toList

/-- The bytes of a text are those of its characters, one after the other. -/
theorem bytes_eq_flatMap (text : String) :
    bytes text = text.toList.flatMap String.utf8EncodeChar := by
  rw [bytes, ← String.utf8Encode_toList, List.utf8Encode]
  simp

/-! ## The order of bytes -/

/-- The codes of two characters compare as the characters do, whatever follows them. -/
theorem encode_append_lt {c d : Char} (h : c < d) (x y : List UInt8) :
    String.utf8EncodeChar c ++ x < String.utf8EncodeChar d ++ y := by
  have hval : c.toNat < d.toNat := h
  have hmax : d.toNat < 0x110000 := by
    have hvalid := d.valid
    simp only [UInt32.isValidChar, Nat.isValidChar, Char.toNat_val] at hvalid
    omega
  -- every byte holds six more bits of the character than the next one
  have hbits : ∀ n : Nat, n / 4096 = n / 64 / 64 ∧ n / 262144 = n / 64 / 64 / 64 := by omega
  simp only [String.utf8EncodeChar, Char.toNat_val, hbits]
  split_ifs <;>
    simp only [List.cons_append, List.cons_lt_cons_iff, UInt8.lt_iff_toNat_lt, ← UInt8.toNat_inj,
      UInt8.toNat_ofNat'] <;>
    omega

/-- Lists of characters compare as their bytes do. -/
theorem flatMap_encode_lt {cs ds : List Char} (h : cs < ds) :
    cs.flatMap String.utf8EncodeChar < ds.flatMap String.utf8EncodeChar := by
  induction cs generalizing ds with
  | nil =>
    cases ds with
    | nil => exact absurd h (List.lt_irrefl _)
    | cons d ds =>
      have hsize : 0 < (String.utf8EncodeChar d).length := by
        rw [String.length_utf8EncodeChar]
        exact d.utf8Size_pos
      obtain ⟨first, rest, hd⟩ := List.exists_cons_of_length_pos hsize
      rw [List.flatMap_nil, List.flatMap_cons, hd]
      exact List.nil_lt_cons _ _
  | cons c cs ih =>
    cases ds with
    | nil => exact absurd h (List.not_lt_nil _)
    | cons d ds =>
      rw [List.flatMap_cons, List.flatMap_cons]
      rcases List.cons_lt_cons_iff.mp h with hlt | ⟨rfl, hrest⟩
      · exact encode_append_lt hlt _ _
      · exact List.append_left_lt (ih hrest)

/-- A smaller text has smaller bytes. -/
theorem bytes_lt_of_lt {s t : String} (h : s < t) : bytes s < bytes t := by
  rw [bytes_eq_flatMap, bytes_eq_flatMap]
  exact flatMap_encode_lt (String.lt_iff.mp h)

/-- Comparing texts is comparing their bytes. -/
theorem bytes_lt_iff {s t : String} : bytes s < bytes t ↔ s < t := by
  refine ⟨fun h => ?_, bytes_lt_of_lt⟩
  by_cases hlt : s < t
  · exact hlt
  · by_cases heq : s = t
    · exact absurd (heq ▸ h) (List.lt_irrefl _)
    · have hgt : t < s := Dict.lt_of_not_lt_of_ne hlt heq
      exact absurd h (List.lt_asymm (bytes_lt_of_lt hgt))

/-- The order of texts is that of their bytes. -/
theorem bytes_le_iff {s t : String} : bytes s ≤ bytes t ↔ s ≤ t :=
  not_congr bytes_lt_iff

/-! ## Occurrences -/

/-- The bytes of `needle` are found in `text` after `offset` bytes. -/
def OccursAt (needle text : String) (offset : Nat) : Prop :=
  text.toByteArray.extract offset (offset + needle.utf8ByteSize) = needle.toByteArray

instance (needle text : String) (offset : Nat) : Decidable (OccursAt needle text offset) :=
  inferInstanceAs (Decidable (_ = _))

/-- The first bytes of two texts in a row are those of the first one. -/
theorem extract_append_left (front rest : String) :
    (front ++ rest).toByteArray.extract 0 front.utf8ByteSize = front.toByteArray := by
  rw [String.toByteArray_append, ← String.size_toByteArray]
  exact ByteArray.extract_append_eq_left rfl

/-- A text occurs where the text in front of it ends. -/
theorem occursAt_append (front needle rest : String) :
    OccursAt needle (front ++ needle ++ rest) front.utf8ByteSize := by
  have hskip := ByteArray.extract_append_size_add (a := front.toByteArray)
    (b := (needle ++ rest).toByteArray) (i := 0) (j := needle.utf8ByteSize)
  rw [extract_append_left, String.size_toByteArray, Nat.add_zero, ← String.toByteArray_append,
    ← String.append_assoc] at hskip
  exact hskip

/-- Where the bytes of a text are found, characters begin and end. -/
theorem OccursAt.exists_append {needle text : String} {offset : Nat} (hneedle : needle ≠ "")
    (h : OccursAt needle text offset) :
    ∃ front rest, text = front ++ needle ++ rest ∧ front.utf8ByteSize = offset := by
  have hpos : 0 < needle.utf8ByteSize :=
    Nat.pos_of_ne_zero fun hzero => hneedle (String.utf8ByteSize_eq_zero_iff.mp hzero)
  have hsize : offset + needle.utf8ByteSize ≤ text.utf8ByteSize := by
    have hsizes := congrArg ByteArray.size h
    rw [ByteArray.size_extract, String.size_toByteArray, String.size_toByteArray] at hsizes
    omega
  -- a stretch of bytes that is a text by itself begins and ends with a character
  let start : String.Pos.Raw := ⟨offset⟩
  let stop : String.Pos.Raw := ⟨offset + needle.utf8ByteSize⟩
  have hvalid : (text.toByteArray.extract start.byteIdx stop.byteIdx).IsValidUTF8 :=
    h ▸ needle.isValidUTF8
  rw [String.Pos.Raw.isValidUTF8_extract_iff start stop (Nat.le_add_right _ _) hsize] at hvalid
  rcases hvalid with heq | ⟨hstart, hstop⟩
  · have : offset = offset + needle.utf8ByteSize := congrArg String.Pos.Raw.byteIdx heq
    omega
  obtain ⟨front, tail, htext, hfront⟩ := String.Pos.Raw.isValid_iff_exists_append.mp hstart
  obtain ⟨head, rest, htext', hhead⟩ := String.Pos.Raw.isValid_iff_exists_append.mp hstop
  have hfrontSize : front.utf8ByteSize = offset := (congrArg String.Pos.Raw.byteIdx hfront).symm
  have hheadSize : head.utf8ByteSize = offset + needle.utf8ByteSize :=
    (congrArg String.Pos.Raw.byteIdx hhead).symm
  have hheadBytes : head.toByteArray = (front ++ needle).toByteArray := by
    rw [← extract_append_left head rest, ← htext', hheadSize,
      ByteArray.extract_eq_extract_append_extract offset (Nat.zero_le _) (Nat.le_add_right _ _),
      h, htext, ← hfrontSize, extract_append_left, ← String.toByteArray_append]
  refine ⟨front, rest, ?_, hfrontSize⟩
  rw [htext', String.toByteArray_inj.mp hheadBytes]

/-- Of two parts of a text that go up to its end, the one that begins sooner has at least as many
characters. -/
theorem length_le_of_utf8ByteSize_le {text front front' rest rest' : String}
    (h : text = front ++ rest) (h' : text = front' ++ rest')
    (hsize : front.utf8ByteSize ≤ front'.utf8ByteSize) : rest'.length ≤ rest.length := by
  have hlist : front.toList ++ rest.toList = front'.toList ++ rest'.toList := by
    rw [← String.toList_append, ← String.toList_append, ← h, h']
  simp only [← String.length_toList]
  rcases Nat.le_total front.toList.length front'.toList.length with hle | hle
  · have hlength := congrArg List.length hlist
    rw [List.length_append, List.length_append] at hlength
    omega
  · -- the longer part has no more bytes, so it has no more characters
    obtain ⟨more, hmore⟩ : front'.toList <+: front.toList :=
      List.prefix_of_prefix_length_le ⟨rest'.toList, hlist.symm⟩ (List.prefix_append _ _) hle
    have hfront : front = front' ++ .ofList more := by
      rw [← String.toList_inj, String.toList_append, String.toList_ofList, hmore]
    have hempty : String.ofList more = "" := by
      rw [hfront, String.utf8ByteSize_append] at hsize
      exact String.utf8ByteSize_eq_zero_iff.mp (by omega)
    rw [hfront, hempty, String.append_empty] at hlist
    exact Nat.le_of_eq (congrArg List.length (List.append_cancel_left hlist)).symm

end CloudCollector.Text
