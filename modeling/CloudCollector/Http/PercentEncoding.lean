import CloudCollector.Json.Outline

/-!
# Percent-encoded text

Part of a path may spell a byte as a percent sign and two hexadecimal digits. A percent sign
without them stands for itself.
-/

namespace CloudCollector.Http

/-- The value of two hexadecimal digits. -/
def hexByte? (high low : Char) : Option UInt8 :=
  match Json.hexDigit? high, Json.hexDigit? low with
  | some h, some l => some (UInt8.ofNat (16 * h + l))
  | _, _ => none

/-- The bytes that a text spells. -/
def percentDecoded : List Char → List UInt8
  | [] => []
  | '%' :: high :: low :: rest =>
    match hexByte? high low with
    | some byte => byte :: percentDecoded rest
    | none => '%'.toNat.toUInt8 :: percentDecoded (high :: low :: rest)
  | c :: rest => (String.singleton c).toUTF8.toList ++ percentDecoded rest

/-- The text that a percent-encoded text spells, if its bytes are UTF-8. -/
def percentDecode? (text : String) : Option String :=
  String.fromUTF8? ⟨(percentDecoded text.toList).toArray⟩

end CloudCollector.Http
