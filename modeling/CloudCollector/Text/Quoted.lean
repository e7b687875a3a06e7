import CloudCollector.Text.Unprintable

/-!
# Quoted text

Text inside a message stands between double quotes. A quote, a backslash and the common control
characters are escaped by a letter, every other character that shows nothing of its own by its
code point.
-/

namespace CloudCollector.Text

/-- How one character is spelled between quotes. -/
def quoteChar (c : Char) : List Char :=
  match c with
  | '\x00' => ['\\', '0']
  | '\t' => ['\\', 't']
  | '\r' => ['\\', 'r']
  | '\n' => ['\\', 'n']
  | '"' => ['\\', '"']
  | '\\' => ['\\', '\\']
  | c =>
    if isUnprintable c then
      '\\' :: 'u' :: '\x7b' :: (Nat.toDigits 16 c.toNat ++ ['\x7d'])
    else [c]

/-- Text between quotes, with everything escaped that would not show. -/
def quote (s : String) : String :=
  String.ofList ('"' :: (s.toList.flatMap quoteChar ++ ['"']))

end CloudCollector.Text
