import TokenScan.Text.Printable

/-! Texts quoted inside a message: whatever would not show, or would break out of the quotes,
is escaped. -/
namespace TokenScan.Text

/-- A character that cannot be shown is given by its code point, in as few digits as it has. -/
def escapedInQuotes (c : Char) : List Char :=
  if c = '"' then ['\\', '"']
  else if c = '\\' then ['\\', '\\']
  else if c = '\x00' then ['\\', '0']
  else if c = '\t' then ['\\', 't']
  else if c = '\r' then ['\\', 'r']
  else if c = '\n' then ['\\', 'n']
  else if isShown c then [c]
  else '\\' :: 'u' :: '\x7b' :: Nat.toDigits 16 c.toNat ++ ['\x7d']

def quoted (text : String) : String :=
  String.ofList ('"' :: text.toList.flatMap escapedInQuotes ++ ['"'])

end TokenScan.Text
