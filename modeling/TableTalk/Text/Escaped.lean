import TableTalk.Text.Property

/-!
# Quoted texts

Where a text is shown inside a sentence it stands between quotes, and every character that
could not be told from its neighbours is written as an escape: the quote and the backslash,
line ends and tabs, characters that do not show, and characters that join the one in front.

## Main definitions

* `Escaped.ofChar` — a character as it is written between quotes.
* `Escaped.quoted` — a text between double quotes.
* `Escaped.quotedChar` — a character between single quotes.
-/

namespace TableTalk
namespace Escaped

/-- The escape that names a character by its code point. -/
def byCodePoint (c : Char) : List Char :=
  '\\' :: 'u' :: '\x7b' :: (Nat.toDigits 16 c.toNat ++ ['\x7d'])

/-- Whether a character outside of ASCII cannot be told from its neighbours: it joins the one
in front, shows nothing, or is none that can be printed. -/
def hidden (c : Char) : Bool :=
  Property.holds Property.graphemeExtend c || Property.holds Property.ignorable c ||
    Property.holds Property.unprintable c

/-- A character as it is written between the given quotes. -/
def ofChar (quote c : Char) : List Char :=
  if c == quote || c == '\\' then ['\\', c]
  else if c == '\x00' then ['\\', '0']
  else if c == '\t' then ['\\', 't']
  else if c == '\r' then ['\\', 'r']
  else if c == '\n' then ['\\', 'n']
  else if 0x20 ≤ c.toNat && c.toNat < 0x7f then [c]
  else if hidden c then byCodePoint c
  else [c]

/-- A text between double quotes. -/
def quoted (s : String) : String :=
  String.ofList ('\x22' :: (s.toList.flatMap (ofChar '\x22') ++ ['\x22']))

/-- A character between single quotes. -/
def quotedChar (c : Char) : String := String.ofList ('\x27' :: (ofChar '\x27' c ++ ['\x27']))

end Escaped
end TableTalk
