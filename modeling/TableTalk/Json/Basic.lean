import TableTalk.Json.Token

/-!
# JSON values

A value is a tree, and a text is written from its tokens, either without any white space
or with one item per line.  Reading runs over the tokens once with a stack of the arrays
and objects that are still open, so any depth of nesting is read.

## Main definitions

* `Json` — the values; `Json.tokens` — their tokens.
* `Json.compact`, `Json.pretty` — the two written forms.
* `Json.ofTokens?`, `Json.read?` — the value that tokens or a text denote.
-/

namespace TableTalk

/-- A JSON value. -/
inductive Json where
  /-- `null` -/
  | null
  /-- A truth value. -/
  | bool (b : Bool)
  /-- A number as it is spelt. -/
  | number (spelling : List Char)
  /-- A text. -/
  | string (s : String)
  /-- A string that denotes no text, or an object with such a string among its keys. -/
  | meaningless
  /-- A list of values. -/
  | array (items : List Json)
  /-- Named values in the order in which they are written. -/
  | object (members : List (String × Json))
  deriving Repr, Inhabited

namespace Json

/-- A natural number. -/
def natural (n : Nat) : Json := .number (Nat.toDigits 10 n)

/-- A list of texts. -/
def strings (ss : List String) : Json := .array (ss.map .string)

/-- A value, or `null` for none. -/
def orNull {α : Type} (f : α → Json) : Option α → Json
  | some a => f a
  | none => .null

/-! ### Writing -/

mutual

/-- The tokens of a value. -/
def tokens : Json → List Token
  | .null => [.null]
  | .bool b => [.bool b]
  | .number spelling => [.number spelling]
  | .string s => [.string (some s)]
  | .meaningless => [.string none]
  | .array items => .openArray :: (itemTokens items ++ [.closeArray])
  | .object members => .openObject :: (memberTokens members ++ [.closeObject])

/-- The tokens of the items of an array. -/
def itemTokens : List Json → List Token
  | [] => []
  | [item] => item.tokens
  | item :: items => item.tokens ++ .comma :: itemTokens items

/-- The tokens of the members of an object. -/
def memberTokens : List (String × Json) → List Token
  | [] => []
  | [(key, value)] => .string (some key) :: .colon :: value.tokens
  | (key, value) :: members =>
    .string (some key) :: .colon :: (value.tokens ++ .comma :: memberTokens members)

end

/-- The value as a text without white space. -/
def compact (j : Json) : String := String.ofList (j.tokens.flatMap Token.spelling)

/-- A line end and the indentation of the line behind it. -/
def lineBreak (depth : Nat) : List Char := '\n' :: List.replicate (2 * depth) ' '

mutual

/-- The value with one item per line, the first line being indented already. -/
def prettyAt (depth : Nat) : Json → List Char
  | .array [] => ['[', ']']
  | .array (item :: items) =>
    '[' :: (lineBreak (depth + 1) ++ item.prettyAt (depth + 1) ++
      prettyItems (depth + 1) items ++ lineBreak depth ++ [']'])
  | .object [] => ['\x7b', '\x7d']
  | .object ((key, value) :: members) =>
    '\x7b' :: (lineBreak (depth + 1) ++ quoted key ++ [':', ' '] ++ value.prettyAt (depth + 1) ++
      prettyMembers (depth + 1) members ++ lineBreak depth ++ ['\x7d'])
  | .null => Token.null.spelling
  | .bool b => (Token.bool b).spelling
  | .number spelling => spelling
  | .string s => quoted s
  | .meaningless => (Token.string none).spelling

/-- The items behind the first one. -/
def prettyItems (depth : Nat) : List Json → List Char
  | [] => []
  | item :: items => ',' :: (lineBreak depth ++ item.prettyAt depth ++ prettyItems depth items)

/-- The members behind the first one. -/
def prettyMembers (depth : Nat) : List (String × Json) → List Char
  | [] => []
  | (key, value) :: members =>
    ',' :: (lineBreak depth ++ quoted key ++ [':', ' '] ++ value.prettyAt depth ++
      prettyMembers depth members)

end

/-- The value as a text with one item per line, two spaces of indentation per level. -/
def pretty (j : Json) : String := String.ofList (j.prettyAt 0)

/-! ### Reading -/

/-- An array or object that is still open, its parts read so far in reverse order. -/
inductive Open where
  /-- An array with its items. -/
  | array (items : List Json)
  /-- An object with its members, the key of the next one, and whether every key so far
  denotes a text. -/
  | object (members : List (String × Json)) (key : String) (sound : Bool)
  deriving Inhabited

/-- What a reader may meet next. -/
inductive Expecting where
  /-- A value. -/
  | value
  /-- A value, or the end of an array without items. -/
  | firstItem
  /-- A key, or the end of an object without members. -/
  | firstKey
  /-- A key. -/
  | key
  /-- The colon behind a key. -/
  | colon
  /-- A comma, or the end of what is open. -/
  | next
  /-- Nothing: the value is complete. -/
  | nothing (value : Json)

/-- The state of a reader: what it may meet next, and what is open, innermost first. -/
structure Reader where
  /-- What may come next. -/
  expecting : Expecting
  /-- The open arrays and objects. -/
  stack : List Open

namespace Reader

/-- The reader behind a complete value. -/
def supply (value : Json) : List Open → Reader
  | [] => ⟨.nothing value, []⟩
  | .array items :: stack => ⟨.next, .array (value :: items) :: stack⟩
  | .object members key sound :: stack =>
    ⟨.next, .object ((key, value) :: members) key sound :: stack⟩

/-- The reader behind a key. -/
def supplyKey (key : Option String) : List Open → Option Reader
  | .object members _ sound :: stack =>
    some ⟨.colon, .object members (key.getD "") (sound && key.isSome) :: stack⟩
  | _ => none

/-- The reader behind the end of the innermost array. -/
def endArray : List Open → Option Reader
  | .array items :: stack => some (supply (.array items.reverse) stack)
  | _ => none

/-- The reader behind the end of the innermost object. -/
def endObject : List Open → Option Reader
  | .object members _ sound :: stack =>
    some (supply (if sound then .object members.reverse else .meaningless) stack)
  | _ => none

/-- The reader behind the first token of a value. -/
def startValue (stack : List Open) : Token → Option Reader
  | .null => some (supply .null stack)
  | .bool b => some (supply (.bool b) stack)
  | .number spelling => some (supply (.number spelling) stack)
  | .string (some s) => some (supply (.string s) stack)
  | .string none => some (supply .meaningless stack)
  | .openArray => some ⟨.firstItem, .array [] :: stack⟩
  | .openObject => some ⟨.firstKey, .object [] "" true :: stack⟩
  | _ => none

/-- The reader behind a token, unless the token may not come here. -/
def step (r : Reader) (token : Token) : Option Reader :=
  match r.expecting with
  | .value => startValue r.stack token
  | .firstItem => match token with
    | .closeArray => endArray r.stack
    | token => startValue r.stack token
  | .firstKey => match token with
    | .closeObject => endObject r.stack
    | .string key => supplyKey key r.stack
    | _ => none
  | .key => match token with
    | .string key => supplyKey key r.stack
    | _ => none
  | .colon => match token with
    | .colon => some { r with expecting := .value }
    | _ => none
  | .next => match token, r.stack with
    | .comma, .array _ :: _ => some { r with expecting := .value }
    | .comma, .object _ _ _ :: _ => some { r with expecting := .key }
    | .closeArray, stack => endArray stack
    | .closeObject, stack => endObject stack
    | _, _ => none
  | .nothing _ => none

/-- The value that the reader and the tokens in front of it make up. -/
def run (r : Reader) : List Token → Option Json
  | [] => match r.expecting with
    | .nothing value => some value
    | _ => none
  | token :: tokens => (r.step token).bind fun r => r.run tokens

end Reader

/-- The value with the given tokens. -/
def ofTokens? (tokens : List Token) : Option Json := Reader.run ⟨.value, []⟩ tokens

/-- The value that a text denotes. -/
def read? (s : String) : Option Json := (scan s.toList).bind ofTokens?

end Json
end TableTalk
