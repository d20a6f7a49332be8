/-!
# JSON values and their text

The command line prints session parameters as JSON, and records of this
library are written as JSON values. `Json` is the value; `Json.compact` writes
it on one line with no blanks, and `Json.pretty` writes one member per line,
indented by two spaces per level, with `": "` after each key. Empty arrays and
objects stay `[]` and `{}` in both.

In strings the quote and the backslash are escaped, the control characters
backspace, form feed, line feed, carriage return and tab get their short
escapes, every other control character below U+0020 is written `\u00XX` in
lowercase hexadecimal, and all else is written as it is.
-/

namespace VideoCodec

/-- A JSON value whose numbers are integers. Object members keep their order. -/
inductive Json where
  | null
  | bool (b : Bool)
  | num (n : Int)
  | str (s : String)
  | arr (xs : List Json)
  | obj (members : List (String × Json))
  deriving Inhabited, Repr

namespace Json

/-- A natural number as a JSON number. -/
def nat (n : Nat) : Json := .num n

/-- An optional value, `null` when absent. -/
def opt {α : Type} (f : α → Json) : Option α → Json
  | some a => f a
  | none => .null

/-- A list of natural numbers. -/
def nats (xs : List Nat) : Json := .arr (xs.map nat)

/-- How one character is written inside a JSON string. -/
def escapeChar (c : Char) : List Char :=
  if c = '"' then ['\\', '"']
  else if c = '\\' then ['\\', '\\']
  else if c = '\n' then ['\\', 'n']
  else if c = '\r' then ['\\', 'r']
  else if c = '\t' then ['\\', 't']
  else if c.toNat = 8 then ['\\', 'b']
  else if c.toNat = 12 then ['\\', 'f']
  else if c.toNat < 0x20 then
    let d := Nat.toDigits 16 c.toNat
    ['\\', 'u', '0', '0'] ++ (if d.length < 2 then '0' :: d else d)
  else [c]

/-- A text as a JSON string literal. -/
def quote (s : String) : String :=
  String.ofList ('"' :: s.toList.flatMap escapeChar ++ ['"'])

mutual

/-- The one-line text of a value. -/
def compact : Json → String
  | .null => "null"
  | .bool b => if b then "true" else "false"
  | .num n => toString n
  | .str s => quote s
  | .arr xs => "[" ++ ",".intercalate (compactItems xs) ++ "]"
  | .obj ms => "\x7b" ++ ",".intercalate (compactMembers ms) ++ "\x7d"

/-- The one-line texts of array items. -/
def compactItems : List Json → List String
  | [] => []
  | x :: xs => compact x :: compactItems xs

/-- The one-line texts of object members. -/
def compactMembers : List (String × Json) → List String
  | [] => []
  | (k, v) :: ms => (quote k ++ ":" ++ compact v) :: compactMembers ms

end

/-- Two blanks per level of nesting. -/
def indent (level : Nat) : String :=
  String.ofList (List.replicate (2 * level) ' ')

mutual

/-- The indented text of a value nested `level` deep; the first line is not
indented, the closing bracket is. -/
def prettyAt (level : Nat) : Json → String
  | .arr [] => "[]"
  | .obj [] => "\x7b\x7d"
  | .arr xs =>
    "[\n" ++ ",\n".intercalate (prettyItems (level + 1) xs) ++ "\n" ++ indent level ++ "]"
  | .obj ms =>
    "\x7b\n" ++ ",\n".intercalate (prettyMembers (level + 1) ms) ++ "\n" ++ indent level ++ "\x7d"
  | .null => "null"
  | .bool b => if b then "true" else "false"
  | .num n => toString n
  | .str s => quote s

/-- The indented lines of array items at `level`. -/
def prettyItems (level : Nat) : List Json → List String
  | [] => []
  | x :: xs => (indent level ++ prettyAt level x) :: prettyItems level xs

/-- The indented lines of object members at `level`. -/
def prettyMembers (level : Nat) : List (String × Json) → List String
  | [] => []
  | (k, v) :: ms => (indent level ++ quote k ++ ": " ++ prettyAt level v) :: prettyMembers level ms

end

/-- The indented text of a value. -/
def pretty (v : Json) : String := prettyAt 0 v

example : compact (.obj [("a", .arr [.num 1, .null]), ("b", .obj [])]) =
    "\x7b\"a\":[1,null],\"b\":\x7b\x7d\x7d" := by
  cbv

end Json

end VideoCodec
