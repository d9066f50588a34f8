/-!
JSON values as contact records are read and written.

A number keeps the kind that a reader tells apart: an integer written without fraction or
exponent that fits a 64-bit word (from `-2^63` to `2^64 - 1`), or a binary64 float for every
other number. An object keeps its members in the order written, duplicates included;
`Json.lookup` reads the last member of a name, as a map built from the members would.
-/

namespace ContactMigration

/-- A JSON number as a reader classifies it. -/
inductive Json.Number where
  /-- An integer without fraction or exponent that fits a 64-bit word. -/
  | int (value : Int)
  /-- Any other number, as a binary64 value. -/
  | float (value : Float)
  deriving Inhabited

/-- A JSON value. -/
inductive Json where
  | null
  | bool (value : Bool)
  | number (value : Json.Number)
  | string (value : String)
  | array (items : List Json)
  | object (members : List (String × Json))
  deriving Inhabited

namespace Json

/-- The integer `n` as a JSON value. -/
def ofInt (n : Int) : Json :=
  .number (.int n)

/-- An optional text as a JSON value, `null` when absent. -/
def ofOptionString : Option String → Json
  | some text => .string text
  | none => .null

/-- The value of the last member named `key`, when the value is an object that has one. -/
def lookup (key : String) : Json → Option Json
  | .object members => (members.reverse.find? (fun member => member.1 == key)).map (·.2)
  | _ => none

/-- The integer a value holds, if it is an integer number. -/
def asInt? : Json → Option Int
  | .number (.int n) => some n
  | _ => none

/-- The text a value holds, if it is a string. -/
def asString? : Json → Option String
  | .string text => some text
  | _ => none

/-- The truth value a value holds, if it is a boolean. -/
def asBool? : Json → Option Bool
  | .bool b => some b
  | _ => none

/-- The items of a value, if it is an array. -/
def asArray? : Json → Option (List Json)
  | .array items => some items
  | _ => none

/-- The members of a value, if it is an object. -/
def asObject? : Json → Option (List (String × Json))
  | .object members => some members
  | _ => none

end Json

end ContactMigration
