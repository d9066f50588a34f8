import ContactMigration.Yaml.Document
import ContactMigration.Yaml.Scalar
import ContactMigration.Decimal.Layout
import ContactMigration.Text.Quoted

/-!
# Reading typed values out of YAML nodes

Each reader takes a node and gives a value, or an error saying what it found and what it
wanted. An error names the path of the value (`id_threshold: ...`) and the place the node starts
(`at line 1 column 15`). The path is left out at the top level, and the place is left out at the
very start of the text. A fault in the text is reported as it is.

A plain scalar is read for what it spells. A quoted or block scalar is text. The exceptions are
a text reader, which takes any scalar's text, and the integer readers, which also read an
integer from a literal block tagged `!!int`.
-/

namespace ContactMigration.Yaml

/-- What a reader found instead of the value it wanted. -/
inductive Found where
  | unit
  | bool (value : Bool)
  | integer (value : Int)
  /-- An integer beyond 64 bits, with the width it was read in. -/
  | wide (value : Int) (width : String)
  | float (value : Float)
  | string (value : String)
  | sequence
  | map
  deriving Inhabited

/-- The text of what was found. -/
def Found.text : Found → String
  | .unit => "unit value"
  | .bool b => "boolean `" ++ toString b ++ "`"
  | .integer n => "integer `" ++ toString n ++ "`"
  | .wide n width => "integer `" ++ toString n ++ "` as " ++ width
  | .float f => "floating point `" ++ Decimal.Layout.display.render f ++ "`"
  | .string s => "string " ++ Text.quoted s
  | .sequence => "sequence"
  | .map => "map"

/-- Why a YAML text does not give the value wanted. -/
inductive Problem where
  /-- The text itself is faulty. -/
  | fault (f : Fault)
  /-- A value is not what was wanted: the message, the path of the value and the place of its
  node. -/
  | refused (message : String) (path : String) (place : Mark)
  | endOfStream
  | moreThanOneDocument
  deriving Inhabited

/-- The message of a problem. -/
def Problem.message : Problem → String
  | .fault f => f.message
  | .refused text path place =>
    (if path == "." then "" else path ++ ": ") ++ text ++
      (if place.isStart then "" else " at " ++ place.text)
  | .endOfStream => "EOF while parsing a value"
  | .moreThanOneDocument => "deserializing from YAML containing more than one document is not supported"

/-- A refusal not yet placed: the message, to be given the path and place of the node it
concerns. -/
inductive Refusal where
  | invalidType (found : Found) (wanted : String)
  | invalidValue (found : Found) (wanted : String)
  | custom (message : String)
  deriving Inhabited

/-- The message of a refusal. -/
def Refusal.message : Refusal → String
  | .invalidType found wanted => "invalid type: " ++ found.text ++ ", expected " ++ wanted
  | .invalidValue found wanted => "invalid value: " ++ found.text ++ ", expected " ++ wanted
  | .custom message => message

/-- A reading error: a problem already placed, or a refusal that the enclosing node places. -/
inductive ReadError where
  | placed (problem : Problem)
  | unplaced (refusal : Refusal)
  deriving Inhabited

/-- Places a refusal at a node's place under a path; a placed problem stays as it is. -/
def ReadError.place (path : String) (mark : Mark) : ReadError → Problem
  | .placed p => p
  | .unplaced r => .refused r.message path mark

/-- A reader of typed values from nodes, under a path. -/
abbrev NodeReader (α : Type) := String → Node → Except Problem α

/-- The full names of the core tags. -/
def coreTag (name : String) : String := "tag:yaml.org,2002:" ++ name

/-- What a scalar is, read for what it spells: the first of null, boolean, 64-bit integer,
wider integer and float that it spells, else text. -/
def plainFound (s : String) : Found :=
  if s.isEmpty || isNull s then .unit
  else match boolOf? s with
  | some b => .bool b
  | none =>
    match integerFound? s with
    | some f => f
    | none =>
      if !digitsButNotNumber s then
        match floatOf? s with
        | some f => .float f
        | none => .string s
      else .string s
where
  /-- An integer in the first width that holds it. -/
  integerFound? (s : String) : Option Found :=
    match unsignedOf? .u64 s with
    | some n => some (.integer n)
    | none =>
      match negativeOf? .i64 s with
      | some n => some (.integer n)
      | none =>
        match unsignedOf? .u128 s with
        | some n => some (.wide n "u128")
        | none => (negativeOf? .i128 s).map fun n => .wide n "i128"

/-- The refusal for a scalar that is not of the wanted kind, found the way a scalar is read for
what it spells, its tag deciding first. -/
def scalarRefusal (text : String) (style : Style) (tag : Option String) (wanted : String) :
    Refusal :=
  match tag with
  | some t =>
    if t == coreTag "bool" then
      match boolOf? text with
      | some b => .invalidType (.bool b) wanted
      | none => .invalidValue (.string text) "a boolean"
    else if t == coreTag "int" then
      match plainFound.integerFound? text with
      | some f => .invalidType f wanted
      | none => .invalidValue (.string text) "an integer"
    else if t == coreTag "float" then
      match floatOf? text with
      | some f => .invalidType (.float f) wanted
      | none => .invalidValue (.string text) "a float"
    else if t == coreTag "null" then
      if isNull text then .invalidType .unit wanted
      else .invalidValue (.string text) "null"
    else if t.startsWith "!" && style == .plain then .invalidType (plainFound text) wanted
    else .invalidType (.string text) wanted
  | none =>
    if style == .plain then .invalidType (plainFound text) wanted
    else .invalidType (.string text) wanted

/-- The problem for a node that is not of the wanted kind, under a path. -/
def mismatch (wanted : String) (path : String) : Node → Problem
  | .scalar text style tag mark => .refused (scalarRefusal text style tag wanted).message path mark
  | .sequence mark _ => .refused (Refusal.invalidType .sequence wanted).message path mark
  | .mapping mark _ => .refused (Refusal.invalidType .map wanted).message path mark
  | .void _ => .endOfStream
  | .broken f => .fault f

/-- Reads any scalar's text. -/
def readText (wanted : String) : NodeReader String
  | _, .scalar text _ _ _ => .ok text
  | path, node => .error (mismatch wanted path node)

/-- Whether a scalar is read as an integer: plain, or a literal block tagged as an integer. -/
def integerScalar (style : Style) (tag : Option String) : Bool :=
  style == .plain || (style == .literal && tag == some (coreTag "int"))

/-- Reads a 64-bit signed integer. -/
def readI64 : NodeReader Int
  | path, node@(.scalar text style tag _) =>
    match (if integerScalar style tag then signedOf? .i64 text else none) with
    | some n => .ok n
    | none => .error (mismatch "i64" path node)
  | path, node => .error (mismatch "i64" path node)

/-- Reads a 64-bit unsigned integer. -/
def readU64 : NodeReader Int
  | path, node@(.scalar text style tag _) =>
    match (if integerScalar style tag then unsignedOf? .u64 text else none) with
    | some n => .ok n
    | none => .error (mismatch "u64" path node)
  | path, node => .error (mismatch "u64" path node)

/-- Reads an optional value: an empty or null plain scalar, or a scalar tagged null, is absent.
A scalar tagged null that does not spell null is refused, to be placed by the enclosing node. -/
def readOption {α : Type} (read : NodeReader α) (path : String) (node : Node) :
    Except ReadError (Option α) :=
  match node with
  | .scalar text style tag _ =>
    if style != .plain then (read path node).map some |>.mapError .placed
    else
      match tag with
      | some t =>
        if t == coreTag "null" then
          if isNull text then .ok none
          else .error (.unplaced (.invalidValue (.string text) "null"))
        else (read path node).map some |>.mapError .placed
      | none =>
        if text.isEmpty || isNull text then .ok none
        else (read path node).map some |>.mapError .placed
  | .void _ => .ok none
  | .broken f => .error (.placed (.fault f))
  | _ => (read path node).map some |>.mapError .placed

/-- The text `one of ...` listing names, as in an unknown field message. -/
def oneOf (names : List String) : String :=
  let quote (n : String) : String := "`" ++ n ++ "`"
  match names with
  | [] => "there are no fields"
  | [a] => quote a
  | [a, b] => quote a ++ " or " ++ quote b
  | _ => "one of " ++ ", ".intercalate (names.map quote)

end ContactMigration.Yaml
