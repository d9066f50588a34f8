import ContactMigration.Json.Reader
import ContactMigration.Decimal.Layout
import ContactMigration.Text.Quoted

/-!
Reading typed values out of a located document.

Each reader takes a `Doc` and gives a value or a `DecodeError`: a syntax fault met on the way, or
a value of the wrong kind. A wrong scalar is reported at the place after it, a wrong array or
object at its opening bracket, and the message names what was found and what was wanted
("invalid type: null, expected a string"). An integer above the 64-bit signed range is an
invalid value, not an invalid type. Documents read from values carry no places, so their errors
have none either.
-/

namespace ContactMigration.Json

/-- What a reader found instead of the value it wanted. -/
inductive Unexpected where
  | unit
  | bool (value : Bool)
  | integer (value : Int)
  | float (value : Float)
  | string (value : String)
  | sequence
  | map
  deriving Inhabited

/-- The text of what was found. -/
def Unexpected.text : Unexpected → String
  | .unit => "null"
  | .bool true => "boolean `true`"
  | .bool false => "boolean `false`"
  | .integer n => "integer `" ++ toString n ++ "`"
  | .float f => "floating point `" ++ Decimal.Layout.json.render f ++ "`"
  | .string s => "string " ++ Text.quoted s
  | .sequence => "sequence"
  | .map => "map"

/-- What a value of the JSON value `j` is, as a reader reports it. -/
def Unexpected.ofJson : Json → Unexpected
  | .null => .unit
  | .bool b => .bool b
  | .number (.int n) => .integer n
  | .number (.float f) => .float f
  | .string s => .string s
  | .array _ => .sequence
  | .object _ => .map

/-- What a reader wanted. -/
inductive Expected where
  | i64
  | string
  | boolean
  | sequence
  | date
  | dateTime
  | record (name : String)
  deriving Inhabited, DecidableEq

/-- The text of what was wanted. -/
def Expected.text : Expected → String
  | .i64 => "i64"
  | .string => "a string"
  | .boolean => "a boolean"
  | .sequence => "a sequence"
  | .date => "a formatted date string"
  | .dateTime => "a formatted date and time string"
  | .record name => "struct " ++ name

/-- Why a document does not give the value wanted. -/
inductive Problem where
  | malformed (fault : Fault)
  | invalidType (found : Unexpected) (wanted : Expected)
  | invalidValue (found : Unexpected) (wanted : Expected)
  | missingField (name : String)
  | duplicateField (name : String)
  /-- A value of the right kind that its own reader refused, with that reader's message. -/
  | refused (message : String)
  deriving Inhabited

/-- The message of a problem, without place. -/
def Problem.message : Problem → String
  | .malformed fault => fault.message
  | .invalidType found wanted => "invalid type: " ++ found.text ++ ", expected " ++ wanted.text
  | .invalidValue found wanted => "invalid value: " ++ found.text ++ ", expected " ++ wanted.text
  | .missingField name => "missing field `" ++ name ++ "`"
  | .duplicateField name => "duplicate field `" ++ name ++ "`"
  | .refused message => message

/-- A problem with the place it was found, when the document came from text. -/
structure DecodeError where
  problem : Problem
  place : Option Pos
  deriving Inhabited

/-- The message of a decode error, ending with its place when it has one. -/
def DecodeError.message (e : DecodeError) : String :=
  e.problem.message ++ (match e.place with | some p => p.suffix | none => "")

/-- A syntax failure as a decode error. -/
def Failure.toDecodeError (f : Failure) : DecodeError :=
  ⟨.malformed f.fault, some f.place⟩

/-- A reader of typed values from documents. -/
abbrev Reader (α : Type) := Doc → Except DecodeError α

namespace Doc

/-- The error for a document that is not of the kind wanted. -/
def mismatch (wanted : Expected) : Doc → DecodeError
  | .null stop => ⟨.invalidType .unit wanted, stop⟩
  | .bool b stop => ⟨.invalidType (.bool b) wanted, stop⟩
  | .number (.int n) stop => ⟨.invalidType (.integer n) wanted, stop⟩
  | .number (.float f) stop => ⟨.invalidType (.float f) wanted, stop⟩
  | .string s stop => ⟨.invalidType (.string s) wanted, stop⟩
  | .array start _ => ⟨.invalidType .sequence wanted, start⟩
  | .object start _ => ⟨.invalidType .map wanted, start⟩
  | .broken fault place => ⟨.malformed fault, some place⟩

end Doc

/-- The least 64-bit signed integer. -/
def i64Min : Int := -9223372036854775808

/-- The largest 64-bit signed integer. -/
def i64Max : Int := 9223372036854775807

/-- Reads a 64-bit signed integer. -/
def readI64 : Reader Int
  | .number (.int n) stop =>
    if n ≤ i64Max then .ok n else .error ⟨.invalidValue (.integer n) .i64, stop⟩
  | doc => .error (doc.mismatch .i64)

/-- Reads a string. -/
def readString : Reader String
  | .string s _ => .ok s
  | doc => .error (doc.mismatch .string)

/-- Reads a boolean. -/
def readBool : Reader Bool
  | .bool b _ => .ok b
  | doc => .error (doc.mismatch .boolean)

/-- Reads `null` as absent and anything else with `read`. -/
def readOption {α : Type} (read : Reader α) : Reader (Option α)
  | .null _ => .ok none
  | doc => some <$> read doc

/-- Reads a string and converts it with `convert`, whose refusal is reported after the string;
`wanted` names the kind in a type error. -/
def readConverted {α : Type} (wanted : Expected) (convert : String → Except String α) : Reader α
  | .string s stop =>
    match convert s with
    | .ok value => .ok value
    | .error message => .error ⟨.refused message, stop⟩
  | doc => .error (doc.mismatch wanted)

/-- Reads the items of an array with `read`, in order. -/
def readEach {α : Type} (read : Reader α) : Items → Except DecodeError (List α)
  | .close => .ok []
  | .broken fault place => .error ⟨.malformed fault, some place⟩
  | .cons item rest => return (← read item) :: (← readEach read rest)

/-- Reads an array with `read` for each item. -/
def readList {α : Type} (read : Reader α) : Reader (List α)
  | .array _ items => readEach read items
  | doc => .error (doc.mismatch .sequence)

/-- A document's value as plain JSON, a syntax fault as a decode error. -/
def Doc.toValue (doc : Doc) : Except DecodeError Json :=
  doc.toJson.mapError Failure.toDecodeError

end ContactMigration.Json
