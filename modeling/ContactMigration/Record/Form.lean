import ContactMigration.Record.Basic
import ContactMigration.Json.Decode
import ContactMigration.Calendar.Parse

/-!
Record forms: how an object becomes a record whose audit block is written among its own fields.

A `Form` lists a record's named fields in declaration order, each with whether it must be present
and how its value updates a draft of the record. Reading an object goes through its members in
text order: a field named twice is a duplicate (reported at the second key), a field's value is
read at once, and a member of any other name is kept aside as plain JSON. When the object closes,
the first required field that was not given is missing; then the audit block is read from the
members kept aside, in their order, and every other member is ignored. Errors found after the
members are reported at the place after the closing brace.
-/

namespace ContactMigration.Record

open Json Calendar

/-- One named field of a record form. -/
structure Field (α : Type) where
  name : String
  required : Bool
  /-- Reads the field's value and gives the update it makes to a draft. -/
  read : Reader (α → α)

/-- A field that must be given. -/
def Field.needed {α β : Type} (name : String) (reader : Reader β) (set : β → α → α) : Field α :=
  ⟨name, true, fun doc => set <$> reader doc⟩

/-- A field that may be left out; the draft's value then stays. -/
def Field.optional {α β : Type} (name : String) (reader : Reader β) (set : β → α → α) : Field α :=
  ⟨name, false, fun doc => set <$> reader doc⟩

/-- How an object becomes a record of type `α`. -/
structure Form (α : Type) where
  /-- The record's name in type errors ("struct …"). -/
  name : String
  fields : List (Field α)
  /-- The draft that the fields update: every optional field at its default. -/
  blank : α
  setAudit : Audit → α → α

/-- The names of the audit block's fields. -/
def auditNames : List String :=
  ["createUsername", "createDateTime", "modifyUsername", "modifyDateTime"]

/-- Reads an audit user name from a kept member: a string, or `null` for none. -/
def auditUser : Json → Except Problem (Option String)
  | .null => .ok none
  | .string s => .ok (some s)
  | j => .error (.invalidType (Unexpected.ofJson j) .string)

/-- Reads an audit time from a kept member: a date and time string, or `null` for none. -/
def auditTime : Json → Except Problem (Option DateTime)
  | .null => .ok none
  | .string s =>
    match DateTime.parse s with
    | .ok t => .ok (some t)
    | .error e => .error (.refused e.message)
  | j => .error (.invalidType (Unexpected.ofJson j) .dateTime)

/-- The audit block from the members kept aside, in their order; `seen` are the audit fields
already read. -/
def readAudit (audit : Audit) (seen : List String) :
    List (String × Json) → Except Problem Audit
  | [] => .ok audit
  | (key, value) :: rest =>
    if !auditNames.contains key then readAudit audit seen rest
    else if seen.contains key then .error (.duplicateField key)
    else do
      let audit ←
        if key == "createUsername" then
          (fun v => { audit with createUsername := v }) <$> auditUser value
        else if key == "createDateTime" then
          (fun v => { audit with createDateTime := v }) <$> auditTime value
        else if key == "modifyUsername" then
          (fun v => { audit with modifyUsername := v }) <$> auditUser value
        else (fun v => { audit with modifyDateTime := v }) <$> auditTime value
      readAudit audit (key :: seen) rest

namespace Form

variable {α : Type}

/-- The field of a name. -/
def field? (form : Form α) (key : String) : Option (Field α) :=
  form.fields.find? (fun f => f.name == key)

/-- The first required field not among `seen`. -/
def missing? (form : Form α) (seen : List String) : Option (Field α) :=
  form.fields.find? (fun f => f.required && !seen.contains f.name)

/-- Reads the members of an object onto `draft`; `seen` are the fields given so far and `kept`
the other members, latest first. -/
def readMembers (form : Form α) :
    Members → α → List String → List (String × Json) → Except DecodeError α
  | .close stop, draft, seen, kept =>
    match form.missing? seen with
    | some f => .error ⟨.missingField f.name, stop⟩
    | none =>
      match readAudit {} [] kept.reverse with
      | .ok audit => .ok (form.setAudit audit draft)
      | .error problem => .error ⟨problem, stop⟩
  | .broken fault place, _, _, _ => .error ⟨.malformed fault, some place⟩
  | .cons key keyStop value rest, draft, seen, kept =>
    match form.field? key with
    | some f =>
      if seen.contains key then .error ⟨.duplicateField key, keyStop⟩
      else do
        let update ← f.read value
        form.readMembers rest (update draft) (key :: seen) kept
    | none => do
      let j ← value.toValue
      form.readMembers rest draft seen ((key, j) :: kept)

/-- Reads a record of this form from an object. -/
def read (form : Form α) : Reader α
  | .object _ members => form.readMembers members form.blank [] []
  | doc => .error (doc.mismatch (.record form.name))

end Form

/-- Reads an optional date. -/
def readDate : Reader (Option Date) :=
  readOption (readConverted .date fun s => (Date.parse s).mapError ParseError.message)

end ContactMigration.Record
