import ContactMigration.Migration.Extract
import ContactMigration.Record.Encode

/-!
The correlation report of a migration: for every element, its source id and the id it was
saved under.

The report follows the record: the contact (whose new id is its source id), its last name and
date of birth, then each collection in record order. An address carries its phones, reported by
the id of their link rows, and a relationship carries its restrictions. `Report.entries` lists
the report as one sequence, each nested element right after its parent.
-/

namespace ContactMigration.Migration

open Store Calendar

/-- One source id and the id it was saved under. -/
structure IdPair where
  kind : ElementKind
  sourceId : Int
  destinationId : Int
  deriving DecidableEq, Repr

/-- An address with its phones. -/
structure AddressReport where
  address : IdPair
  phones : List IdPair
  deriving DecidableEq, Repr

/-- A relationship with its restrictions. -/
structure RelationshipReport where
  relationship : IdPair
  restrictions : List IdPair
  deriving DecidableEq, Repr

/-- The correlation report of one migrated contact. -/
structure Report where
  contact : IdPair
  lastName : String
  dateOfBirth : Option Date
  phoneNumbers : List IdPair
  addresses : List AddressReport
  emails : List IdPair
  identities : List IdPair
  restrictions : List IdPair
  employments : List IdPair
  relationships : List RelationshipReport
  deriving DecidableEq, Repr

/-- The pairs of saved rows of one kind, `id` giving each row's new id. -/
def pairs {α : Type} (kind : ElementKind) (id : α → Int) (items : List (Correlated α)) :
    List IdPair :=
  items.map fun c => ⟨kind, c.sourceId, id c.entity⟩

/-- The report of what one migration saved. -/
def assemble (e : Extracted) : Report where
  contact := ⟨.contact, e.contact.sourceId, e.contact.entity.contactId⟩
  lastName := e.contact.entity.lastName
  dateOfBirth := e.contact.entity.dateOfBirth
  phoneNumbers := pairs .phone PhoneRow.id e.phones
  addresses :=
    ((pairs .address AddressRow.id e.addresses).zip e.addressPhones).map fun (address, nested) =>
      ⟨address, pairs .addressPhone (fun p => p.link.id) nested.children⟩
  emails := pairs .email EmailRow.id e.emails
  identities := pairs .identity IdentityRow.id e.identities
  restrictions := pairs .restriction RestrictionRow.id e.restrictions
  employments := pairs .employment EmploymentRow.id e.employments
  relationships :=
    ((pairs .prisonerContact RelationshipRow.id e.relationships).zip
        e.relationshipRestrictions).map fun (relationship, nested) =>
      ⟨relationship,
        pairs .prisonerContactRestriction RelationshipRestrictionRow.id nested.children⟩

/-- The whole report as one sequence, each nested element right after its parent. -/
def Report.entries (r : Report) : List IdPair :=
  [r.contact] ++ r.phoneNumbers ++ (r.addresses.flatMap fun a => a.address :: a.phones) ++
    r.emails ++ r.identities ++ r.restrictions ++ r.employments ++
    (r.relationships.flatMap fun rel => rel.relationship :: rel.restrictions)

/-- An id pair as JSON. -/
def IdPair.toJson (p : IdPair) : Json :=
  .object [("elementType", .string p.kind.name), ("sourceId", Json.ofInt p.sourceId),
    ("destinationId", Json.ofInt p.destinationId)]

/-- An id pair as the entry `[kind, source id, destination id]`. -/
def IdPair.toEntry (p : IdPair) : Json :=
  .array [.string p.kind.name, Json.ofInt p.sourceId, Json.ofInt p.destinationId]

/-- A report as JSON; the date of birth is left out when absent. -/
def Report.toJson (r : Report) : Json :=
  .object <|
    [("contact", r.contact.toJson), ("lastName", .string r.lastName)] ++
    Record.dateMember "dateOfBirth" r.dateOfBirth ++
    [("phoneNumbers", .array (r.phoneNumbers.map IdPair.toJson)),
      ("addresses", .array (r.addresses.map fun a =>
        .object [("address", a.address.toJson), ("phones", .array (a.phones.map IdPair.toJson))])),
      ("emails", .array (r.emails.map IdPair.toJson)),
      ("identities", .array (r.identities.map IdPair.toJson)),
      ("restrictions", .array (r.restrictions.map IdPair.toJson)),
      ("employments", .array (r.employments.map IdPair.toJson)),
      ("relationships", .array (r.relationships.map fun rel =>
        .object [("relationship", rel.relationship.toJson),
          ("restrictions", .array (rel.restrictions.map IdPair.toJson))]))]

end ContactMigration.Migration
