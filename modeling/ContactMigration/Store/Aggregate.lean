import ContactMigration.Store.Basic
import ContactMigration.Store.Encode

/-!
A contact with every row that belongs to it, as read back from the store.

Each list holds the rows of one table that point at the contact, in the order they were saved,
which is also the order of their ids: a new row's id is above every id its table holds. The
restrictions of a relationship belong to the relationship's contact.
-/

namespace ContactMigration.Store

/-- A contact and its rows. -/
structure Aggregate where
  contact : ContactRow
  phones : List PhoneRow
  addresses : List AddressRow
  addressPhones : List AddressPhoneRow
  emails : List EmailRow
  identities : List IdentityRow
  restrictions : List RestrictionRow
  employments : List EmploymentRow
  relationships : List RelationshipRow
  relationshipRestrictions : List RelationshipRestrictionRow
  deriving DecidableEq, Repr

namespace Tables

/-- The restrictions of a contact's relationships. -/
def relationshipRestrictionsOf (s : Tables) (contactId : Int) : List RelationshipRestrictionRow :=
  let parents := s.relationshipIdsOf contactId
  s.relationshipRestrictions.filter (parents.contains ·.relationshipId)

/-- A contact with its rows; none when the contact does not exist. -/
def aggregate? (s : Tables) (contactId : Int) : Option Aggregate :=
  (s.contact? contactId).map fun contact =>
    { contact
      phones := s.phones.filter (·.contactId == contactId)
      addresses := s.addresses.filter (·.contactId == contactId)
      addressPhones := s.addressPhones.filter (·.contactId == contactId)
      emails := s.emails.filter (·.contactId == contactId)
      identities := s.identities.filter (·.contactId == contactId)
      restrictions := s.restrictions.filter (·.contactId == contactId)
      employments := s.employments.filter (·.contactId == contactId)
      relationships := s.relationships.filter (·.contactId == contactId)
      relationshipRestrictions := s.relationshipRestrictionsOf contactId }

end Tables

/-- An aggregate as JSON. -/
def Aggregate.toJson (a : Aggregate) : Json :=
  .object [
    ("contact", a.contact.toJson),
    ("phones", .array (a.phones.map PhoneRow.toJson)),
    ("addresses", .array (a.addresses.map AddressRow.toJson)),
    ("addressPhones", .array (a.addressPhones.map AddressPhoneRow.toJson)),
    ("emails", .array (a.emails.map EmailRow.toJson)),
    ("identities", .array (a.identities.map IdentityRow.toJson)),
    ("restrictions", .array (a.restrictions.map RestrictionRow.toJson)),
    ("employments", .array (a.employments.map EmploymentRow.toJson)),
    ("relationships", .array (a.relationships.map RelationshipRow.toJson)),
    ("relationshipRestrictions",
      .array (a.relationshipRestrictions.map RelationshipRestrictionRow.toJson))]

end ContactMigration.Store
