import ContactMigration.Store.Row
import ContactMigration.MigrationError
import ContactMigration.Json.Decode

/-!
The contacts store: ten tables and the id sequences of the nine tables with generated ids.

Rows are kept in the order they were saved. A table with generated ids gives a new row one more
than the larger of its sequence and its largest id (and at least 1), and its sequence moves to
that id; ids are never given twice, as deleting rows leaves the sequence where it is. A table
whose sequence or largest id has reached `2^63 - 1` refuses new rows (`full`).

Every reference must name an existing row, checked when each statement ends: a row is refused
when the contact, address, phone or relationship it points at does not exist, and a deletion is
refused when a remaining row still points at a deleted one. A refused statement changes nothing.
-/

namespace ContactMigration.Store

open Json

/-- The ten tables and the id sequences. -/
structure Tables where
  contacts : List ContactRow := []
  phones : List PhoneRow := []
  addresses : List AddressRow := []
  addressPhones : List AddressPhoneRow := []
  emails : List EmailRow := []
  identities : List IdentityRow := []
  restrictions : List RestrictionRow := []
  employments : List EmploymentRow := []
  relationships : List RelationshipRow := []
  relationshipRestrictions : List RelationshipRestrictionRow := []
  /-- The largest id each table has given, if the table has a sequence entry. -/
  sequence : ElementKind → Option Int := fun _ => none

/-- The tables whose ids the store generates, one per kind but the contact. -/
def generatedKinds : List ElementKind :=
  [.phone, .address, .addressPhone, .email, .identity, .restriction, .employment,
    .prisonerContact, .prisonerContactRestriction]

/-- The id after a table's sequence and its largest id. -/
def nextId (sequence : Option Int) (ids : List Int) : Except StoreError Int :=
  let top := sequence.getD 0
  let largest := ids.max?
  if top ≥ i64Max || largest == some i64Max then .error .full
  else
    let afterRows := match largest with
      | some m => m + 1
      | none => 1
    .ok (max afterRows (top + 1))

namespace Tables

/-- The store with its sequence of `kind` set to `id`. -/
def advance (s : Tables) (kind : ElementKind) (id : Int) : Tables :=
  { s with sequence := fun k => if k = kind then some id else s.sequence k }

/-- Raises every generated table's sequence to at least `floor`, creating missing entries at
`floor`. -/
def seed (s : Tables) (floor : Int) : Tables :=
  { s with
    sequence := fun k =>
      if k ∈ generatedKinds then
        match s.sequence k with
        | some v => some (max v floor)
        | none => some floor
      else s.sequence k }

/-- A new store whose generated ids start at `max threshold 1`; none when `threshold - 1` is below
the 64-bit range. -/
def fresh? (threshold : Int) : Option Tables :=
  if threshold - 1 < i64Min then none else some (({} : Tables).seed (threshold - 1))

/-- Whether a contact exists. -/
def hasContact (s : Tables) (contactId : Int) : Bool :=
  s.contacts.any (·.contactId == contactId)

/-- The contact row of an id. -/
def contact? (s : Tables) (contactId : Int) : Option ContactRow :=
  s.contacts.find? (·.contactId == contactId)

/-! ## Saving rows -/

/-- Saves a contact; its id must be new. -/
def insertContact (s : Tables) (row : ContactRow) : Except StoreError Tables :=
  if s.hasContact row.contactId then .error .duplicateContact
  else .ok { s with contacts := s.contacts ++ [row] }

/-- Saves a phone row under its contact. -/
def insertPhone (s : Tables) (row : PhoneRow) : Except StoreError (PhoneRow × Tables) := do
  let id ← nextId (s.sequence .phone) (s.phones.map (·.id))
  unless s.hasContact row.contactId do throw .foreignKey
  let row := { row with id }
  return (row, { s.advance .phone id with phones := s.phones ++ [row] })

/-- Saves an address under its contact. -/
def insertAddress (s : Tables) (row : AddressRow) : Except StoreError (AddressRow × Tables) := do
  let id ← nextId (s.sequence .address) (s.addresses.map (·.id))
  unless s.hasContact row.contactId do throw .foreignKey
  let row := { row with id }
  return (row, { s.advance .address id with addresses := s.addresses ++ [row] })

/-- Saves a link between an address and a phone row. -/
def insertAddressPhone (s : Tables) (row : AddressPhoneRow) :
    Except StoreError (AddressPhoneRow × Tables) := do
  let id ← nextId (s.sequence .addressPhone) (s.addressPhones.map (·.id))
  unless s.hasContact row.contactId && s.addresses.any (·.id == row.addressId) &&
      s.phones.any (·.id == row.phoneId) do
    throw .foreignKey
  let row := { row with id }
  return (row, { s.advance .addressPhone id with addressPhones := s.addressPhones ++ [row] })

/-- Saves an email address under its contact. -/
def insertEmail (s : Tables) (row : EmailRow) : Except StoreError (EmailRow × Tables) := do
  let id ← nextId (s.sequence .email) (s.emails.map (·.id))
  unless s.hasContact row.contactId do throw .foreignKey
  let row := { row with id }
  return (row, { s.advance .email id with emails := s.emails ++ [row] })

/-- Saves an identity document under its contact. -/
def insertIdentity (s : Tables) (row : IdentityRow) : Except StoreError (IdentityRow × Tables) := do
  let id ← nextId (s.sequence .identity) (s.identities.map (·.id))
  unless s.hasContact row.contactId do throw .foreignKey
  let row := { row with id }
  return (row, { s.advance .identity id with identities := s.identities ++ [row] })

/-- Saves a restriction under its contact. -/
def insertRestriction (s : Tables) (row : RestrictionRow) :
    Except StoreError (RestrictionRow × Tables) := do
  let id ← nextId (s.sequence .restriction) (s.restrictions.map (·.id))
  unless s.hasContact row.contactId do throw .foreignKey
  let row := { row with id }
  return (row, { s.advance .restriction id with restrictions := s.restrictions ++ [row] })

/-- Saves an employment under its contact. -/
def insertEmployment (s : Tables) (row : EmploymentRow) :
    Except StoreError (EmploymentRow × Tables) := do
  let id ← nextId (s.sequence .employment) (s.employments.map (·.id))
  unless s.hasContact row.contactId do throw .foreignKey
  let row := { row with id }
  return (row, { s.advance .employment id with employments := s.employments ++ [row] })

/-- Saves a relationship under its contact. -/
def insertRelationship (s : Tables) (row : RelationshipRow) :
    Except StoreError (RelationshipRow × Tables) := do
  let id ← nextId (s.sequence .prisonerContact) (s.relationships.map (·.id))
  unless s.hasContact row.contactId do throw .foreignKey
  let row := { row with id }
  return (row, { s.advance .prisonerContact id with relationships := s.relationships ++ [row] })

/-- Saves a restriction under its relationship. -/
def insertRelationshipRestriction (s : Tables) (row : RelationshipRestrictionRow) :
    Except StoreError (RelationshipRestrictionRow × Tables) := do
  let id ← nextId (s.sequence .prisonerContactRestriction) (s.relationshipRestrictions.map (·.id))
  unless s.relationships.any (·.id == row.relationshipId) do throw .foreignKey
  let row := { row with id }
  return (row, { s.advance .prisonerContactRestriction id with
    relationshipRestrictions := s.relationshipRestrictions ++ [row] })

/-! ## Deleting a contact's rows -/

/-- The ids of a contact's relationships. -/
def relationshipIdsOf (s : Tables) (contactId : Int) : List Int :=
  (s.relationships.filter (·.contactId == contactId)).map (·.id)

/-- Deletes the restrictions of a contact's relationships. -/
def deleteRelationshipRestrictionsOf (s : Tables) (contactId : Int) : Except StoreError Tables :=
  let parents := s.relationshipIdsOf contactId
  .ok { s with
    relationshipRestrictions := s.relationshipRestrictions.filter (!parents.contains ·.relationshipId) }

/-- Deletes a contact's relationships; refused while a restriction points at one. -/
def deleteRelationshipsOf (s : Tables) (contactId : Int) : Except StoreError Tables :=
  let gone := s.relationshipIdsOf contactId
  if s.relationshipRestrictions.any (gone.contains ·.relationshipId) then .error .foreignKey
  else .ok { s with relationships := s.relationships.filter (·.contactId != contactId) }

/-- Deletes a contact's address phone links. -/
def deleteAddressPhonesOf (s : Tables) (contactId : Int) : Except StoreError Tables :=
  .ok { s with addressPhones := s.addressPhones.filter (·.contactId != contactId) }

/-- Deletes a contact's phone rows; refused while a link points at one. -/
def deletePhonesOf (s : Tables) (contactId : Int) : Except StoreError Tables :=
  let gone := (s.phones.filter (·.contactId == contactId)).map (·.id)
  if s.addressPhones.any (gone.contains ·.phoneId) then .error .foreignKey
  else .ok { s with phones := s.phones.filter (·.contactId != contactId) }

/-- Deletes a contact's addresses; refused while a link points at one. -/
def deleteAddressesOf (s : Tables) (contactId : Int) : Except StoreError Tables :=
  let gone := (s.addresses.filter (·.contactId == contactId)).map (·.id)
  if s.addressPhones.any (gone.contains ·.addressId) then .error .foreignKey
  else .ok { s with addresses := s.addresses.filter (·.contactId != contactId) }

/-- Deletes a contact's email addresses. -/
def deleteEmailsOf (s : Tables) (contactId : Int) : Except StoreError Tables :=
  .ok { s with emails := s.emails.filter (·.contactId != contactId) }

/-- Deletes a contact's identity documents. -/
def deleteIdentitiesOf (s : Tables) (contactId : Int) : Except StoreError Tables :=
  .ok { s with identities := s.identities.filter (·.contactId != contactId) }

/-- Deletes a contact's restrictions. -/
def deleteRestrictionsOf (s : Tables) (contactId : Int) : Except StoreError Tables :=
  .ok { s with restrictions := s.restrictions.filter (·.contactId != contactId) }

/-- Deletes a contact's employments. -/
def deleteEmploymentsOf (s : Tables) (contactId : Int) : Except StoreError Tables :=
  .ok { s with employments := s.employments.filter (·.contactId != contactId) }

/-- Whether any row of the eight contact-owned tables points at the contact. -/
def isReferenced (s : Tables) (contactId : Int) : Bool :=
  s.phones.any (·.contactId == contactId) || s.addresses.any (·.contactId == contactId) ||
    s.addressPhones.any (·.contactId == contactId) || s.emails.any (·.contactId == contactId) ||
    s.identities.any (·.contactId == contactId) || s.restrictions.any (·.contactId == contactId) ||
    s.employments.any (·.contactId == contactId) || s.relationships.any (·.contactId == contactId)

/-- Deletes a contact; refused while a row points at it. -/
def deleteContact (s : Tables) (contactId : Int) : Except StoreError Tables :=
  if s.isReferenced contactId then .error .foreignKey
  else .ok { s with contacts := s.contacts.filter (·.contactId != contactId) }

end Tables

end ContactMigration.Store
