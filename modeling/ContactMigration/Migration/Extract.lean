import ContactMigration.Migration.Work
import ContactMigration.Record.Basic

/-!
Extraction: saving the elements of a record as store rows, each paired with its source id.

Every collection is saved in record order, one row per element, under the contact being
migrated; a refused row is reported as a failure at the element's kind. Two kinds need the new id
of their parent and are saved in a second stage: the phones of an address are saved as a phone
row and a link from the address to it (both reported as address phones), and the restrictions of
a relationship are saved under the relationship's new id. Parents and their sources are paired
in order, so the shorter of the two lists decides how many are saved.
-/

namespace ContactMigration

open Store

/-! ## Rows of record elements -/

/-- The contact row of a record, keyed by the person's id. -/
def ContactRecord.contactRow (r : ContactRecord) : ContactRow where
  contactId := r.personId
  title := r.title
  lastName := r.lastName
  firstName := r.firstName
  middleName := r.middleName
  dateOfBirth := r.dateOfBirth
  gender := r.gender
  domesticStatus := r.domesticStatus
  language := r.language
  interpreterRequired := r.interpreterRequired
  staff := r.staff
  remitter := r.remitter
  deceased := r.deceasedFlag
  deceasedDate := r.deceasedDate
  audit := r.audit

namespace Record

/-- The phone row of a phone number, not yet saved. -/
def Phone.row (p : Phone) (contactId : Int) : PhoneRow :=
  ⟨0, contactId, p.phoneType, p.number, p.extension, p.audit⟩

/-- The address row of an address, not yet saved. -/
def Address.row (a : Address) (contactId : Int) : AddressRow where
  id := 0
  contactId := contactId
  addressType := a.addressType
  primaryAddress := a.primaryAddress
  flat := a.flat
  property := a.premise
  street := a.street
  area := a.locality
  city := a.city
  county := a.county
  country := a.country
  postcode := a.postcode
  verified := a.verified
  mailFlag := a.mailAddress
  noFixedAddress := a.noFixedAddress
  startDate := a.startDate
  endDate := a.endDate
  comments := a.comment
  audit := a.audit

/-- The email row of an email address, not yet saved. -/
def Email.row (e : Email) (contactId : Int) : EmailRow :=
  ⟨0, contactId, e.email, e.audit⟩

/-- The identity row of an identifier, not yet saved. -/
def Identifier.row (i : Identifier) (contactId : Int) : IdentityRow :=
  ⟨0, contactId, i.identityType, i.identifier, i.issuedAuthority, i.audit⟩

/-- The restriction row of a restriction, not yet saved. -/
def Restriction.row (r : Restriction) (contactId : Int) : RestrictionRow :=
  ⟨0, contactId, r.restrictionType, r.effectiveDate, r.expiryDate, r.comment, r.staffUsername,
    r.audit⟩

/-- The employment row of an employment, not yet saved. -/
def Employment.row (e : Employment) (contactId : Int) : EmploymentRow :=
  ⟨0, contactId, e.corporateId, e.active, e.audit⟩

/-- The relationship row of a relationship, not yet saved. -/
def Relationship.row (r : Relationship) (contactId : Int) : RelationshipRow where
  id := 0
  contactId := contactId
  prisonerNumber := r.prisonerNumber
  contactType := r.contactType
  relationshipType := r.relationshipType
  currentTerm := r.currentTerm
  active := r.active
  expiryDate := r.expiryDate
  approvedVisitor := r.approvedVisitor
  nextOfKin := r.nextOfKin
  emergencyContact := r.emergencyContact
  comments := r.comment
  audit := r.audit

/-- The row of a relationship restriction under relationship `relationshipId`, not yet saved. -/
def RelationshipRestriction.row (r : RelationshipRestriction) (relationshipId : Int) :
    RelationshipRestrictionRow :=
  ⟨0, relationshipId, r.restrictionType, r.startDate, r.expiryDate, r.comment, r.staffUsername,
    r.audit⟩

end Record

namespace Migration

open Record

/-- A saved row with the source id it came from. -/
structure Correlated (α : Type) where
  sourceId : Int
  entity : α
  deriving DecidableEq, Repr

/-- The rows saved beneath one parent, in source order. -/
structure Nested (α : Type) where
  parentSourceId : Int
  children : List (Correlated α)
  deriving DecidableEq, Repr

/-- A phone of an address: the phone row and the row linking it to the address. -/
structure AddressPhone where
  phone : PhoneRow
  link : AddressPhoneRow
  deriving DecidableEq, Repr

/-- Everything one migration saved, kind by kind. -/
structure Extracted where
  contact : Correlated ContactRow
  phones : List (Correlated PhoneRow)
  addresses : List (Correlated AddressRow)
  addressPhones : List (Nested AddressPhone)
  emails : List (Correlated EmailRow)
  identities : List (Correlated IdentityRow)
  restrictions : List (Correlated RestrictionRow)
  employments : List (Correlated EmploymentRow)
  relationships : List (Correlated RelationshipRow)
  relationshipRestrictions : List (Nested RelationshipRestrictionRow)
  deriving DecidableEq, Repr

/-- Saves each item as the row `row` makes of it through `save`, in order, pairing each saved row
with the item's source id; a failure is reported at `kind` of contact `contactId`. -/
def extractEach {α β : Type} (contactId : Int) (kind : ElementKind) (save : Port β)
    (sourceId : α → Int) (row : α → β) (items : List α) : Work (List (Correlated β)) :=
  items.mapM fun item => do
    let entity ← Work.attempt contactId kind (save · (row item))
    pure ⟨sourceId item, entity⟩

/-- Saves the contact row of a record; its destination id is the person's id. -/
def extractContact (r : ContactRecord) : Work (Correlated ContactRow) := do
  let entity := r.contactRow
  Work.change r.personId .contact (·.insertContact entity)
  pure ⟨r.personId, entity⟩

/-- Saves phone numbers under a contact. -/
def extractPhones (contactId : Int) : List Phone → Work (List (Correlated PhoneRow)) :=
  extractEach contactId .phone (Port.ofStore Tables.insertPhone) Phone.phoneId (·.row contactId)

/-- Saves addresses under a contact, without their phones. -/
def extractAddresses (contactId : Int) : List Address → Work (List (Correlated AddressRow)) :=
  extractEach contactId .address (Port.ofStore Tables.insertAddress) Address.addressId
    (·.row contactId)

/-- Saves email addresses under a contact. -/
def extractEmails (contactId : Int) : List Email → Work (List (Correlated EmailRow)) :=
  extractEach contactId .email (Port.ofStore Tables.insertEmail) Email.emailAddressId
    (·.row contactId)

/-- Saves identifiers under a contact. -/
def extractIdentities (contactId : Int) :
    List Identifier → Work (List (Correlated IdentityRow)) :=
  extractEach contactId .identity (Port.ofStore Tables.insertIdentity) Identifier.sequence
    (·.row contactId)

/-- Saves restrictions under a contact. -/
def extractRestrictions (contactId : Int) :
    List Restriction → Work (List (Correlated RestrictionRow)) :=
  extractEach contactId .restriction (Port.ofStore Tables.insertRestriction) Restriction.id
    (·.row contactId)

/-- Saves employments under a contact. -/
def extractEmployments (contactId : Int) :
    List Employment → Work (List (Correlated EmploymentRow)) :=
  extractEach contactId .employment (Port.ofStore Tables.insertEmployment) Employment.sequence
    (·.row contactId)

/-- Saves relationships under a contact, without their restrictions. -/
def extractRelationships (contactId : Int) :
    List Relationship → Work (List (Correlated RelationshipRow)) :=
  extractEach contactId .prisonerContact (Port.ofStore Tables.insertRelationship) Relationship.id
    (·.row contactId)

/-- Saves one phone of a saved address: the phone row under the address's contact, then the
link from the address to it; both are reported as address phones. -/
def extractAddressPhone (address : AddressRow) (p : Phone) : Work (Correlated AddressPhone) := do
  let contactId := address.contactId
  let phone ← Work.step contactId .addressPhone (·.insertPhone (p.row contactId))
  let link ← Work.step contactId .addressPhone
    (·.insertAddressPhone ⟨0, contactId, address.id, phone.id, p.audit⟩)
  pure ⟨p.phoneId, ⟨phone, link⟩⟩

/-- Saves the phones of saved addresses, each address paired with its source in order. -/
def extractAddressPhones (addresses : List (Correlated AddressRow)) (sources : List Address) :
    Work (List (Nested AddressPhone)) :=
  (addresses.zip sources).mapM fun (address, source) => do
    let children ← source.phoneNumbers.mapM (extractAddressPhone address.entity)
    pure ⟨address.sourceId, children⟩

/-- Saves the restrictions of saved relationships under their new ids, each relationship paired
with its source in order; a refusal is reported at the relationship's contact. -/
def extractRelationshipRestrictions (relationships : List (Correlated RelationshipRow))
    (sources : List Relationship) : Work (List (Nested RelationshipRestrictionRow)) :=
  (relationships.zip sources).mapM fun (relationship, source) => do
    let parent := relationship.entity
    let children ← extractEach parent.contactId .prisonerContactRestriction
      (Port.ofStore Tables.insertRelationshipRestriction) RelationshipRestriction.id
      (·.row parent.id) source.restrictions
    pure ⟨relationship.sourceId, children⟩

/-- Saves every collection of a record beneath its saved contact, parents before children. -/
def extractChildren (contact : Correlated ContactRow) (r : ContactRecord) : Work Extracted := do
  let contactId := contact.entity.contactId
  let phones ← extractPhones contactId r.phoneNumbers
  let addresses ← extractAddresses contactId r.addresses
  let addressPhones ← extractAddressPhones addresses r.addresses
  let emails ← extractEmails contactId r.emailAddresses
  let identities ← extractIdentities contactId r.identifiers
  let restrictions ← extractRestrictions contactId r.restrictions
  let employments ← extractEmployments contactId r.employments
  let relationships ← extractRelationships contactId r.contacts
  let relationshipRestrictions ← extractRelationshipRestrictions relationships r.contacts
  pure ⟨contact, phones, addresses, addressPhones, emails, identities, restrictions, employments,
    relationships, relationshipRestrictions⟩

end Migration

end ContactMigration
