import ContactMigration.Record.Basic

/-!
The rows of the contacts store, one structure per table.

A contact row is keyed by the person's source id. Every other row is keyed by an id the store
generates (`0` in a row not yet saved) and points at its contact; an address phone link also
points at an address and a phone row, and a relationship restriction points at its
relationship instead of a contact. Every row keeps the audit block of the element it came from.
-/

namespace ContactMigration.Store

open Calendar Record

/-- A contact. -/
structure ContactRow where
  contactId : Int
  title : Option String
  lastName : String
  firstName : String
  middleName : Option String
  dateOfBirth : Option Date
  gender : Option String
  domesticStatus : Option String
  language : Option String
  interpreterRequired : Bool
  staff : Bool
  remitter : Bool
  deceased : Bool
  deceasedDate : Option Date
  audit : Audit
  deriving DecidableEq, Repr, Inhabited

/-- A phone number of a contact, directly or through an address. -/
structure PhoneRow where
  id : Int
  contactId : Int
  phoneType : String
  phoneNumber : String
  extNumber : Option String
  audit : Audit
  deriving DecidableEq, Repr, Inhabited

/-- An address of a contact. -/
structure AddressRow where
  id : Int
  contactId : Int
  addressType : Option String
  primaryAddress : Bool
  flat : Option String
  property : Option String
  street : Option String
  area : Option String
  city : Option String
  county : Option String
  country : Option String
  postcode : Option String
  verified : Bool
  mailFlag : Bool
  noFixedAddress : Bool
  startDate : Option Date
  endDate : Option Date
  comments : Option String
  audit : Audit
  deriving DecidableEq, Repr, Inhabited

/-- The link between an address and one of its phone rows. -/
structure AddressPhoneRow where
  id : Int
  contactId : Int
  addressId : Int
  phoneId : Int
  audit : Audit
  deriving DecidableEq, Repr, Inhabited

/-- An email address of a contact. -/
structure EmailRow where
  id : Int
  contactId : Int
  emailAddress : String
  audit : Audit
  deriving DecidableEq, Repr, Inhabited

/-- An identity document of a contact. -/
structure IdentityRow where
  id : Int
  contactId : Int
  identityType : String
  identity : String
  issuingAuthority : Option String
  audit : Audit
  deriving DecidableEq, Repr, Inhabited

/-- A restriction on a contact. -/
structure RestrictionRow where
  id : Int
  contactId : Int
  restrictionType : String
  startDate : Option Date
  expiryDate : Option Date
  comments : Option String
  staffUsername : Option String
  audit : Audit
  deriving DecidableEq, Repr, Inhabited

/-- An employment of a contact. -/
structure EmploymentRow where
  id : Int
  contactId : Int
  organisationId : Int
  active : Bool
  audit : Audit
  deriving DecidableEq, Repr, Inhabited

/-- A relationship of a contact to a prisoner. -/
structure RelationshipRow where
  id : Int
  contactId : Int
  prisonerNumber : String
  contactType : String
  relationshipType : String
  currentTerm : Bool
  active : Bool
  expiryDate : Option Date
  approvedVisitor : Bool
  nextOfKin : Bool
  emergencyContact : Bool
  comments : Option String
  audit : Audit
  deriving DecidableEq, Repr, Inhabited

/-- A restriction on a relationship. -/
structure RelationshipRestrictionRow where
  id : Int
  relationshipId : Int
  restrictionType : String
  startDate : Option Date
  expiryDate : Option Date
  comments : Option String
  staffUsername : Option String
  audit : Audit
  deriving DecidableEq, Repr, Inhabited

end ContactMigration.Store
