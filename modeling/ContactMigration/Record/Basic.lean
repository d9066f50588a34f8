import ContactMigration.Calendar.Date

/-!
Contact records: a person from the system of record with everything that hangs off them.

A `ContactRecord` holds the person's own fields and seven ordered collections: phone numbers,
addresses (each with phone numbers of its own), email addresses, identity documents,
restrictions, employments and relationships to prisoners (each with restrictions of its own).
Every record and item carries the same `Audit` block of who created and modified it, and when.

`ElementKind` names the ten kinds of element that a migration stores and reports.
-/

namespace ContactMigration

open Calendar

/-- The kind of an element of a contact record, as reports and errors name it. -/
inductive ElementKind where
  | contact
  | phone
  | address
  | addressPhone
  | email
  | identity
  | restriction
  | employment
  | prisonerContact
  | prisonerContactRestriction
  deriving DecidableEq, Repr, Inhabited

/-- The name of a kind in reports and messages. -/
def ElementKind.name : ElementKind → String
  | .contact => "CONTACT"
  | .phone => "PHONE"
  | .address => "ADDRESS"
  | .addressPhone => "ADDRESS_PHONE"
  | .email => "EMAIL"
  | .identity => "IDENTITY"
  | .restriction => "RESTRICTION"
  | .employment => "EMPLOYMENT"
  | .prisonerContact => "PRISONER_CONTACT"
  | .prisonerContactRestriction => "PRISONER_CONTACT_RESTRICTION"

/-- Every kind, in the order of a record. -/
def ElementKind.all : List ElementKind :=
  [.contact, .phone, .address, .addressPhone, .email, .identity, .restriction, .employment,
    .prisonerContact, .prisonerContactRestriction]

namespace Record

/-- Who created and last modified an element in the system of record, and when. -/
structure Audit where
  createUsername : Option String := none
  createDateTime : Option DateTime := none
  modifyUsername : Option String := none
  modifyDateTime : Option DateTime := none
  deriving DecidableEq, Repr, Inhabited

/-- A phone number. -/
structure Phone where
  phoneId : Int
  number : String
  extension : Option String
  phoneType : String
  audit : Audit
  deriving DecidableEq, Repr, Inhabited

/-- An address with its own phone numbers. -/
structure Address where
  addressId : Int
  addressType : Option String
  primaryAddress : Bool
  flat : Option String
  premise : Option String
  street : Option String
  locality : Option String
  city : Option String
  county : Option String
  country : Option String
  postcode : Option String
  verified : Bool
  mailAddress : Bool
  noFixedAddress : Bool
  startDate : Option Date
  endDate : Option Date
  comment : Option String
  phoneNumbers : List Phone
  audit : Audit
  deriving DecidableEq, Repr, Inhabited

/-- An email address. -/
structure Email where
  emailAddressId : Int
  email : String
  audit : Audit
  deriving DecidableEq, Repr, Inhabited

/-- An identity document. -/
structure Identifier where
  sequence : Int
  identityType : String
  identifier : String
  issuedAuthority : Option String
  audit : Audit
  deriving DecidableEq, Repr, Inhabited

/-- A restriction on the contact. -/
structure Restriction where
  id : Int
  restrictionType : String
  comment : Option String
  effectiveDate : Option Date
  expiryDate : Option Date
  staffUsername : Option String
  audit : Audit
  deriving DecidableEq, Repr, Inhabited

/-- An employment with an organisation. -/
structure Employment where
  sequence : Int
  corporateId : Int
  active : Bool
  audit : Audit
  deriving DecidableEq, Repr, Inhabited

/-- A restriction on one relationship. -/
structure RelationshipRestriction where
  id : Int
  restrictionType : String
  comment : Option String
  startDate : Option Date
  expiryDate : Option Date
  staffUsername : Option String
  audit : Audit
  deriving DecidableEq, Repr, Inhabited

/-- A relationship to a prisoner, with its own restrictions. -/
structure Relationship where
  id : Int
  contactType : String
  relationshipType : String
  prisonerNumber : String
  currentTerm : Bool
  active : Bool
  expiryDate : Option Date
  approvedVisitor : Bool
  nextOfKin : Bool
  emergencyContact : Bool
  comment : Option String
  restrictions : List RelationshipRestriction
  audit : Audit
  deriving DecidableEq, Repr, Inhabited

end Record

/-- A contact record: the person and everything beneath them. -/
structure ContactRecord where
  personId : Int
  title : Option String
  lastName : String
  firstName : String
  middleName : Option String
  dateOfBirth : Option Calendar.Date
  gender : Option String
  domesticStatus : Option String
  language : Option String
  interpreterRequired : Bool
  staff : Bool
  remitter : Bool
  deceasedFlag : Bool
  deceasedDate : Option Calendar.Date
  audit : Record.Audit
  phoneNumbers : List Record.Phone
  addresses : List Record.Address
  emailAddresses : List Record.Email
  identifiers : List Record.Identifier
  restrictions : List Record.Restriction
  employments : List Record.Employment
  contacts : List Record.Relationship
  deriving DecidableEq, Repr, Inhabited

end ContactMigration
