import ContactMigration.Record.Form

/-!
The forms of a contact record and its items, and reading a record from JSON text or a value.

Identifiers are 64-bit signed integers, texts are strings, flags are booleans that default to
`false`, optional texts and dates are absent when left out or `null`, and collections default to
empty. `ContactRecord.ofText` reads text and then refuses anything but blanks after the record;
`ContactRecord.ofJson` reads a value, whose object members it takes in key order.
-/

namespace ContactMigration

open Json Calendar Record

namespace Record

/-- The form of a phone number. -/
def Phone.form : Form Phone where
  name := "MigratePhoneNumber"
  fields := [
    .needed "phoneId" readI64 fun v r => { r with phoneId := v },
    .needed "number" readString fun v r => { r with number := v },
    .optional "extension" (readOption readString) fun v r => { r with extension := v },
    .needed "type" readString fun v r => { r with phoneType := v }]
  blank := ⟨0, "", none, "", {}⟩
  setAudit a r := { r with audit := a }

/-- The form of an address. -/
def Address.form : Form Address where
  name := "MigrateAddress"
  fields := [
    .needed "addressId" readI64 fun v r => { r with addressId := v },
    .optional "addressType" (readOption readString) fun v r => { r with addressType := v },
    .optional "primaryAddress" readBool fun v r => { r with primaryAddress := v },
    .optional "flat" (readOption readString) fun v r => { r with flat := v },
    .optional "premise" (readOption readString) fun v r => { r with premise := v },
    .optional "street" (readOption readString) fun v r => { r with street := v },
    .optional "locality" (readOption readString) fun v r => { r with locality := v },
    .optional "city" (readOption readString) fun v r => { r with city := v },
    .optional "county" (readOption readString) fun v r => { r with county := v },
    .optional "country" (readOption readString) fun v r => { r with country := v },
    .optional "postcode" (readOption readString) fun v r => { r with postcode := v },
    .optional "verified" readBool fun v r => { r with verified := v },
    .optional "mailAddress" readBool fun v r => { r with mailAddress := v },
    .optional "noFixedAddress" readBool fun v r => { r with noFixedAddress := v },
    .optional "startDate" readDate fun v r => { r with startDate := v },
    .optional "endDate" readDate fun v r => { r with endDate := v },
    .optional "comment" (readOption readString) fun v r => { r with comment := v },
    .optional "phoneNumbers" (readList Phone.form.read) fun v r => { r with phoneNumbers := v }]
  blank := ⟨0, none, false, none, none, none, none, none, none, none, none, false, false, false,
    none, none, none, [], {}⟩
  setAudit a r := { r with audit := a }

/-- The form of an email address. -/
def Email.form : Form Email where
  name := "MigrateEmailAddress"
  fields := [
    .needed "emailAddressId" readI64 fun v r => { r with emailAddressId := v },
    .needed "email" readString fun v r => { r with email := v }]
  blank := ⟨0, "", {}⟩
  setAudit a r := { r with audit := a }

/-- The form of an identity document. -/
def Identifier.form : Form Identifier where
  name := "MigrateIdentifier"
  fields := [
    .needed "sequence" readI64 fun v r => { r with sequence := v },
    .needed "type" readString fun v r => { r with identityType := v },
    .needed "identifier" readString fun v r => { r with identifier := v },
    .optional "issuedAuthority" (readOption readString) fun v r => { r with issuedAuthority := v }]
  blank := ⟨0, "", "", none, {}⟩
  setAudit a r := { r with audit := a }

/-- The form of a restriction. -/
def Restriction.form : Form Restriction where
  name := "MigrateRestriction"
  fields := [
    .needed "id" readI64 fun v r => { r with id := v },
    .needed "type" readString fun v r => { r with restrictionType := v },
    .optional "comment" (readOption readString) fun v r => { r with comment := v },
    .optional "effectiveDate" readDate fun v r => { r with effectiveDate := v },
    .optional "expiryDate" readDate fun v r => { r with expiryDate := v },
    .optional "staffUsername" (readOption readString) fun v r => { r with staffUsername := v }]
  blank := ⟨0, "", none, none, none, none, {}⟩
  setAudit a r := { r with audit := a }

/-- The form of an employment. -/
def Employment.form : Form Employment where
  name := "MigrateEmployment"
  fields := [
    .needed "sequence" readI64 fun v r => { r with sequence := v },
    .needed "corporateId" readI64 fun v r => { r with corporateId := v },
    .optional "active" readBool fun v r => { r with active := v }]
  blank := ⟨0, 0, false, {}⟩
  setAudit a r := { r with audit := a }

/-- The form of a restriction on a relationship. -/
def RelationshipRestriction.form : Form RelationshipRestriction where
  name := "MigrateRelationshipRestriction"
  fields := [
    .needed "id" readI64 fun v r => { r with id := v },
    .needed "type" readString fun v r => { r with restrictionType := v },
    .optional "comment" (readOption readString) fun v r => { r with comment := v },
    .optional "startDate" readDate fun v r => { r with startDate := v },
    .optional "expiryDate" readDate fun v r => { r with expiryDate := v },
    .optional "staffUsername" (readOption readString) fun v r => { r with staffUsername := v }]
  blank := ⟨0, "", none, none, none, none, {}⟩
  setAudit a r := { r with audit := a }

/-- The form of a relationship. -/
def Relationship.form : Form Relationship where
  name := "MigrateRelationship"
  fields := [
    .needed "id" readI64 fun v r => { r with id := v },
    .needed "contactType" readString fun v r => { r with contactType := v },
    .needed "relationshipType" readString fun v r => { r with relationshipType := v },
    .needed "prisonerNumber" readString fun v r => { r with prisonerNumber := v },
    .optional "currentTerm" readBool fun v r => { r with currentTerm := v },
    .optional "active" readBool fun v r => { r with active := v },
    .optional "expiryDate" readDate fun v r => { r with expiryDate := v },
    .optional "approvedVisitor" readBool fun v r => { r with approvedVisitor := v },
    .optional "nextOfKin" readBool fun v r => { r with nextOfKin := v },
    .optional "emergencyContact" readBool fun v r => { r with emergencyContact := v },
    .optional "comment" (readOption readString) fun v r => { r with comment := v },
    .optional "restrictions" (readList RelationshipRestriction.form.read)
      fun v r => { r with restrictions := v }]
  blank := ⟨0, "", "", "", false, false, none, false, false, false, none, [], {}⟩
  setAudit a r := { r with audit := a }

end Record

/-- The form of a contact record. -/
def ContactRecord.form : Form ContactRecord where
  name := "MigrateContactRequest"
  fields := [
    .needed "personId" readI64 fun v r => { r with personId := v },
    .optional "title" (readOption readString) fun v r => { r with title := v },
    .needed "lastName" readString fun v r => { r with lastName := v },
    .needed "firstName" readString fun v r => { r with firstName := v },
    .optional "middleName" (readOption readString) fun v r => { r with middleName := v },
    .optional "dateOfBirth" readDate fun v r => { r with dateOfBirth := v },
    .optional "gender" (readOption readString) fun v r => { r with gender := v },
    .optional "domesticStatus" (readOption readString) fun v r => { r with domesticStatus := v },
    .optional "language" (readOption readString) fun v r => { r with language := v },
    .optional "interpreterRequired" readBool fun v r => { r with interpreterRequired := v },
    .optional "staff" readBool fun v r => { r with staff := v },
    .optional "remitter" readBool fun v r => { r with remitter := v },
    .optional "deceasedFlag" readBool fun v r => { r with deceasedFlag := v },
    .optional "deceasedDate" readDate fun v r => { r with deceasedDate := v },
    .optional "phoneNumbers" (readList Phone.form.read) fun v r => { r with phoneNumbers := v },
    .optional "addresses" (readList Address.form.read) fun v r => { r with addresses := v },
    .optional "emailAddresses" (readList Email.form.read)
      fun v r => { r with emailAddresses := v },
    .optional "identifiers" (readList Identifier.form.read) fun v r => { r with identifiers := v },
    .optional "restrictions" (readList Restriction.form.read)
      fun v r => { r with restrictions := v },
    .optional "employments" (readList Employment.form.read) fun v r => { r with employments := v },
    .optional "contacts" (readList Relationship.form.read) fun v r => { r with contacts := v }]
  blank := ⟨0, none, "", "", none, none, none, none, none, false, false, false, false, none, {},
    [], [], [], [], [], [], []⟩
  setAudit a r := { r with audit := a }

/-- Reads a contact record from a located document. -/
def ContactRecord.read : Reader ContactRecord :=
  ContactRecord.form.read

/-- Reads a contact record from JSON text; only blanks may follow it. -/
def ContactRecord.ofText (text : String) : Except DecodeError ContactRecord :=
  let document := Document.read text
  match ContactRecord.read document.root with
  | .error e => .error e
  | .ok record =>
    match document.trailing with
    | some failure => .error failure.toDecodeError
    | none => .ok record

/-- Reads a contact record from a JSON value. -/
def ContactRecord.ofJson (value : Json) : Except DecodeError ContactRecord :=
  ContactRecord.read (Doc.ofJson value)

/-- Reads a list of records of one form from a JSON value. -/
def Record.Form.listOfJson {α : Type} (form : Form α) (value : Json) :
    Except DecodeError (List α) :=
  readList form.read (Doc.ofJson value)

end ContactMigration
