import ContactMigration.Record.Basic
import ContactMigration.Json.Value

/-!
Writing a contact record as JSON.

Fields are written in declaration order under the names the forms read. An absent optional
text or date is left out, flags and collections are always written, dates and times are written
as their ISO 8601 text, and the audit block's fields stand among the record's own fields at the
audit block's place.
-/

namespace ContactMigration

open Calendar

namespace Record

/-- The member `key` when the value is present. -/
def optionalMember {α : Type} (key : String) (write : α → Json) : Option α → List (String × Json)
  | some value => [(key, write value)]
  | none => []

/-- An optional text as members. -/
def textMember (key : String) (value : Option String) : List (String × Json) :=
  optionalMember key Json.string value

/-- An optional date as members. -/
def dateMember (key : String) (value : Option Date) : List (String × Json) :=
  optionalMember key (fun d => Json.string d.text) value

/-- An optional date and time as members. -/
def dateTimeMember (key : String) (value : Option DateTime) : List (String × Json) :=
  optionalMember key (fun t => Json.string t.text) value

/-- The audit block's present fields. -/
def Audit.members (a : Audit) : List (String × Json) :=
  textMember "createUsername" a.createUsername ++
  dateTimeMember "createDateTime" a.createDateTime ++
  textMember "modifyUsername" a.modifyUsername ++
  dateTimeMember "modifyDateTime" a.modifyDateTime

/-- A phone number as JSON. -/
def Phone.toJson (p : Phone) : Json :=
  .object <|
    [("phoneId", Json.ofInt p.phoneId), ("number", .string p.number)] ++
    textMember "extension" p.extension ++
    [("type", .string p.phoneType)] ++ p.audit.members

/-- An address as JSON. -/
def Address.toJson (a : Address) : Json :=
  .object <|
    [("addressId", Json.ofInt a.addressId)] ++
    textMember "addressType" a.addressType ++
    [("primaryAddress", .bool a.primaryAddress)] ++
    textMember "flat" a.flat ++ textMember "premise" a.premise ++
    textMember "street" a.street ++ textMember "locality" a.locality ++
    textMember "city" a.city ++ textMember "county" a.county ++
    textMember "country" a.country ++ textMember "postcode" a.postcode ++
    [("verified", .bool a.verified), ("mailAddress", .bool a.mailAddress),
      ("noFixedAddress", .bool a.noFixedAddress)] ++
    dateMember "startDate" a.startDate ++ dateMember "endDate" a.endDate ++
    textMember "comment" a.comment ++
    [("phoneNumbers", .array (a.phoneNumbers.map Phone.toJson))] ++ a.audit.members

/-- An email address as JSON. -/
def Email.toJson (e : Email) : Json :=
  .object <|
    [("emailAddressId", Json.ofInt e.emailAddressId), ("email", .string e.email)] ++
    e.audit.members

/-- An identity document as JSON. -/
def Identifier.toJson (i : Identifier) : Json :=
  .object <|
    [("sequence", Json.ofInt i.sequence), ("type", .string i.identityType),
      ("identifier", .string i.identifier)] ++
    textMember "issuedAuthority" i.issuedAuthority ++ i.audit.members

/-- A restriction as JSON. -/
def Restriction.toJson (r : Restriction) : Json :=
  .object <|
    [("id", Json.ofInt r.id), ("type", .string r.restrictionType)] ++
    textMember "comment" r.comment ++ dateMember "effectiveDate" r.effectiveDate ++
    dateMember "expiryDate" r.expiryDate ++ textMember "staffUsername" r.staffUsername ++
    r.audit.members

/-- An employment as JSON. -/
def Employment.toJson (e : Employment) : Json :=
  .object <|
    [("sequence", Json.ofInt e.sequence), ("corporateId", Json.ofInt e.corporateId),
      ("active", .bool e.active)] ++ e.audit.members

/-- A restriction on a relationship as JSON. -/
def RelationshipRestriction.toJson (r : RelationshipRestriction) : Json :=
  .object <|
    [("id", Json.ofInt r.id), ("type", .string r.restrictionType)] ++
    textMember "comment" r.comment ++ dateMember "startDate" r.startDate ++
    dateMember "expiryDate" r.expiryDate ++ textMember "staffUsername" r.staffUsername ++
    r.audit.members

/-- A relationship as JSON. -/
def Relationship.toJson (r : Relationship) : Json :=
  .object <|
    [("id", Json.ofInt r.id), ("contactType", .string r.contactType),
      ("relationshipType", .string r.relationshipType),
      ("prisonerNumber", .string r.prisonerNumber), ("currentTerm", .bool r.currentTerm),
      ("active", .bool r.active)] ++
    dateMember "expiryDate" r.expiryDate ++
    [("approvedVisitor", .bool r.approvedVisitor), ("nextOfKin", .bool r.nextOfKin),
      ("emergencyContact", .bool r.emergencyContact)] ++
    textMember "comment" r.comment ++
    [("restrictions", .array (r.restrictions.map RelationshipRestriction.toJson))] ++
    r.audit.members

end Record

open Record in
/-- A contact record as JSON. -/
def ContactRecord.toJson (r : ContactRecord) : Json :=
  .object <|
    [("personId", Json.ofInt r.personId)] ++ textMember "title" r.title ++
    [("lastName", .string r.lastName), ("firstName", .string r.firstName)] ++
    textMember "middleName" r.middleName ++ dateMember "dateOfBirth" r.dateOfBirth ++
    textMember "gender" r.gender ++ textMember "domesticStatus" r.domesticStatus ++
    textMember "language" r.language ++
    [("interpreterRequired", .bool r.interpreterRequired), ("staff", .bool r.staff),
      ("remitter", .bool r.remitter), ("deceasedFlag", .bool r.deceasedFlag)] ++
    dateMember "deceasedDate" r.deceasedDate ++ r.audit.members ++
    [("phoneNumbers", .array (r.phoneNumbers.map Phone.toJson)),
      ("addresses", .array (r.addresses.map Address.toJson)),
      ("emailAddresses", .array (r.emailAddresses.map Email.toJson)),
      ("identifiers", .array (r.identifiers.map Identifier.toJson)),
      ("restrictions", .array (r.restrictions.map Restriction.toJson)),
      ("employments", .array (r.employments.map Employment.toJson)),
      ("contacts", .array (r.contacts.map Relationship.toJson))]

end ContactMigration
