import ContactMigration.Store.Row
import ContactMigration.Record.Encode

/-!
Writing store rows as JSON.

A row is written field by field in declaration order under its column's camelCase name. An
absent optional value is written as `null`, except in the audit block: its fields are written
last and only when present.
-/

namespace ContactMigration.Store

open Calendar Record

/-- An optional text, `null` when absent. -/
def nullableText : Option String → Json
  | some s => .string s
  | none => .null

/-- An optional date, `null` when absent. -/
def nullableDate : Option Date → Json
  | some d => .string d.text
  | none => .null

/-- A contact row as JSON. -/
def ContactRow.toJson (r : ContactRow) : Json :=
  .object <| [
    ("contactId", Json.ofInt r.contactId), ("title", nullableText r.title),
    ("lastName", .string r.lastName), ("firstName", .string r.firstName),
    ("middleName", nullableText r.middleName), ("dateOfBirth", nullableDate r.dateOfBirth),
    ("gender", nullableText r.gender), ("domesticStatus", nullableText r.domesticStatus),
    ("language", nullableText r.language), ("interpreterRequired", .bool r.interpreterRequired),
    ("staff", .bool r.staff), ("remitter", .bool r.remitter), ("deceased", .bool r.deceased),
    ("deceasedDate", nullableDate r.deceasedDate)] ++ r.audit.members

/-- A phone row as JSON. -/
def PhoneRow.toJson (r : PhoneRow) : Json :=
  .object <| [
    ("contactPhoneId", Json.ofInt r.id), ("contactId", Json.ofInt r.contactId),
    ("phoneType", .string r.phoneType), ("phoneNumber", .string r.phoneNumber),
    ("extNumber", nullableText r.extNumber)] ++ r.audit.members

/-- An address row as JSON. -/
def AddressRow.toJson (r : AddressRow) : Json :=
  .object <| [
    ("contactAddressId", Json.ofInt r.id), ("contactId", Json.ofInt r.contactId),
    ("addressType", nullableText r.addressType), ("primaryAddress", .bool r.primaryAddress),
    ("flat", nullableText r.flat), ("property", nullableText r.property),
    ("street", nullableText r.street), ("area", nullableText r.area),
    ("city", nullableText r.city), ("county", nullableText r.county),
    ("country", nullableText r.country), ("postcode", nullableText r.postcode),
    ("verified", .bool r.verified), ("mailFlag", .bool r.mailFlag),
    ("noFixedAddress", .bool r.noFixedAddress), ("startDate", nullableDate r.startDate),
    ("endDate", nullableDate r.endDate), ("comments", nullableText r.comments)] ++
    r.audit.members

/-- An address phone link as JSON. -/
def AddressPhoneRow.toJson (r : AddressPhoneRow) : Json :=
  .object <| [
    ("contactAddressPhoneId", Json.ofInt r.id), ("contactId", Json.ofInt r.contactId),
    ("contactAddressId", Json.ofInt r.addressId), ("contactPhoneId", Json.ofInt r.phoneId)] ++
    r.audit.members

/-- An email row as JSON. -/
def EmailRow.toJson (r : EmailRow) : Json :=
  .object <| [
    ("contactEmailId", Json.ofInt r.id), ("contactId", Json.ofInt r.contactId),
    ("emailAddress", .string r.emailAddress)] ++ r.audit.members

/-- An identity row as JSON. -/
def IdentityRow.toJson (r : IdentityRow) : Json :=
  .object <| [
    ("contactIdentityId", Json.ofInt r.id), ("contactId", Json.ofInt r.contactId),
    ("identityType", .string r.identityType), ("identity", .string r.identity),
    ("issuingAuthority", nullableText r.issuingAuthority)] ++ r.audit.members

/-- A restriction row as JSON. -/
def RestrictionRow.toJson (r : RestrictionRow) : Json :=
  .object <| [
    ("contactRestrictionId", Json.ofInt r.id), ("contactId", Json.ofInt r.contactId),
    ("restrictionType", .string r.restrictionType), ("startDate", nullableDate r.startDate),
    ("expiryDate", nullableDate r.expiryDate), ("comments", nullableText r.comments),
    ("staffUsername", nullableText r.staffUsername)] ++ r.audit.members

/-- An employment row as JSON. -/
def EmploymentRow.toJson (r : EmploymentRow) : Json :=
  .object <| [
    ("employmentId", Json.ofInt r.id), ("contactId", Json.ofInt r.contactId),
    ("organisationId", Json.ofInt r.organisationId), ("active", .bool r.active)] ++
    r.audit.members

/-- A relationship row as JSON. -/
def RelationshipRow.toJson (r : RelationshipRow) : Json :=
  .object <| [
    ("prisonerContactId", Json.ofInt r.id), ("contactId", Json.ofInt r.contactId),
    ("prisonerNumber", .string r.prisonerNumber), ("contactType", .string r.contactType),
    ("relationshipType", .string r.relationshipType), ("currentTerm", .bool r.currentTerm),
    ("active", .bool r.active), ("expiryDate", nullableDate r.expiryDate),
    ("approvedVisitor", .bool r.approvedVisitor), ("nextOfKin", .bool r.nextOfKin),
    ("emergencyContact", .bool r.emergencyContact), ("comments", nullableText r.comments)] ++
    r.audit.members

/-- A relationship restriction row as JSON. -/
def RelationshipRestrictionRow.toJson (r : RelationshipRestrictionRow) : Json :=
  .object <| [
    ("prisonerContactRestrictionId", Json.ofInt r.id),
    ("prisonerContactId", Json.ofInt r.relationshipId),
    ("restrictionType", .string r.restrictionType), ("startDate", nullableDate r.startDate),
    ("expiryDate", nullableDate r.expiryDate), ("comments", nullableText r.comments),
    ("staffUsername", nullableText r.staffUsername)] ++ r.audit.members

end ContactMigration.Store
