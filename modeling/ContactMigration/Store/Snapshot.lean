import ContactMigration.Store.Basic
import ContactMigration.Store.Encode
import ContactMigration.Calendar.Parse

/-!
# Store snapshots

A store written out as one JSON value and read back, for keeping a database in a file. Each
table is a list of its rows in their JSON form, and the id sequences are an object from the
kind's name to the largest id given. Reading a snapshot back gives the store that was written.
-/

namespace ContactMigration.Store

open Json Calendar Record

namespace Snapshot

/-- The integer of a member. -/
def int? (j : Json) (key : String) : Option Int :=
  (j.lookup key).bind Json.asInt?

/-- The text of a member. -/
def text? (j : Json) (key : String) : Option String :=
  (j.lookup key).bind Json.asString?

/-- The truth value of a member. -/
def flag? (j : Json) (key : String) : Option Bool :=
  (j.lookup key).bind Json.asBool?

/-- An optional text member: `null` or absent is none. -/
def maybeText? (j : Json) (key : String) : Option (Option String) :=
  match j.lookup key with
  | none | some .null => some none
  | some (.string s) => some (some s)
  | some _ => none

/-- An optional date member: `null` or absent is none. -/
def maybeDate? (j : Json) (key : String) : Option (Option Date) :=
  match j.lookup key with
  | none | some .null => some none
  | some (.string s) => (Date.parse s).toOption.map some
  | some _ => none

/-- An optional date and time member: absent is none. -/
def maybeDateTime? (j : Json) (key : String) : Option (Option DateTime) :=
  match j.lookup key with
  | none | some .null => some none
  | some (.string s) => (DateTime.parse s).toOption.map some
  | some _ => none

/-- The audit block of a row. -/
def audit? (j : Json) : Option Audit := do
  pure { createUsername := ← maybeText? j "createUsername",
         createDateTime := ← maybeDateTime? j "createDateTime",
         modifyUsername := ← maybeText? j "modifyUsername",
         modifyDateTime := ← maybeDateTime? j "modifyDateTime" }

end Snapshot

open Snapshot

/-- A contact row read back. -/
def ContactRow.ofJson? (j : Json) : Option ContactRow := do
  pure { contactId := ← int? j "contactId", title := ← maybeText? j "title",
         lastName := ← text? j "lastName", firstName := ← text? j "firstName",
         middleName := ← maybeText? j "middleName", dateOfBirth := ← maybeDate? j "dateOfBirth",
         gender := ← maybeText? j "gender", domesticStatus := ← maybeText? j "domesticStatus",
         language := ← maybeText? j "language",
         interpreterRequired := ← flag? j "interpreterRequired", staff := ← flag? j "staff",
         remitter := ← flag? j "remitter", deceased := ← flag? j "deceased",
         deceasedDate := ← maybeDate? j "deceasedDate", audit := ← audit? j }

/-- A phone row read back. -/
def PhoneRow.ofJson? (j : Json) : Option PhoneRow := do
  pure { id := ← int? j "contactPhoneId", contactId := ← int? j "contactId",
         phoneType := ← text? j "phoneType", phoneNumber := ← text? j "phoneNumber",
         extNumber := ← maybeText? j "extNumber", audit := ← audit? j }

/-- An address row read back. -/
def AddressRow.ofJson? (j : Json) : Option AddressRow := do
  pure { id := ← int? j "contactAddressId", contactId := ← int? j "contactId",
         addressType := ← maybeText? j "addressType", primaryAddress := ← flag? j "primaryAddress",
         flat := ← maybeText? j "flat", property := ← maybeText? j "property",
         street := ← maybeText? j "street", area := ← maybeText? j "area",
         city := ← maybeText? j "city", county := ← maybeText? j "county",
         country := ← maybeText? j "country", postcode := ← maybeText? j "postcode",
         verified := ← flag? j "verified", mailFlag := ← flag? j "mailFlag",
         noFixedAddress := ← flag? j "noFixedAddress", startDate := ← maybeDate? j "startDate",
         endDate := ← maybeDate? j "endDate", comments := ← maybeText? j "comments",
         audit := ← audit? j }

/-- An address phone link read back. -/
def AddressPhoneRow.ofJson? (j : Json) : Option AddressPhoneRow := do
  pure { id := ← int? j "contactAddressPhoneId", contactId := ← int? j "contactId",
         addressId := ← int? j "contactAddressId", phoneId := ← int? j "contactPhoneId",
         audit := ← audit? j }

/-- An email row read back. -/
def EmailRow.ofJson? (j : Json) : Option EmailRow := do
  pure { id := ← int? j "contactEmailId", contactId := ← int? j "contactId",
         emailAddress := ← text? j "emailAddress", audit := ← audit? j }

/-- An identity row read back. -/
def IdentityRow.ofJson? (j : Json) : Option IdentityRow := do
  pure { id := ← int? j "contactIdentityId", contactId := ← int? j "contactId",
         identityType := ← text? j "identityType", identity := ← text? j "identity",
         issuingAuthority := ← maybeText? j "issuingAuthority", audit := ← audit? j }

/-- A restriction row read back. -/
def RestrictionRow.ofJson? (j : Json) : Option RestrictionRow := do
  pure { id := ← int? j "contactRestrictionId", contactId := ← int? j "contactId",
         restrictionType := ← text? j "restrictionType", startDate := ← maybeDate? j "startDate",
         expiryDate := ← maybeDate? j "expiryDate", comments := ← maybeText? j "comments",
         staffUsername := ← maybeText? j "staffUsername", audit := ← audit? j }

/-- An employment row read back. -/
def EmploymentRow.ofJson? (j : Json) : Option EmploymentRow := do
  pure { id := ← int? j "employmentId", contactId := ← int? j "contactId",
         organisationId := ← int? j "organisationId", active := ← flag? j "active",
         audit := ← audit? j }

/-- A relationship row read back. -/
def RelationshipRow.ofJson? (j : Json) : Option RelationshipRow := do
  pure { id := ← int? j "prisonerContactId", contactId := ← int? j "contactId",
         prisonerNumber := ← text? j "prisonerNumber", contactType := ← text? j "contactType",
         relationshipType := ← text? j "relationshipType", currentTerm := ← flag? j "currentTerm",
         active := ← flag? j "active", expiryDate := ← maybeDate? j "expiryDate",
         approvedVisitor := ← flag? j "approvedVisitor", nextOfKin := ← flag? j "nextOfKin",
         emergencyContact := ← flag? j "emergencyContact", comments := ← maybeText? j "comments",
         audit := ← audit? j }

/-- A relationship restriction row read back. -/
def RelationshipRestrictionRow.ofJson? (j : Json) : Option RelationshipRestrictionRow := do
  pure { id := ← int? j "prisonerContactRestrictionId",
         relationshipId := ← int? j "prisonerContactId",
         restrictionType := ← text? j "restrictionType", startDate := ← maybeDate? j "startDate",
         expiryDate := ← maybeDate? j "expiryDate", comments := ← maybeText? j "comments",
         staffUsername := ← maybeText? j "staffUsername", audit := ← audit? j }

namespace Tables

/-- The rows of a table member, each read back. -/
def rowsOf? {α : Type} (j : Json) (key : String) (read : Json → Option α) : Option (List α) :=
  match j.lookup key with
  | some (.array items) => items.mapM read
  | _ => none

/-- A store as one JSON value. -/
def toSnapshot (s : Tables) : Json :=
  .object [
    ("contacts", .array (s.contacts.map ContactRow.toJson)),
    ("phones", .array (s.phones.map PhoneRow.toJson)),
    ("addresses", .array (s.addresses.map AddressRow.toJson)),
    ("addressPhones", .array (s.addressPhones.map AddressPhoneRow.toJson)),
    ("emails", .array (s.emails.map EmailRow.toJson)),
    ("identities", .array (s.identities.map IdentityRow.toJson)),
    ("restrictions", .array (s.restrictions.map RestrictionRow.toJson)),
    ("employments", .array (s.employments.map EmploymentRow.toJson)),
    ("relationships", .array (s.relationships.map RelationshipRow.toJson)),
    ("relationshipRestrictions",
      .array (s.relationshipRestrictions.map RelationshipRestrictionRow.toJson)),
    ("sequence", .object (ElementKind.all.filterMap fun k =>
      (s.sequence k).map fun v => (k.name, Json.ofInt v)))]

/-- A store read back from its snapshot. -/
def ofSnapshot? (j : Json) : Option Tables := do
  let sequenceMembers ← (j.lookup "sequence").bind Json.asObject?
  let sequence := fun (k : ElementKind) =>
    (sequenceMembers.find? (·.1 == k.name)).bind fun m => m.2.asInt?
  pure { contacts := ← rowsOf? j "contacts" ContactRow.ofJson?,
         phones := ← rowsOf? j "phones" PhoneRow.ofJson?,
         addresses := ← rowsOf? j "addresses" AddressRow.ofJson?,
         addressPhones := ← rowsOf? j "addressPhones" AddressPhoneRow.ofJson?,
         emails := ← rowsOf? j "emails" EmailRow.ofJson?,
         identities := ← rowsOf? j "identities" IdentityRow.ofJson?,
         restrictions := ← rowsOf? j "restrictions" RestrictionRow.ofJson?,
         employments := ← rowsOf? j "employments" EmploymentRow.ofJson?,
         relationships := ← rowsOf? j "relationships" RelationshipRow.ofJson?,
         relationshipRestrictions :=
           ← rowsOf? j "relationshipRestrictions" RelationshipRestrictionRow.ofJson?,
         sequence }

end Tables

end ContactMigration.Store
