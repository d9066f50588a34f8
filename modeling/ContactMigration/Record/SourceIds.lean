import ContactMigration.Record.Basic

/-!
The source ids of a contact record.

`ContactRecord.sourceIds` lists every id that a record brings from the system of record, with
its kind, in record order: the person, the phone numbers, each address followed by its phone
numbers, the email addresses, the identity documents (by sequence), the restrictions, the
employments (by sequence; the organisation's id is not a source id), and each relationship
followed by its restrictions.
-/

namespace ContactMigration

/-- The source ids of an address and its phone numbers. -/
def Record.Address.sourceIds (a : Record.Address) : List (ElementKind × Int) :=
  (.address, a.addressId) :: a.phoneNumbers.map fun p => (.addressPhone, p.phoneId)

/-- The source ids of a relationship and its restrictions. -/
def Record.Relationship.sourceIds (r : Record.Relationship) : List (ElementKind × Int) :=
  (.prisonerContact, r.id) :: r.restrictions.map fun x => (.prisonerContactRestriction, x.id)

/-- Every source id of a record with its kind, in record order. -/
def ContactRecord.sourceIds (r : ContactRecord) : List (ElementKind × Int) :=
  [(.contact, r.personId)] ++
  r.phoneNumbers.map (fun p => (.phone, p.phoneId)) ++
  r.addresses.flatMap Record.Address.sourceIds ++
  r.emailAddresses.map (fun e => (.email, e.emailAddressId)) ++
  r.identifiers.map (fun i => (.identity, i.sequence)) ++
  r.restrictions.map (fun x => (.restriction, x.id)) ++
  r.employments.map (fun e => (.employment, e.sequence)) ++
  r.contacts.flatMap Record.Relationship.sourceIds

end ContactMigration
