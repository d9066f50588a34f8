import ContactMigration.Migration.Work

/-!
The guard: removing a contact's earlier migration before it is migrated again.

Rows are deleted children first, so that no deletion leaves a row pointing at a deleted one:
relationship restrictions, relationships, address phone links, phones, addresses, emails,
identities, restrictions, employments, and last the contact. A refused deletion is reported as a
failure at its kind.
-/

namespace ContactMigration.Migration

open Store

/-- Deletes a contact and every row that belongs to it; false, with nothing deleted, when the
contact does not exist. -/
def removeExisting (contactId : Int) : Work Bool := do
  if !(← get).hasContact contactId then return false
  Work.change contactId .prisonerContactRestriction (·.deleteRelationshipRestrictionsOf contactId)
  Work.change contactId .prisonerContact (·.deleteRelationshipsOf contactId)
  Work.change contactId .addressPhone (·.deleteAddressPhonesOf contactId)
  Work.change contactId .phone (·.deletePhonesOf contactId)
  Work.change contactId .address (·.deleteAddressesOf contactId)
  Work.change contactId .email (·.deleteEmailsOf contactId)
  Work.change contactId .identity (·.deleteIdentitiesOf contactId)
  Work.change contactId .restriction (·.deleteRestrictionsOf contactId)
  Work.change contactId .employment (·.deleteEmploymentsOf contactId)
  Work.change contactId .contact (·.deleteContact contactId)
  return true

end ContactMigration.Migration
