import ContactMigration.Migration.Guard
import ContactMigration.Migration.Report
import ContactMigration.Migration.IdSpace

/-!
Migrating and removing whole contacts.

A migration first checks that the record's source ids lie below the threshold, then takes the
contact's lock, then in one transaction removes the contact's earlier migration and saves the
record: the contact, then its collections. Any failure leaves the store as it was. Removing a
contact takes its lock and deletes it the same way, failing when there is nothing to delete. The
lock a migration or removal takes is always given back when it ends.
-/

namespace ContactMigration.Migration

open Store

/-- The outcome of a migration: whether an earlier one was replaced, and the report. -/
structure Migrated where
  replaced : Bool
  report : Report
  deriving DecidableEq, Repr

/-- Removes an earlier migration of the record's contact and saves the record. -/
def migration (r : ContactRecord) : Work Migrated := do
  let replaced ← removeExisting r.personId
  let contact ← extractContact r
  let extracted ← extractChildren contact r
  pure ⟨replaced, assemble extracted⟩

/-- Removes a contact, failing when it does not exist. -/
def removal (contactId : Int) : Work Unit := do
  unless ← removeExisting contactId do throw (.contactNotFound contactId)

/-- A store with its id threshold and, when migrations take locks, the contacts whose lock some
handle holds. -/
structure Migrator where
  store : Tables
  threshold : Int
  locks : Option (List Int) := none

namespace Migrator

/-- Whether some handle holds the lock of a contact. -/
def isLocked (m : Migrator) (contactId : Int) : Bool :=
  match m.locks with
  | some held => held.contains contactId
  | none => false

/-- Takes the lock of a contact through a new handle; fails when it is held already. -/
def hold (m : Migrator) (contactId : Int) : Except MigrationError Migrator :=
  match m.locks with
  | some held =>
    if held.contains contactId then .error (.inProgress contactId)
    else .ok { m with locks := some (contactId :: held) }
  | none => .ok m

/-- Gives back a lock taken by `hold`; false when it was not held. -/
def release (m : Migrator) (contactId : Int) : Bool × Migrator :=
  match m.locks with
  | some held =>
    if held.contains contactId then (true, { m with locks := some (held.erase contactId) })
    else (false, m)
  | none => (false, m)

/-- Runs `work` as one transaction under the lock of `contactId`. The lock is taken first, and a
held lock refuses the transaction before any work. The transaction keeps the work's writes only
when it succeeds, and the lock is given back however it ends: after the commit, and on the early
return of a failure, when its handle is dropped. -/
def transact {α : Type} (m : Migrator) (contactId : Int) (work : Work α) :
    Except MigrationError α × Migrator :=
  match m.hold contactId with
  | .error e => (.error e, m)
  | .ok locked =>
    let (outcome, store) := (Work.atomically work).runOn locked.store
    (outcome, (({ locked with store } : Migrator).release contactId).2)

/-- Migrates a record. -/
def migrate (m : Migrator) (r : ContactRecord) : Except MigrationError Migrated × Migrator :=
  match checkIdSpace r m.threshold with
  | .error e => (.error e, m)
  | .ok () => m.transact r.personId (migration r)

/-- Removes a migrated contact. -/
def remove (m : Migrator) (contactId : Int) : Except MigrationError Unit × Migrator :=
  m.transact contactId (removal contactId)

end Migrator

end ContactMigration.Migration
