import ContactMigration.Record.SourceIds
import ContactMigration.MigrationError

/-!
The id space of a migration.

Ids from the system of record lie below the threshold; the store generates ids from the
threshold up, so the two never meet. `checkIdSpace` refuses a record that carries a source id at
or above the threshold, naming the first such id in record order.
-/

namespace ContactMigration

/-- The first source id of the record at or above the threshold, with its kind. -/
def ContactRecord.firstOutside? (r : ContactRecord) (threshold : Int) : Option (ElementKind × Int) :=
  r.sourceIds.find? fun entry => entry.2 ≥ threshold

/-- Accepts a record whose source ids all lie below the threshold. -/
def checkIdSpace (r : ContactRecord) (threshold : Int) : Except MigrationError Unit :=
  match r.firstOutside? threshold with
  | some (kind, id) => .error (.sourceIdOutOfRange kind id threshold)
  | none => .ok ()

end ContactMigration
