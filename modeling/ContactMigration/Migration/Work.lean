import ContactMigration.Store.Basic

/-!
Work on the store: a computation that reads and writes the store and may fail.

Each write is one statement: it either changes the store or, refused, leaves it as it was. A
failed computation keeps the statements that succeeded before the failure, which is what work
outside a transaction does; `Work.atomically` runs a computation as one transaction, keeping
its writes only when it succeeds.
-/

namespace ContactMigration.Migration

open Store

/-- A computation on the store that may fail with a migration error. -/
abbrev Work := ExceptT MigrationError (StateM Tables)

/-- Where rows are saved: a row comes back carrying the id it was saved under, with the store
after it, or the save fails with an error of the port's own. -/
abbrev Port (β : Type) := Tables → β → Except MigrationError (β × Tables)

/-- The store as a port: a row the store refuses fails with the store's error. -/
def Port.ofStore {β : Type} (insert : Tables → β → Except StoreError (β × Tables)) :
    Port β :=
  fun s row => (insert s row).mapError .store

namespace Work

/-- Runs one statement that may fail with any migration error; a failure is reported as a
failure while saving or deleting an element of `kind` of contact `contactId`, unless it is such a
failure already. -/
def attempt {α : Type} (contactId : Int) (kind : ElementKind)
    (statement : Tables → Except MigrationError (α × Tables)) : Work α := do
  match statement (← get) with
  | .ok (value, store) =>
    set store
    pure value
  | .error e => throw (e.during contactId kind)

/-- Runs one statement of the store; a refusal is the store's error, reported as a failure while
saving or deleting an element of `kind` of contact `contactId`. -/
def step {α : Type} (contactId : Int) (kind : ElementKind)
    (statement : Tables → Except StoreError (α × Tables)) : Work α :=
  attempt contactId kind fun s => (statement s).mapError .store

/-- Runs a statement that gives only the new store. -/
def change (contactId : Int) (kind : ElementKind) (statement : Tables → Except StoreError Tables) :
    Work Unit :=
  step contactId kind fun s => (fun s' => ((), s')) <$> statement s

/-- Runs `work` as one transaction: on failure the store is as it was before. -/
def atomically {α : Type} (work : Work α) : Work α := do
  let before ← get
  let outcome : Except MigrationError α ← (work.run : StateM Tables (Except MigrationError α))
  match outcome with
  | .ok value => pure value
  | .error e =>
    set before
    throw e

/-- Runs `work` on `store`, giving its outcome and the store after it. -/
def runOn {α : Type} (work : Work α) (store : Tables) : Except MigrationError α × Tables :=
  (work.run : StateM Tables _).run store

end Work

end ContactMigration.Migration
