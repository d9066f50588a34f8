import ContactMigration.Proofs.Transaction
import ContactMigration.Proofs.Work

/-!
# All or nothing

A migration or a removal that fails leaves the migrator exactly as it was: the same rows in every
table, the same id sequences, so the same next id for every table, and the same locks. The id
space check and the lock refuse before any work starts; a failure inside the transaction,
whichever of its saves or deletes it strikes, hands back the store the transaction started from,
however much the guard had already deleted by then.

A failure is one of three kinds, told apart by its code: a migration fails with
`source_id_out_of_range`, `migration_in_progress` or `migration_failed`, a removal with
`contact_not_found`, `migration_in_progress` or `migration_failed`. Every failure inside a
transaction comes from one refused statement and is wrapped with the contact and element kind.
-/

namespace ContactMigration

/-- A failure of one statement, wrapped with the contact and the kind of element. -/
def MigrationError.IsWrapped (e : MigrationError) : Prop :=
  e.code = "migration_failed"

theorem MigrationError.isWrapped_during (e : MigrationError) (contactId : Int)
    (kind : ElementKind) : (e.during contactId kind).IsWrapped := by
  cases e <;> rfl

namespace Migration

open Store Work

theorem Raises.change {contactId : Int} {kind : ElementKind}
    {statement : Tables → Except StoreError Tables} :
    Raises MigrationError.IsWrapped (change contactId kind statement) :=
  Raises.step fun cause => MigrationError.isWrapped_during (.store cause) contactId kind

/-! ## Failures inside the transaction -/

theorem removeExisting_raises (contactId : Int) :
    Raises MigrationError.IsWrapped (removeExisting contactId) := by
  unfold removeExisting
  refine Raises.bind Raises.get fun s => ?_
  split
  · exact Raises.pure _
  · -- ten deletions, each wrapping its own refusal
    exact Raises.change.bind fun _ => Raises.change.bind fun _ => Raises.change.bind fun _ =>
      Raises.change.bind fun _ => Raises.change.bind fun _ => Raises.change.bind fun _ =>
      Raises.change.bind fun _ => Raises.change.bind fun _ => Raises.change.bind fun _ =>
      Raises.change.bind fun _ => Raises.pure _

theorem extractEach_raises {α β : Type} (contactId : Int) (kind : ElementKind) (save : Port β)
    (sourceId : α → Int) (row : α → β) (items : List α) :
    Raises MigrationError.IsWrapped (extractEach contactId kind save sourceId row items) :=
  Raises.mapM items fun _ _ =>
    (Raises.attempt fun e => MigrationError.isWrapped_during e _ _).bind fun _ => Raises.pure _

theorem extractAddressPhones_raises (addresses : List (Correlated AddressRow))
    (sources : List Record.Address) :
    Raises MigrationError.IsWrapped (extractAddressPhones addresses sources) := by
  refine Raises.mapM _ fun pair _ => ?_
  refine Raises.bind (Raises.mapM _ fun p _ => ?_) fun _ => Raises.pure _
  -- the phone row, then the link to it
  exact (Raises.step fun cause => MigrationError.isWrapped_during (.store cause) _ _).bind fun _ =>
    (Raises.step fun cause => MigrationError.isWrapped_during (.store cause) _ _).bind fun _ =>
      Raises.pure _

theorem extractRelationshipRestrictions_raises
    (relationships : List (Correlated RelationshipRow)) (sources : List Record.Relationship) :
    Raises MigrationError.IsWrapped (extractRelationshipRestrictions relationships sources) :=
  Raises.mapM _ fun _ _ => (extractEach_raises _ _ _ _ _ _).bind fun _ => Raises.pure _

theorem extractContact_raises (r : ContactRecord) :
    Raises MigrationError.IsWrapped (extractContact r) :=
  Raises.change.bind fun _ => Raises.pure _

theorem extractChildren_raises (contact : Correlated ContactRow) (r : ContactRecord) :
    Raises MigrationError.IsWrapped (extractChildren contact r) :=
  -- the nine stages in their order, the second stages taking their parents' saved rows
  (extractEach_raises _ _ _ _ _ _).bind fun _ => (extractEach_raises _ _ _ _ _ _).bind
    fun addresses => (extractAddressPhones_raises addresses _).bind fun _ =>
    (extractEach_raises _ _ _ _ _ _).bind fun _ => (extractEach_raises _ _ _ _ _ _).bind fun _ =>
    (extractEach_raises _ _ _ _ _ _).bind fun _ => (extractEach_raises _ _ _ _ _ _).bind fun _ =>
    (extractEach_raises _ _ _ _ _ _).bind fun relationships =>
    (extractRelationshipRestrictions_raises relationships _).bind fun _ => Raises.pure _

theorem migration_raises (r : ContactRecord) : Raises MigrationError.IsWrapped (migration r) :=
  (removeExisting_raises _).bind fun _ => (extractContact_raises r).bind fun contact =>
    (extractChildren_raises contact r).bind fun _ => Raises.pure _

theorem removal_raises (contactId : Int) :
    Raises (fun e => e.IsWrapped ∨ e = .contactNotFound contactId) (removal contactId) := by
  unfold removal
  refine Raises.bind (fun s e s' ran => Or.inl (removeExisting_raises contactId ran)) fun found => ?_
  split
  · exact Raises.pure _
  · exact Raises.throw (Or.inr rfl)

/-! ## The migrator after a failure -/

namespace Migrator

/-- A transaction that fails leaves the migrator as it was, and fails either because the contact
is locked or as its work failed. -/
theorem transact_of_error {α : Type} {P : MigrationError → Prop} {m : Migrator}
    {contactId : Int} {w : Work α} {e : MigrationError} (raises : Raises P w)
    (failed : (m.transact contactId w).1 = .error e) :
    (m.transact contactId w).2 = m ∧ (e = .inProgress contactId ∨ P e) := by
  rw [transact_eq] at failed ⊢
  by_cases locked : m.isLocked contactId = true
  · rw [if_pos locked] at failed ⊢
    exact ⟨rfl, .inl (by simpa using failed.symm)⟩
  · rw [if_neg locked] at failed ⊢
    rcases ran : (atomically w).runOn m.store with ⟨_ | _, store⟩ <;>
      simp only [ran, Except.error.injEq, reduceCtorEq] at failed ⊢
    · subst failed
      have restored : store = m.store := runOn_atomically_of_error ran
      exact ⟨by rw [restored], .inr (Raises.atomically raises ran)⟩

end Migrator

/-- A migration or a removal that fails leaves the migrator exactly as it was, and fails with one
of the three codes of its kind of request. -/
theorem failed_request_keeps_migrator (m : Migrator) :
    (∀ r e, (m.migrate r).1 = .error e → (m.migrate r).2 = m ∧
      e.code ∈ ["source_id_out_of_range", "migration_in_progress", "migration_failed"]) ∧
    (∀ contactId e, (m.remove contactId).1 = .error e → (m.remove contactId).2 = m ∧
      e.code ∈ ["contact_not_found", "migration_in_progress", "migration_failed"]) := by
  constructor
  · intro r e failed
    unfold Migrator.migrate at failed ⊢
    split at failed
    · rename_i refusal checked
      simp only [Except.error.injEq] at failed
      subst failed
      -- the id space check only ever refuses with an out-of-range source id
      unfold checkIdSpace at checked
      split at checked <;> simp at checked
      subst checked
      simp [MigrationError.code]
    · rename_i checked
      obtain ⟨kept, cause⟩ := Migrator.transact_of_error (migration_raises r) failed
      refine ⟨kept, ?_⟩
      rcases cause with rfl | wrapped
      · simp [MigrationError.code]
      · simp [MigrationError.IsWrapped] at wrapped
        simp [wrapped]
  · intro contactId e failed
    obtain ⟨kept, cause⟩ := Migrator.transact_of_error (removal_raises contactId) failed
    refine ⟨kept, ?_⟩
    rcases cause with rfl | wrapped | rfl
    · simp [MigrationError.code]
    · simp [MigrationError.IsWrapped] at wrapped
      simp [wrapped]
    · simp [MigrationError.code]

/-- Person 1 with one phone number. -/
def onePhoneRecord : ContactRecord :=
  { (default : ContactRecord) with
    personId := 1, lastName := "Khan", firstName := "Ali"
    phoneNumbers := [{ (default : Record.Phone) with
      phoneId := 10, number := "0114", phoneType := "HOME" }] }

/-- A store whose phone table has given its last id, `2^63 - 1`, to the phone of person 1. -/
def exhaustedMigrator : Migrator :=
  (({ store := ({} : Tables).seed (Json.i64Max - 1), threshold := Json.i64Max } : Migrator).migrate
    onePhoneRecord).2

/-- Migrating person 1 again deletes the earlier aggregate and then fails at the phone, the table
being full; the store comes back with the earlier aggregate in place. -/
theorem remigration_into_full_table_keeps_migrator :
    (exhaustedMigrator.migrate onePhoneRecord).1 = .error (.failed 1 .phone (.store .full)) ∧
      (exhaustedMigrator.migrate onePhoneRecord).2 = exhaustedMigrator :=
  ⟨by cbv, ((failed_request_keeps_migrator exhaustedMigrator).1 onePhoneRecord _ (by cbv)).1⟩

end Migration

end ContactMigration
