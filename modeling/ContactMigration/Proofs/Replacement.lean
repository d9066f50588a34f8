import ContactMigration.Proofs.Agreement

/-!
# Migrating a contact again

A migration of a contact that exists replaces it. It reports the replacement, leaves every other
contact as it was, and ends exactly where removing the contact and then migrating the record
ends. Each table whose ids the store generates gains one row per element of the record
(`ContactRecord.newIds`), so migrating the same record twice in a row leaves one contact whose
aggregate is the first one with every generated id, and every reference to one, moved up by the
number of rows of its table (`Aggregate.shift`).

Main statement: `migration_replaces_contact`.
-/

namespace ContactMigration

open Store Record Migration Work

/-! ## Moving generated ids -/

section Shift

variable {α β : Type}

/-- Row `x` of table `t` with its id moved up by `δ` of the table. -/
def Store.Table.shift (t : Table β) (δ : ElementKind → Int) (x : β) : β :=
  t.withId x (t.id x + δ t.kind)

/-- A link with its id and the ids of the address and phone row it names moved up, each by `δ`
of its own table. -/
def Store.AddressPhoneRow.shift (x : AddressPhoneRow) (δ : ElementKind → Int) : AddressPhoneRow :=
  { x with
    id := x.id + δ .addressPhone
    addressId := x.addressId + δ .address
    phoneId := x.phoneId + δ .phone }

/-- A relationship restriction with its id and its relationship's id moved up. -/
def Store.RelationshipRestrictionRow.shift (x : RelationshipRestrictionRow)
    (δ : ElementKind → Int) : RelationshipRestrictionRow :=
  { x with
    id := x.id + δ .prisonerContactRestriction
    relationshipId := x.relationshipId + δ .prisonerContact }

/-- An aggregate with every generated id, and every reference to one, moved up by `δ` of its
table. The contact keeps its id, which is the person's. -/
def Store.Aggregate.shift (A : Aggregate) (δ : ElementKind → Int) : Aggregate where
  contact := A.contact
  phones := A.phones.map (Table.phones.shift δ)
  addresses := A.addresses.map (Table.addresses.shift δ)
  addressPhones := A.addressPhones.map (·.shift δ)
  emails := A.emails.map (Table.emails.shift δ)
  identities := A.identities.map (Table.identities.shift δ)
  restrictions := A.restrictions.map (Table.restrictions.shift δ)
  employments := A.employments.map (Table.employments.shift δ)
  relationships := A.relationships.map (Table.relationships.shift δ)
  relationshipRestrictions := A.relationshipRestrictions.map (·.shift δ)

variable (t : Table β) {sourceId : α → Int} {row row' : α → β}

/-- Saving from a first id `d` later gives the rows saved before, each changed by `moved`, when
that is what a later id does to one row. -/
theorem Store.Table.saved_moved (moved : β → β) (d : Int)
    (each : ∀ item v, t.withId (row' item) (v + d) = moved (t.withId (row item) v)) :
    ∀ (items : List α) (first : Int), t.saved sourceId row' items (first + d) =
      (t.saved sourceId row items first).map fun c => ⟨c.sourceId, moved c.entity⟩
  | [], _ => rfl
  | item :: items, first => by
    -- the next item goes in one id later in both runs: `first + d + 1 = (first + 1) + d`
    rw [Table.saved, Table.saved, List.map_cons, each, Int.add_right_comm,
      Table.saved_moved moved d each items (first + 1)]

theorem Store.Table.saved_shift (δ : ElementKind → Int) (kind : ElementKind) (numbered : t.kind = kind)
    (items : List α) (first : Int) :
    t.saved sourceId row items (first + δ kind) =
      (t.saved sourceId row items first).map fun c => ⟨c.sourceId, t.shift δ c.entity⟩ := by
  subst numbered
  exact t.saved_moved (t.shift δ) (δ t.kind)
    (fun item v => by rw [Table.shift, t.withId_withId, t.id_withId]) _ _

end Shift

namespace Migration

section Shift

variable (δ : ElementKind → Int)

/-- An address phone with its phone row and link moved up. -/
def shiftAddressPhone (c : Correlated AddressPhone) : Correlated AddressPhone :=
  ⟨c.sourceId, ⟨Table.phones.shift δ c.entity.phone, c.entity.link.shift δ⟩⟩

theorem savedAddressPhones_shift (address : AddressRow) :
    ∀ (numbers : List Phone) (phone link : Int),
      savedAddressPhones (Table.addresses.shift δ address) numbers (phone + δ .phone)
          (link + δ .addressPhone) =
        (savedAddressPhones address numbers phone link).map (shiftAddressPhone δ)
  | [], _, _ => rfl
  | p :: numbers, phone, link => by
    rw [savedAddressPhones, savedAddressPhones, List.map_cons, Int.add_right_comm phone,
      Int.add_right_comm link, savedAddressPhones_shift address numbers (phone + 1) (link + 1)]
    rfl

theorem savedLinks_shift :
    ∀ (pairs : List (Correlated AddressRow × Address)) (phone link : Int),
      savedLinks (pairs.map (Prod.map (fun c => ⟨c.sourceId, Table.addresses.shift δ c.entity⟩) id))
          (phone + δ .phone) (link + δ .addressPhone) =
        (savedLinks pairs phone link).map fun n =>
          ⟨n.parentSourceId, n.children.map (shiftAddressPhone δ)⟩
  | [], _, _ => rfl
  | (address, source) :: pairs, phone, link => by
    rw [List.map_cons, Prod.map_apply, savedLinks, savedLinks, List.map_cons, id,
      savedAddressPhones_shift, Int.add_right_comm phone, Int.add_right_comm link,
      savedLinks_shift pairs]

theorem savedRelationshipRestrictions_shift :
    ∀ (pairs : List (Correlated RelationshipRow × Relationship)) (first : Int),
      savedRelationshipRestrictions
          (pairs.map (Prod.map (fun c => ⟨c.sourceId, Table.relationships.shift δ c.entity⟩) id))
          (first + δ .prisonerContactRestriction) =
        (savedRelationshipRestrictions pairs first).map fun n =>
          ⟨n.parentSourceId, n.children.map fun c => ⟨c.sourceId, c.entity.shift δ⟩⟩
  | [], _ => rfl
  | (relationship, source) :: pairs, first => by
    have each : ∀ (x : RelationshipRestriction) (v : Int),
        Table.relationshipRestrictions.withId (x.row (Table.relationships.shift δ relationship.entity).id)
          (v + δ .prisonerContactRestriction) =
        (Table.relationshipRestrictions.withId (x.row relationship.entity.id) v).shift δ :=
      fun _ _ => rfl
    rw [List.map_cons, Prod.map_apply, savedRelationshipRestrictions,
      savedRelationshipRestrictions, List.map_cons, id,
      Table.relationshipRestrictions.saved_moved (·.shift δ) _ each,
      Int.add_right_comm first, savedRelationshipRestrictions_shift pairs]

end Shift

section Extraction

variable (r : ContactRecord) (last δ : ElementKind → Int)

/-- An extraction numbered from later last ids reads back as the aggregate of the earlier one with
its generated ids moved up by the difference. -/
theorem extraction_shift :
    Aggregate.ofRows r.contactRow (r.extraction fun k => last k + δ k).rows =
      (Aggregate.ofRows r.contactRow (r.extraction last).rows).shift δ := by
  -- each table's rows start `δ` later
  have later : ∀ k, last k + δ k + 1 = last k + 1 + δ k := fun k => Int.add_right_comm _ _ _
  have laterPhones : last .phone + δ .phone + r.phoneNumbers.length + 1 =
      last .phone + r.phoneNumbers.length + 1 + δ .phone := by omega
  simp only [ContactRecord.extraction, later, laterPhones, Table.saved_shift Table.phones δ .phone rfl,
    Table.saved_shift Table.addresses δ .address rfl, Table.saved_shift Table.emails δ .email rfl,
    Table.saved_shift Table.identities δ .identity rfl, Table.saved_shift Table.restrictions δ .restriction rfl,
    Table.saved_shift Table.employments δ .employment rfl, Table.saved_shift Table.relationships δ .prisonerContact rfl,
    List.zip_map_left, savedLinks_shift, savedRelationshipRestrictions_shift]
  simp only [Aggregate.ofRows, Extracted.rows, Aggregate.shift, shiftAddressPhone, List.map_map,
    List.map_append, List.map_flatMap, List.flatMap_map, Function.comp_def]

/-- A migration adds one row per element of the record to each table whose ids the store
generates. -/
theorem length_ids_appendRows_extraction (s : Tables) {k : ElementKind}
    (generated : k ≠ .contact) :
    ((s.appendRows (r.extraction last).rows).ids k).length = (s.ids k).length + r.newIds k := by
  have phoneRows := congrArg List.length (extraction_addressPhone_rows r last)
  have linkRows := congrArg List.length (extraction_addressPhone_owners r last)
  have restrictionRows := congrArg List.length (extraction_relationshipRestriction_rows r last)
  simp only [List.length_map] at phoneRows linkRows restrictionRows
  cases k <;> simp [Tables.ids, Tables.appendRows, Extracted.rows, ContactRecord.newIds,
    phoneRows, linkRows, restrictionRows] at generated ⊢

end Extraction

/-! ## A migration is a removal followed by a migration into the store without the contact -/

theorem removeExisting_of_absent {contactId : Int} {s : Tables}
    (absent : s.hasContact contactId = false) :
    (removeExisting contactId).runOn s = (.ok false, s) := by
  simp [removeExisting, runOn_bind, runOn_get, absent, runOn_pure]

/-- A successful migration from a consistent store removes the contact first and saves the record
into the store without it. -/
theorem migration_steps {r : ContactRecord} {s s' : Tables} {M : Migrated}
    (consistent : s.Consistent) (ran : (migration r).runOn s = (.ok M, s')) :
    ∃ contact s₁ e,
      (removeExisting r.personId).runOn s =
          (.ok (s.hasContact r.personId), s.withoutContact r.personId) ∧
        (extractContact r).runOn (s.withoutContact r.personId) = (.ok contact, s₁) ∧
        (extractChildren contact r).runOn s₁ = (.ok e, s') ∧
        M = ⟨s.hasContact r.personId, assemble e⟩ := by
  obtain ⟨replaced, s₀, guarded, ran⟩ := runOn_bind_eq_ok.mp ran
  obtain ⟨rfl, rfl⟩ := removeExisting_ok_of_consistent consistent guarded
  obtain ⟨contact, s₁, contactRan, ran⟩ := runOn_bind_eq_ok.mp ran
  obtain ⟨e, s₂, childrenRan, ran⟩ := runOn_bind_eq_ok.mp ran
  simp only [runOn_pure, Prod.mk.injEq, Except.ok.injEq] at ran
  obtain ⟨rfl, rfl⟩ := ran
  exact ⟨contact, s₁, e, guarded, contactRan, childrenRan, rfl⟩

/-- Migrating into the store without the contact saves the same rows and reports no
replacement. -/
theorem migration_without_contact {r : ContactRecord} {s s' : Tables} {M : Migrated}
    (consistent : s.Consistent) (ran : (migration r).runOn s = (.ok M, s')) :
    (migration r).runOn (s.withoutContact r.personId) = (.ok ⟨false, M.report⟩, s') := by
  obtain ⟨contact, s₁, e, -, contactRan, childrenRan, rfl⟩ := migration_steps consistent ran
  have absent : (s.withoutContact r.personId).hasContact r.personId = false := by
    simp [Tables.hasContact_withoutContact]
  unfold migration
  rw [runOn_bind_of_ok _ (removeExisting_of_absent absent), runOn_bind_of_ok _ contactRan,
    runOn_bind_of_ok _ childrenRan, runOn_pure]

/-- Removing a contact the guard finds removes what the guard removes. -/
theorem removal_of_found {contactId : Int} {s s' : Tables}
    (guarded : (removeExisting contactId).runOn s = (.ok true, s')) :
    (removal contactId).runOn s = (.ok (), s') := by
  unfold removal
  rw [runOn_bind_of_ok _ guarded]
  rfl

namespace Migrator

/-- A transaction on an unlocked contact whose work succeeds keeps what the work wrote. -/
theorem transact_of_run {α : Type} {m : Migrator} {contactId : Int} {w : Work α} {a : α}
    {s' : Tables} (unlocked : m.isLocked contactId = false) (ran : w.runOn m.store = (.ok a, s')) :
    m.transact contactId w = (.ok a, { m with store := s' }) := by
  rw [transact_eq]
  rw [if_neg (by simp [unlocked]), runOn_atomically_eq_ok.mpr ran]

theorem migrate_of_run {m : Migrator} {r : ContactRecord} {M : Migrated} {s' : Tables}
    (checked : checkIdSpace r m.threshold = .ok ()) (unlocked : m.isLocked r.personId = false)
    (ran : (migration r).runOn m.store = (.ok M, s')) :
    m.migrate r = (.ok M, { m with store := s' }) := by
  simp only [Migrator.migrate, checked]
  exact transact_of_run unlocked ran

end Migrator



/-- A migration raises each table's last id by the rows it adds. -/
theorem lastId_after_migration {r : ContactRecord} {s s' : Tables} {M : Migrated}
    (consistent : s.Consistent) (ran : (migration r).runOn s = (.ok M, s')) :
    s'.lastId = fun k => s.lastId k + r.newIds k := by
  rw [(migration_ok consistent ran).2.1]
  funext k
  simp

/-- A migration from a reachable migrator replaces the contact. It reports whether the contact
existed; it leaves every other contact's aggregate as it was; when the contact existed, it ends
where removing the contact and migrating the record again ends, with the same report except that
nothing is replaced; it adds `newIds k` rows to each table `k` whose ids the store generates; and
a second migration of the same record leaves one contact row whose aggregate is the first one
with every generated id moved up by `newIds` of its table. -/
theorem migration_replaces_contact {m : Migrator} {r : ContactRecord} {M : Migrated}
    (reachable : m.Reachable) (succeeded : (m.migrate r).1 = .ok M) :
    M.replaced = m.store.hasContact r.personId ∧
      (∀ c ≠ r.personId, (m.migrate r).2.store.aggregate? c = m.store.aggregate? c) ∧
      (m.store.hasContact r.personId = true →
        (m.remove r.personId).1 = .ok () ∧
          (m.remove r.personId).2.migrate r = (.ok ⟨false, M.report⟩, (m.migrate r).2)) ∧
      (∀ k ≠ .contact, ((m.migrate r).2.store.ids k).length =
        ((m.store.withoutContact r.personId).ids k).length + r.newIds k) ∧
      (∀ M', ((m.migrate r).2.migrate r).1 = .ok M' →
        ((m.migrate r).2.migrate r).2.store.contacts.countP (·.contactId == r.personId) = 1 ∧
          ∃ A, (m.migrate r).2.store.aggregate? r.personId = some A ∧
            ((m.migrate r).2.migrate r).2.store.aggregate? r.personId =
              some (A.shift fun k => r.newIds k)) := by
  have consistent := reachable.consistent
  obtain ⟨checked, unlocked, ran, after⟩ := Migrator.migrate_of_ok succeeded
  obtain ⟨replaced, stored, -⟩ := migration_ok consistent ran
  obtain ⟨readBack, others⟩ := aggregate?_after_migration consistent ran
  refine ⟨by rw [replaced], others, fun present => ?_, fun k generated => ?_, fun M' again => ?_⟩
  · -- removing first: the guard's run is the removal's, and the migration then finds nothing
    obtain ⟨-, -, -, guarded, -⟩ := migration_steps consistent ran
    rw [present] at guarded
    have removed : m.remove r.personId =
        (.ok (), { m with store := m.store.withoutContact r.personId }) :=
      Migrator.transact_of_run unlocked (removal_of_found guarded)
    have migratedAfter :
        ({ m with store := m.store.withoutContact r.personId } : Migrator).migrate r =
          (.ok ⟨false, M.report⟩, { m with store := (m.migrate r).2.store }) :=
      Migrator.migrate_of_run checked unlocked (migration_without_contact consistent ran)
    rw [removed, migratedAfter, ← after]
    exact ⟨rfl, rfl⟩
  · rw [stored, Tables.ids_raise, length_ids_appendRows_extraction _ _ _ generated]
  · -- the second migration numbers from the last ids the first one raised by `newIds`
    have reachableAgain := reachable.migrate r
    obtain ⟨-, -, ranAgain, -⟩ := Migrator.migrate_of_ok again
    obtain ⟨-, storedAgain, -⟩ := migration_ok reachableAgain.consistent ranAgain
    obtain ⟨readBackAgain, -⟩ := aggregate?_after_migration reachableAgain.consistent ranAgain
    refine ⟨?_, _, readBack, ?_⟩
    · rw [storedAgain]
      simp [Tables.raise, Tables.appendRows, Tables.withoutContact, Extracted.rows,
        ContactRecord.extraction, ContactRecord.contactRow, List.countP_filter]
    · rw [readBackAgain, lastId_after_migration consistent ran, extraction_shift]

/-- Person 7 migrated into a fresh store and then migrated again: the second migration replaces
the first. -/
theorem nested_record_migrated_again_replaces :
    let m := (freshMigrator.migrate nestedRecord).2
    let M : Migrated :=
      ⟨true, assemble (nestedRecord.extraction fun k => 99 + nestedRecord.newIds k)⟩
    M.replaced = m.store.hasContact nestedRecord.personId ∧
      (∀ c ≠ nestedRecord.personId, (m.migrate nestedRecord).2.store.aggregate? c =
        m.store.aggregate? c) ∧
      (m.store.hasContact nestedRecord.personId = true →
        (m.remove nestedRecord.personId).1 = .ok () ∧
          (m.remove nestedRecord.personId).2.migrate nestedRecord =
            (.ok ⟨false, M.report⟩, (m.migrate nestedRecord).2)) ∧
      (∀ k ≠ .contact, ((m.migrate nestedRecord).2.store.ids k).length =
        ((m.store.withoutContact nestedRecord.personId).ids k).length + nestedRecord.newIds k) ∧
      (∀ M', ((m.migrate nestedRecord).2.migrate nestedRecord).1 = .ok M' →
        ((m.migrate nestedRecord).2.migrate nestedRecord).2.store.contacts.countP
            (·.contactId == nestedRecord.personId) = 1 ∧
          ∃ A, (m.migrate nestedRecord).2.store.aggregate? nestedRecord.personId = some A ∧
            ((m.migrate nestedRecord).2.migrate nestedRecord).2.store.aggregate?
                nestedRecord.personId = some (A.shift fun k => nestedRecord.newIds k)) := by
  have fresh : Tables.fresh? 100 = some (({} : Tables).seed 99) := by cbv
  have reachable : (freshMigrator.migrate nestedRecord).2.Reachable :=
    .migrate nestedRecord (.fresh none fresh)
  have again : ((freshMigrator.migrate nestedRecord).2.migrate nestedRecord).1 =
      .ok ⟨true, assemble (nestedRecord.extraction fun k => 99 + nestedRecord.newIds k)⟩ := by
    cbv
  exact migration_replaces_contact reachable again

end Migration

end ContactMigration
