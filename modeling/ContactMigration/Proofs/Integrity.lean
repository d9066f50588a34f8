import ContactMigration.Proofs.Replacement

/-!
# Referential integrity

Every store the migrator reaches keeps its references. Each row of the eight tables owned by
contacts names an existing contact and each relationship restriction an existing relationship
(`Tables.Referential`, part of consistency); each address phone link names an address and a phone
row that exist and belong to the link's own contact (`Tables.LinksOwned`). A migration keeps the
links' references because the rows it saves link only to each other (`extraction_linksOwned`),
and removing a contact takes its links away with its addresses and phone rows.

On such a store the guard, deleting children before parents, finds no remaining row that points
at one it deletes: it never refuses, and it leaves no row of the contact behind
(`removeExisting_run`).

Main statement: `reachable_store_keeps_references`.
-/

namespace ContactMigration

open Store Record Migration Work

namespace Store.Tables

/-- Every address phone link names an address and a phone row that exist and belong to the link's
own contact. -/
def LinksOwned (s : Tables) : Prop :=
  ∀ x ∈ s.addressPhones,
    (∃ a ∈ s.addresses, a.id = x.addressId ∧ a.contactId = x.contactId) ∧
      ∃ p ∈ s.phones, p.id = x.phoneId ∧ p.contactId = x.contactId

variable {s : Tables}

theorem linksOwned_raise (counts : ElementKind → Nat) (owned : s.LinksOwned) :
    (s.raise counts).LinksOwned :=
  owned

theorem linksOwned_withoutContact (contactId : Int) (owned : s.LinksOwned) :
    (s.withoutContact contactId).LinksOwned := by
  intro x mem
  simp only [withoutContact, List.mem_filter, bne_iff_ne, ne_eq] at mem
  obtain ⟨kept, other⟩ := mem
  obtain ⟨⟨a, aMem, aId, aOwner⟩, p, pMem, pId, pOwner⟩ := owned x kept
  -- the link's address and phone row belong to its contact, which is not the removed one
  refine ⟨⟨a, List.mem_filter.mpr ⟨aMem, ?_⟩, aId, aOwner⟩, p, List.mem_filter.mpr ⟨pMem, ?_⟩, pId,
    pOwner⟩ <;> simp [aOwner, pOwner, other]

/-- Rows whose links name rows among themselves, appended to a store whose links name rows of
their own contact, keep every link naming rows of its own contact. -/
theorem linksOwned_appendRows {n : Rows} (owned : s.LinksOwned)
    (newOwned : ∀ x ∈ n.addressPhones,
      (∃ a ∈ n.addresses, a.id = x.addressId ∧ a.contactId = x.contactId) ∧
        ∃ p ∈ n.phones, p.id = x.phoneId ∧ p.contactId = x.contactId) :
    (s.appendRows n).LinksOwned := by
  intro x mem
  simp only [appendRows, List.mem_append] at mem ⊢
  rcases mem with old | new
  · obtain ⟨⟨a, aMem, named⟩, p, pMem, pNamed⟩ := owned x old
    exact ⟨⟨a, .inl aMem, named⟩, p, .inl pMem, pNamed⟩
  · obtain ⟨⟨a, aMem, named⟩, p, pMem, pNamed⟩ := newOwned x new
    exact ⟨⟨a, .inr aMem, named⟩, p, .inr pMem, pNamed⟩

/-- The ids of a table with generated ids are distinct. -/
theorem Consistent.nodup_ids (consistent : s.Consistent) {kind : ElementKind}
    (generated : kind ∈ generatedKinds) : (s.ids kind).Nodup :=
  (consistent.numbered kind generated).1.imp Int.ne_of_lt

variable {x : AddressPhoneRow}

/-- Any address with the id a link names is the link's own, so it belongs to the link's contact. -/
theorem LinksOwned.address_owner (owned : s.LinksOwned) (consistent : s.Consistent)
    (link : x ∈ s.addressPhones) {a : AddressRow} (address : a ∈ s.addresses)
    (named : a.id = x.addressId) : a.contactId = x.contactId := by
  obtain ⟨⟨a', address', named', owner⟩, -⟩ := owned x link
  have same : a = a' := List.inj_on_of_nodup_map
    (consistent.nodup_ids (show ElementKind.address ∈ generatedKinds by decide)) address address' (named.trans named'.symm)
  rw [same, owner]

/-- Any phone row with the id a link names is the link's own, so it belongs to the link's
contact. -/
theorem LinksOwned.phone_owner (owned : s.LinksOwned) (consistent : s.Consistent)
    (link : x ∈ s.addressPhones) {p : PhoneRow} (phone : p ∈ s.phones)
    (named : p.id = x.phoneId) : p.contactId = x.contactId := by
  obtain ⟨-, p', phone', named', owner⟩ := owned x link
  have same : p = p' := List.inj_on_of_nodup_map
    (consistent.nodup_ids (show ElementKind.phone ∈ generatedKinds by decide)) phone phone' (named.trans named'.symm)
  rw [same, owner]

/-! ## The guard's deletions, when nothing points at what they delete -/

variable {contactId : Int}

theorem deleteRelationshipsOf_eq_ok
    (free : ∀ y ∈ s.relationshipRestrictions, y.relationshipId ∉ s.relationshipIdsOf contactId) :
    s.deleteRelationshipsOf contactId =
      .ok { s with relationships := s.relationships.filter (·.contactId != contactId) } := by
  have unnamed : s.relationshipRestrictions.any
      ((s.relationshipIdsOf contactId).contains ·.relationshipId) = false :=
    List.any_eq_false.mpr fun y mem => by simpa using free y mem
  simp only [deleteRelationshipsOf, unnamed, Bool.false_eq_true, if_false]

theorem deletePhonesOf_eq_ok
    (free : ∀ y ∈ s.addressPhones, ∀ p ∈ s.phones, p.contactId = contactId → p.id ≠ y.phoneId) :
    s.deletePhonesOf contactId =
      .ok { s with phones := s.phones.filter (·.contactId != contactId) } := by
  have unnamed : s.addressPhones.any
      (((s.phones.filter (·.contactId == contactId)).map (·.id)).contains ·.phoneId) = false :=
    List.any_eq_false.mpr fun y mem => by
      simp only [List.contains_eq_mem, List.mem_map, List.mem_filter, beq_iff_eq,
        decide_eq_true_eq, not_exists, not_and, and_imp]
      exact fun p phone owner => free y mem p phone owner
  simp only [deletePhonesOf, unnamed, Bool.false_eq_true, if_false]

theorem deleteAddressesOf_eq_ok
    (free : ∀ y ∈ s.addressPhones, ∀ a ∈ s.addresses, a.contactId = contactId → a.id ≠ y.addressId) :
    s.deleteAddressesOf contactId =
      .ok { s with addresses := s.addresses.filter (·.contactId != contactId) } := by
  have unnamed : s.addressPhones.any
      (((s.addresses.filter (·.contactId == contactId)).map (·.id)).contains ·.addressId) = false :=
    List.any_eq_false.mpr fun y mem => by
      simp only [List.contains_eq_mem, List.mem_map, List.mem_filter, beq_iff_eq,
        decide_eq_true_eq, not_exists, not_and, and_imp]
      exact fun a address owner => free y mem a address owner
  simp only [deleteAddressesOf, unnamed, Bool.false_eq_true, if_false]

theorem deleteContact_eq_ok (free : s.isReferenced contactId = false) :
    s.deleteContact contactId =
      .ok { s with contacts := s.contacts.filter (·.contactId != contactId) } := by
  simp only [deleteContact, free, Bool.false_eq_true, if_false]

/-- No link left after the contact's own are gone names one of the contact's addresses. -/
theorem LinksOwned.address_free (owned : s.LinksOwned) (consistent : s.Consistent)
    (contactId : Int) :
    ∀ y ∈ s.addressPhones.filter (·.contactId != contactId), ∀ a ∈ s.addresses,
      a.contactId = contactId → a.id ≠ y.addressId := by
  intro y mem a address owner named
  simp only [List.mem_filter, bne_iff_ne, ne_eq] at mem
  exact mem.2 ((owned.address_owner consistent mem.1 address named).symm.trans owner)

/-- No link left after the contact's own are gone names one of the contact's phone rows. -/
theorem LinksOwned.phone_free (owned : s.LinksOwned) (consistent : s.Consistent)
    (contactId : Int) :
    ∀ y ∈ s.addressPhones.filter (·.contactId != contactId), ∀ p ∈ s.phones,
      p.contactId = contactId → p.id ≠ y.phoneId := by
  intro y mem p phone owner named
  simp only [List.mem_filter, bne_iff_ne, ne_eq] at mem
  exact mem.2 ((owned.phone_owner consistent mem.1 phone named).symm.trans owner)

end Store.Tables

namespace Migration

/-- On a consistent store whose links name rows of their own contact, the guard refuses none of
its deletions: it reports whether the contact existed and removes it with everything that belongs
to it. -/
theorem removeExisting_run {s : Tables} (contactId : Int) (consistent : s.Consistent)
    (owned : s.LinksOwned) :
    (removeExisting contactId).runOn s =
      (.ok (s.hasContact contactId), s.withoutContact contactId) := by
  cases present : s.hasContact contactId
  · rw [Tables.withoutContact_of_absent consistent present]
    exact removeExisting_of_absent present
  unfold removeExisting
  rw [runOn_bind, runOn_get]
  simp only [present, Bool.not_true, Bool.false_eq_true, if_false]
  -- children first: each deletion finds nothing left that points at what it deletes
  simp only [runOn_bind, runOn_change, Tables.deleteRelationshipRestrictionsOf]
  rw [Tables.deleteRelationshipsOf_eq_ok ?restrictions]
  simp only [Tables.deleteAddressPhonesOf]
  rw [Tables.deletePhonesOf_eq_ok (owned.phone_free consistent contactId)]
  dsimp only
  rw [Tables.deleteAddressesOf_eq_ok (owned.address_free consistent contactId)]
  simp only [Tables.deleteEmailsOf, Tables.deleteIdentitiesOf, Tables.deleteRestrictionsOf,
    Tables.deleteEmploymentsOf]
  rw [Tables.deleteContact_eq_ok ?unreferenced]
  · rfl
  case restrictions =>
    -- the store still has every relationship, and no restriction of the contact's
    intro y mem
    have unnamed : y.relationshipId ∉ s.relationshipIdsOf contactId := by
      simpa using (List.mem_filter.mp mem).2
    exact unnamed
  case unreferenced =>
    show (s.withoutContact contactId).isReferenced contactId = false
    simp [Tables.isReferenced_withoutContact]

/-! ## Every reachable store -/

/-- Every link a migration saves names an address and a phone row saved with it, under the link's
own contact. -/
theorem extraction_linksOwned (r : ContactRecord) (last : ElementKind → Int) :
    ∀ x ∈ (r.extraction last).rows.addressPhones,
      (∃ a ∈ (r.extraction last).rows.addresses, a.id = x.addressId ∧ a.contactId = x.contactId) ∧
        ∃ p ∈ (r.extraction last).rows.phones, p.id = x.phoneId ∧ p.contactId = x.contactId := by
  intro x mem
  simp only [Extracted.rows, List.mem_flatMap, List.mem_map] at mem
  obtain ⟨n, nested, child, childMem, rfl⟩ := mem
  -- the link was saved with its phone row, under an address saved just before
  obtain ⟨pair, pairMem, phone, link, children⟩ := mem_savedLinks nested
  have saved : child ∈ savedAddressPhones pair.1.entity pair.2.phoneNumbers phone link :=
    children ▸ childMem
  have linked := linksOf_savedAddressPhones pair.1.entity pair.2.phoneNumbers phone link
  obtain ⟨phoneOwner, linkOwner⟩ := mem_savedAddressPhones saved
  refine ⟨⟨pair.1.entity, ?_, (linked.addressIds child saved).symm, linkOwner.symm⟩,
    child.entity.phone, ?_, (linked.phoneIds child saved).symm, phoneOwner.trans linkOwner.symm⟩
  · exact List.mem_map.mpr ⟨pair.1, (List.of_mem_zip pairMem).1, rfl⟩
  · simp only [Extracted.rows, List.mem_append, List.mem_flatMap, List.mem_map]
    exact .inr ⟨n, nested, child, childMem, rfl⟩

/-- A successful migration from a consistent store whose links name rows of their own contact
leaves such a store. -/
theorem migration_linksOwned {r : ContactRecord} {s s' : Tables} {M : Migrated}
    (consistent : s.Consistent) (owned : s.LinksOwned)
    (ran : (migration r).runOn s = (.ok M, s')) : s'.LinksOwned := by
  rw [(migration_ok consistent ran).2.1]
  exact Tables.linksOwned_raise _ (Tables.linksOwned_appendRows
    (Tables.linksOwned_withoutContact _ owned) (extraction_linksOwned r s.lastId))

theorem fresh_linksOwned {threshold : Int} {s : Tables} (fresh : Tables.fresh? threshold = some s) :
    s.LinksOwned := by
  unfold Tables.fresh? at fresh
  split at fresh
  · simp at fresh
  · simp only [Option.some.injEq] at fresh
    subst fresh
    intro x mem
    simp [Tables.seed] at mem

namespace Migrator

/-- In every reachable store each link names an address and a phone row of its own contact. -/
theorem Reachable.linksOwned {m : Migrator} (reachable : m.Reachable) : m.store.LinksOwned := by
  induction reachable with
  | fresh locks fresh => exact fresh_linksOwned fresh
  | migrate r previous ih =>
    have keeps : Triple (fun s => s.Consistent ∧ s.LinksOwned) (migration r)
        fun _ s => s.Consistent ∧ s.LinksOwned :=
      fun _ _ _ holds ran => ⟨(migration_ok holds.1 ran).2.2, migration_linksOwned holds.1 holds.2 ran⟩
    unfold Migrator.migrate
    split
    · exact ih
    · exact (transact_keeps keeps ⟨previous.consistent, ih⟩).2
  | remove contactId previous ih =>
    have keeps : Triple (fun s => s.Consistent ∧ s.LinksOwned) (removal contactId)
        fun _ s => s.Consistent ∧ s.LinksOwned := by
      intro s u s' holds ran
      rw [(removal_ok holds.1 ran).2]
      exact ⟨Tables.withoutContact_consistent contactId holds.1,
        Tables.linksOwned_withoutContact contactId holds.2⟩
    exact (transact_keeps keeps ⟨previous.consistent, ih⟩).2
  | hold contactId _ held ih => rwa [hold_store held]
  | release contactId _ ih => rwa [release_store]

end Migrator

/-- Every store reachable from a fresh one keeps its references: each row of the eight tables
owned by contacts names an existing contact, each link names an address and a phone row of its
own contact, and each relationship restriction names an existing relationship. On such a store
the guard removes any contact without a refusal and leaves no row of it behind: no row names the
contact, no restriction names one of its relationships, and no link names one of its addresses or
phone rows. -/
theorem reachable_store_keeps_references {m : Migrator} (reachable : m.Reachable) :
    (∀ c, m.store.isReferenced c = true → m.store.hasContact c = true) ∧
      (∀ x ∈ m.store.addressPhones,
        (∃ a ∈ m.store.addresses, a.id = x.addressId ∧ a.contactId = x.contactId) ∧
          ∃ p ∈ m.store.phones, p.id = x.phoneId ∧ p.contactId = x.contactId) ∧
      (∀ x ∈ m.store.relationshipRestrictions,
        ∃ y ∈ m.store.relationships, y.id = x.relationshipId) ∧
      ∀ c, (removeExisting c).runOn m.store =
          (.ok (m.store.hasContact c), m.store.withoutContact c) ∧
        (m.store.withoutContact c).hasContact c = false ∧
        (m.store.withoutContact c).isReferenced c = false ∧
        (∀ x ∈ (m.store.withoutContact c).relationshipRestrictions,
          x.relationshipId ∉ m.store.relationshipIdsOf c) ∧
        ∀ x ∈ (m.store.withoutContact c).addressPhones,
          (∀ a ∈ m.store.addresses, a.contactId = c → a.id ≠ x.addressId) ∧
            ∀ p ∈ m.store.phones, p.contactId = c → p.id ≠ x.phoneId := by
  have consistent := reachable.consistent
  have owned := reachable.linksOwned
  refine ⟨consistent.referential.1, owned, fun x mem => ?_, fun c =>
    ⟨removeExisting_run c consistent owned, ?_, ?_, fun x mem => ?_, fun x mem =>
      ⟨owned.address_free consistent c x mem, owned.phone_free consistent c x mem⟩⟩⟩
  · simpa [Tables.ids] using consistent.referential.2 x mem
  · simp [Tables.hasContact_withoutContact]
  · simp [Tables.isReferenced_withoutContact]
  · simpa using (List.mem_filter.mp mem).2

/-- Person 7 migrated into a fresh store: the store keeps its references, and the guard removes
any contact without a refusal. -/
theorem nested_record_store_keeps_references :
    let s := (freshMigrator.migrate nestedRecord).2.store
    (∀ c, s.isReferenced c = true → s.hasContact c = true) ∧
      (∀ x ∈ s.addressPhones,
        (∃ a ∈ s.addresses, a.id = x.addressId ∧ a.contactId = x.contactId) ∧
          ∃ p ∈ s.phones, p.id = x.phoneId ∧ p.contactId = x.contactId) ∧
      (∀ x ∈ s.relationshipRestrictions, ∃ y ∈ s.relationships, y.id = x.relationshipId) ∧
      ∀ c, (removeExisting c).runOn s = (.ok (s.hasContact c), s.withoutContact c) ∧
        (s.withoutContact c).hasContact c = false ∧
        (s.withoutContact c).isReferenced c = false ∧
        (∀ x ∈ (s.withoutContact c).relationshipRestrictions,
          x.relationshipId ∉ s.relationshipIdsOf c) ∧
        ∀ x ∈ (s.withoutContact c).addressPhones,
          (∀ a ∈ s.addresses, a.contactId = c → a.id ≠ x.addressId) ∧
            ∀ p ∈ s.phones, p.contactId = c → p.id ≠ x.phoneId := by
  have fresh : Tables.fresh? 100 = some (({} : Tables).seed 99) := by cbv
  have reachable : (freshMigrator.migrate nestedRecord).2.Reachable :=
    .migrate nestedRecord (.fresh none fresh)
  exact reachable_store_keeps_references reachable

end Migration

end ContactMigration
