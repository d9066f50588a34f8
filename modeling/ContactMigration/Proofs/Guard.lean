import ContactMigration.Migration.Guard
import ContactMigration.Proofs.Work
import ContactMigration.Proofs.Table
import ContactMigration.Store.Aggregate

/-!
# The guard

Before a contact is migrated again, the guard deletes its earlier migration, children before
parents. When it succeeds it has removed exactly the contact and the rows that belong to it
(`Tables.withoutContact`): its rows in the eight tables that name it, and the restrictions of its
relationships. Nothing else changes, the id sequences included, and the store stays consistent.
-/

namespace ContactMigration

namespace Store.Tables

/-- The store without a contact and the rows that belong to it. -/
def withoutContact (s : Tables) (contactId : Int) : Tables :=
  { s with
    contacts := s.contacts.filter (·.contactId != contactId)
    phones := s.phones.filter (·.contactId != contactId)
    addresses := s.addresses.filter (·.contactId != contactId)
    addressPhones := s.addressPhones.filter (·.contactId != contactId)
    emails := s.emails.filter (·.contactId != contactId)
    identities := s.identities.filter (·.contactId != contactId)
    restrictions := s.restrictions.filter (·.contactId != contactId)
    employments := s.employments.filter (·.contactId != contactId)
    relationships := s.relationships.filter (·.contactId != contactId)
    relationshipRestrictions := s.relationshipRestrictions.filter
      (!(s.relationshipIdsOf contactId).contains ·.relationshipId) }

theorem ids_withoutContact_sublist (s : Tables) (contactId : Int) (kind : ElementKind) :
    List.Sublist ((s.withoutContact contactId).ids kind) (s.ids kind) := by
  cases kind <;> exact List.filter_sublist.map _

@[simp]
theorem lastId_withoutContact (s : Tables) (contactId : Int) (kind : ElementKind) :
    (s.withoutContact contactId).lastId kind = s.lastId kind := rfl

/-- Dropping the rows of one contact leaves the rows naming any other contact. -/
theorem any_filter_other {α : Type} (xs : List α) (owner : α → Int) {contactId c : Int}
    (other : c ≠ contactId) :
    (xs.filter (owner · != contactId)).any (owner · == c) = xs.any (owner · == c) := by
  rw [List.any_filter]
  congr 1
  funext row
  by_cases named : owner row = c
  · simp [named, other]
  · simp [named]

theorem hasContact_withoutContact (s : Tables) (contactId c : Int) :
    (s.withoutContact contactId).hasContact c = (s.hasContact c && c != contactId) := by
  by_cases same : c = contactId
  · subst same
    simp [withoutContact, hasContact, List.any_filter]
  · simp [withoutContact, hasContact, any_filter_other _ _ same, same]

/-- No row of the store without a contact names that contact. -/
theorem isReferenced_withoutContact (s : Tables) (contactId c : Int) :
    (s.withoutContact contactId).isReferenced c = (s.isReferenced c && c != contactId) := by
  by_cases same : c = contactId
  · subst same
    simp [withoutContact, isReferenced, List.any_filter]
  · simp [withoutContact, isReferenced, any_filter_other _ _ same, same]

/-- Removing a contact with everything that belongs to it keeps the store consistent. -/
theorem withoutContact_consistent {s : Tables} (contactId : Int) (consistent : s.Consistent) :
    (s.withoutContact contactId).Consistent := by
  refine ⟨⟨fun c referenced => ?_, fun x mem => ?_⟩, fun kind generated => ?_⟩
  · rw [isReferenced_withoutContact, Bool.and_eq_true] at referenced
    rw [hasContact_withoutContact, consistent.referential.1 c referenced.1, referenced.2]
    rfl
  · -- a surviving restriction names a relationship of another contact, which survives too
    simp only [withoutContact, List.mem_filter, Bool.not_eq_true', List.contains_eq_mem,
      decide_eq_false_iff_not] at mem
    obtain ⟨before, notRemoved⟩ := mem
    obtain ⟨parent, kept, named⟩ := List.mem_map.mp (consistent.referential.2 x before)
    refine List.mem_map.mpr ⟨parent, List.mem_filter.mpr ⟨kept, ?_⟩, named⟩
    by_contra owned
    simp only [bne_iff_ne, ne_eq, Decidable.not_not] at owned
    exact notRemoved (List.mem_map.mpr ⟨parent, List.mem_filter.mpr ⟨kept, by simp [owned]⟩, named⟩)
  · obtain ⟨rising, bounded⟩ := consistent.numbered kind generated
    have smaller := ids_withoutContact_sublist s contactId kind
    exact ⟨rising.sublist smaller, fun i mem => by simpa using bounded i (smaller.subset mem)⟩

theorem filter_unowned {α : Type} {xs : List α} {owner : α → Int} {contactId : Int}
    (unowned : xs.any (owner · == contactId) = false) :
    xs.filter (owner · != contactId) = xs :=
  List.filter_eq_self.mpr fun row mem => by
    simpa using List.any_eq_false.mp unowned row mem

theorem unreferenced_of_absent {s : Tables} {contactId : Int} (consistent : s.Consistent)
    (absent : s.hasContact contactId = false) : s.isReferenced contactId = false := by
  cases referenced : s.isReferenced contactId
  · rfl
  · simp [consistent.referential.1 contactId referenced] at absent

/-- In a consistent store a contact that does not exist owns no row, so removing it changes
nothing. -/
theorem withoutContact_of_absent {s : Tables} {contactId : Int} (consistent : s.Consistent)
    (absent : s.hasContact contactId = false) : s.withoutContact contactId = s := by
  have unreferenced := unreferenced_of_absent consistent absent
  simp only [isReferenced, Bool.or_eq_false_iff] at unreferenced
  obtain ⟨⟨⟨⟨⟨⟨⟨phones, addresses⟩, links⟩, emails⟩, identities⟩, restrictions⟩, employments⟩,
    relationships⟩ := unreferenced
  have noParents : s.relationshipIdsOf contactId = [] := by
    simpa [relationshipIdsOf, List.filter_eq_nil_iff] using List.any_eq_false.mp relationships
  simp only [withoutContact, noParents, List.contains_nil, Bool.not_false, List.filter_true]
  rw [filter_unowned absent, filter_unowned phones, filter_unowned addresses, filter_unowned links,
    filter_unowned emails, filter_unowned identities, filter_unowned restrictions,
    filter_unowned employments, filter_unowned relationships]

/-! ## Other contacts are left alone -/

theorem filter_filter_other {α : Type} (xs : List α) (owner : α → Int) {contactId c : Int}
    (other : c ≠ contactId) :
    (xs.filter (owner · != contactId)).filter (owner · == c) = xs.filter (owner · == c) := by
  rw [List.filter_filter]
  congr 1
  funext row
  by_cases named : owner row = c
  · simp [named, other]
  · simp [named]

/-- Two contacts share no relationship id, relationship ids being distinct. -/
theorem relationshipIdsOf_disjoint {s : Tables} {c c' : Int} (distinct : c ≠ c')
    (unique : (s.ids .prisonerContact).Nodup) {id : Int} (mine : id ∈ s.relationshipIdsOf c) :
    id ∉ s.relationshipIdsOf c' := by
  intro theirs
  simp only [relationshipIdsOf, List.mem_map, List.mem_filter, beq_iff_eq] at mine theirs
  obtain ⟨first, ⟨firstKept, firstOwner⟩, rfl⟩ := mine
  obtain ⟨second, ⟨secondKept, secondOwner⟩, sameId⟩ := theirs
  have same : second = first := List.inj_on_of_nodup_map unique secondKept firstKept sameId
  subst same
  exact distinct (firstOwner.symm.trans secondOwner)

theorem unique_relationship_ids {s : Tables} (consistent : s.Consistent) :
    (s.ids .prisonerContact).Nodup :=
  (consistent.numbered .prisonerContact (by decide)).1.imp Int.ne_of_lt

theorem contact?_withoutContact {s : Tables} {contactId c : Int} (other : c ≠ contactId) :
    (s.withoutContact contactId).contact? c = s.contact? c := by
  simp only [contact?, withoutContact, List.find?_filter]
  congr 1
  funext row
  by_cases named : row.contactId = c
  · simp [named, other]
  · simp [named]

theorem relationshipIdsOf_withoutContact {s : Tables} {contactId c : Int} (other : c ≠ contactId) :
    (s.withoutContact contactId).relationshipIdsOf c = s.relationshipIdsOf c := by
  simp only [relationshipIdsOf, withoutContact, filter_filter_other _ _ other]

theorem relationshipRestrictionsOf_withoutContact {s : Tables} {contactId c : Int}
    (other : c ≠ contactId) (consistent : s.Consistent) :
    (s.withoutContact contactId).relationshipRestrictionsOf c = s.relationshipRestrictionsOf c := by
  simp only [relationshipRestrictionsOf, relationshipIdsOf_withoutContact other]
  simp only [withoutContact, List.filter_filter]
  refine List.filter_congr fun x _ => ?_
  -- a restriction of one of `c`'s relationships is none of the removed contact's
  by_cases mine : x.relationshipId ∈ s.relationshipIdsOf c
  · have notTheirs := relationshipIdsOf_disjoint other (unique_relationship_ids consistent) mine
    simp [mine, notTheirs]
  · simp [mine]

/-- Removing a contact leaves the aggregate of every other contact as it was. -/
theorem aggregate?_withoutContact {s : Tables} {contactId c : Int} (other : c ≠ contactId)
    (consistent : s.Consistent) : (s.withoutContact contactId).aggregate? c = s.aggregate? c := by
  rw [aggregate?, aggregate?, contact?_withoutContact other,
    relationshipRestrictionsOf_withoutContact other consistent]
  simp only [withoutContact, filter_filter_other _ _ other]

end Store.Tables

namespace Migration

open Store Work

theorem runOn_change_eq_ok {contactId : Int} {kind : ElementKind}
    {statement : Tables → Except StoreError Tables} {s s' : Tables} {u : Unit} :
    (change contactId kind statement).runOn s = (.ok u, s') ↔ statement s = .ok s' := by
  rw [runOn_change]
  rcases statement s with _ | _ <;> simp

/-- A guard that succeeds reports whether the contact existed and, if it did, removed it with
everything that belongs to it. -/
theorem removeExisting_ok {contactId : Int} {s s' : Tables} {replaced : Bool}
    (ran : (removeExisting contactId).runOn s = (.ok replaced, s')) :
    replaced = s.hasContact contactId ∧
      s' = if s.hasContact contactId then s.withoutContact contactId else s := by
  unfold removeExisting at ran
  rw [runOn_bind, runOn_get] at ran
  by_cases exists' : s.hasContact contactId = true
  · simp only [exists', Bool.not_true, Bool.false_eq_true, if_false] at ran
    simp only [runOn_bind_eq_ok, runOn_change_eq_ok, runOn_pure, Prod.mk.injEq,
      Except.ok.injEq] at ran
    obtain ⟨_, s₁, restrictions, _, s₂, relationships, _, s₃, links, _, s₄, phones, _, s₅,
      addresses, _, s₆, emails, _, s₇, identities, _, s₈, contactRestrictions, _, s₉, employments,
      _, s₁₀, contact, rfl, rfl⟩ := ran
    -- each deletion that succeeded filtered its own table; three of them checked references first
    simp only [Tables.deleteRelationshipRestrictionsOf, Tables.deleteAddressPhonesOf,
      Tables.deleteEmailsOf, Tables.deleteIdentitiesOf, Tables.deleteRestrictionsOf,
      Tables.deleteEmploymentsOf, Except.ok.injEq] at *
    unfold Tables.deleteRelationshipsOf at relationships
    unfold Tables.deletePhonesOf at phones
    unfold Tables.deleteAddressesOf at addresses
    unfold Tables.deleteContact at contact
    dsimp only at relationships phones addresses
    split at relationships <;> simp only [reduceCtorEq, Except.ok.injEq] at relationships
    split at phones <;> simp only [reduceCtorEq, Except.ok.injEq] at phones
    split at addresses <;> simp only [reduceCtorEq, Except.ok.injEq] at addresses
    split at contact <;> simp only [reduceCtorEq, Except.ok.injEq] at contact
    subst restrictions relationships links phones addresses emails identities contactRestrictions
      employments contact
    exact ⟨exists'.symm, by simp [exists', Tables.withoutContact]⟩
  · simp only [exists', Bool.not_false, if_true, runOn_pure, Prod.mk.injEq, Except.ok.injEq] at ran
    simp_all

/-- In a consistent store the guard always leaves the store without the contact, whether or not
it existed. -/
theorem removeExisting_ok_of_consistent {contactId : Int} {s s' : Tables} {replaced : Bool}
    (consistent : s.Consistent) (ran : (removeExisting contactId).runOn s = (.ok replaced, s')) :
    replaced = s.hasContact contactId ∧ s' = s.withoutContact contactId := by
  obtain ⟨rfl, rfl⟩ := removeExisting_ok ran
  refine ⟨rfl, ?_⟩
  cases present : s.hasContact contactId
  · exact (Tables.withoutContact_of_absent consistent present).symm
  · rfl

end Migration

end ContactMigration
