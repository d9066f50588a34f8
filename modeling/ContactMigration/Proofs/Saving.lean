import ContactMigration.Proofs.Transaction
import ContactMigration.Proofs.Guard

/-!
# What a migration saves

In a consistent store every new row gets its table's last id plus one, so the rows a migration
saves are numbered consecutively from each table's last id, in the order the extraction saves
them. `ContactRecord.extraction r last` is what a migration of `r` saves when the tables' last
ids are `last`, and `ContactRecord.newIds r` is how many ids it takes from each table.

Main statement: `migration_ok`. A successful migration from a consistent store reports whether
the contact existed and the extraction; it leaves the store without the contact's earlier rows,
with the extraction's rows appended and each sequence raised by its count, and still consistent.
-/

namespace ContactMigration

open Store Record Migration

/-- The rows `items` become when saved into `t` one after another, the first with id `first`. -/
def Store.Table.saved {α β : Type} (t : Table β) (sourceId : α → Int) (row : α → β) :
    List α → Int → List (Correlated β)
  | [], _ => []
  | item :: items, first =>
    ⟨sourceId item, t.withId (row item) first⟩ :: t.saved sourceId row items (first + 1)

theorem Store.Table.length_saved {α β : Type} (t : Table β) (sourceId : α → Int) (row : α → β) :
    ∀ (items : List α) (first : Int), (t.saved sourceId row items first).length = items.length
  | [], _ => rfl
  | _ :: items, first => by simp [Table.saved, Table.length_saved t sourceId row items]

/-- Saved rows paired back with their items, in order, give each item once. -/
theorem Store.Table.flatMap_zip_saved {α β γ : Type} (t : Table β) (sourceId : α → Int)
    (row : α → β) (f : α → List γ) :
    ∀ (items : List α) (first : Int),
      ((t.saved sourceId row items first).zip items).flatMap (f ·.2) = items.flatMap f
  | [], _ => rfl
  | _ :: items, first => by
    simp [Table.saved, Table.flatMap_zip_saved t sourceId row f items]

namespace Migration

/-- The phones of a saved address saved from phone id `phone` and link id `link` on. -/
def savedAddressPhones (address : AddressRow) :
    List Phone → Int → Int → List (Correlated AddressPhone)
  | [], _, _ => []
  | p :: ps, phone, link =>
    ⟨p.phoneId, ⟨{ p.row address.contactId with id := phone },
      ⟨link, address.contactId, address.id, phone, p.audit⟩⟩⟩ ::
      savedAddressPhones address ps (phone + 1) (link + 1)

/-- The phones of saved addresses paired with their sources, saved from phone id `phone` and link
id `link` on. -/
def savedLinks : List (Correlated AddressRow × Address) → Int → Int → List (Nested AddressPhone)
  | [], _, _ => []
  | (address, source) :: rest, phone, link =>
    ⟨address.sourceId, savedAddressPhones address.entity source.phoneNumbers phone link⟩ ::
      savedLinks rest (phone + source.phoneNumbers.length) (link + source.phoneNumbers.length)

/-- The restrictions of saved relationships paired with their sources, saved from id `first` on. -/
def savedRelationshipRestrictions :
    List (Correlated RelationshipRow × Relationship) → Int → List (Nested RelationshipRestrictionRow)
  | [], _ => []
  | (relationship, source) :: rest, first =>
    ⟨relationship.sourceId, Table.relationshipRestrictions.saved RelationshipRestriction.id
      (·.row relationship.entity.id) source.restrictions first⟩ ::
      savedRelationshipRestrictions rest (first + source.restrictions.length)

end Migration

/-- What a migration of `r` saves when the last id of each table is `last`. -/
def ContactRecord.extraction (r : ContactRecord) (last : ElementKind → Int) : Extracted :=
  let c := r.personId
  let addresses := Table.addresses.saved Address.addressId (·.row c) r.addresses (last .address + 1)
  let relationships := Table.relationships.saved Relationship.id (·.row c) r.contacts
    (last .prisonerContact + 1)
  { contact := ⟨c, r.contactRow⟩
    phones := Table.phones.saved Phone.phoneId (·.row c) r.phoneNumbers (last .phone + 1)
    addresses
    addressPhones := savedLinks (addresses.zip r.addresses)
      (last .phone + r.phoneNumbers.length + 1) (last .addressPhone + 1)
    emails := Table.emails.saved Email.emailAddressId (·.row c) r.emailAddresses (last .email + 1)
    identities := Table.identities.saved Identifier.sequence (·.row c) r.identifiers
      (last .identity + 1)
    restrictions := Table.restrictions.saved Restriction.id (·.row c) r.restrictions
      (last .restriction + 1)
    employments := Table.employments.saved Employment.sequence (·.row c) r.employments
      (last .employment + 1)
    relationships
    relationshipRestrictions := savedRelationshipRestrictions (relationships.zip r.contacts)
      (last .prisonerContactRestriction + 1) }

/-- How many ids a migration of `r` takes from each table: one per element, an address phone
taking one phone id and one link id. -/
def ContactRecord.newIds (r : ContactRecord) : ElementKind → Nat
  | .contact => 0
  | .phone => r.phoneNumbers.length + (r.addresses.flatMap (·.phoneNumbers)).length
  | .address => r.addresses.length
  | .addressPhone => (r.addresses.flatMap (·.phoneNumbers)).length
  | .email => r.emailAddresses.length
  | .identity => r.identifiers.length
  | .restriction => r.restrictions.length
  | .employment => r.employments.length
  | .prisonerContact => r.contacts.length
  | .prisonerContactRestriction => (r.contacts.flatMap (·.restrictions)).length

/-- The rows an extraction saved: its contact, then the rows beneath it, the phone rows of
address phones after the contact's own. -/
def Migration.Extracted.rows (e : Extracted) : Rows where
  contacts := [e.contact.entity]
  phones := e.phones.map (·.entity) ++ e.addressPhones.flatMap (·.children.map (·.entity.phone))
  addresses := e.addresses.map (·.entity)
  addressPhones := e.addressPhones.flatMap (·.children.map (·.entity.link))
  emails := e.emails.map (·.entity)
  identities := e.identities.map (·.entity)
  restrictions := e.restrictions.map (·.entity)
  employments := e.employments.map (·.entity)
  relationships := e.relationships.map (·.entity)
  relationshipRestrictions := e.relationshipRestrictions.flatMap (·.children.map (·.entity))

namespace Migration

open Work

/-! ## One table at a time -/

section Each

variable {α β : Type} (t : Table β) {contactId : Int} {sourceId : α → Int} {row : α → β}

/-- Saving a list of items into one table numbers their rows from the table's last id on and
appends them, raising the table's sequence by their number. -/
theorem extractEach_ok :
    ∀ {items : List α} {s s' : Tables} {out : List (Correlated β)}, s.Consistent →
      (extractEach contactId t.kind (Port.ofStore t.insert) sourceId row items).runOn s =
        (.ok out, s') →
      out = t.saved sourceId row items (s.lastId t.kind + 1) ∧
        s' = (s.appendRows (t.single (out.map (·.entity)))).raise (Tables.counting t.kind items.length) ∧
        s'.Consistent
  | [], s, s', out, consistent, ran => by
    simp only [extractEach, runOn_mapM_nil, Prod.mk.injEq, Except.ok.injEq] at ran
    obtain ⟨rfl, rfl⟩ := ran
    simp [Table.saved, ← t.setRows_append, t.setRows_rows, consistent]
  | item :: items, s, s', out, consistent, ran => by
    obtain ⟨entry, rest, s₁, first, loop, rfl⟩ := runOn_mapM_cons_eq_ok.mp ran
    obtain ⟨entity, s₁', stepped, returned⟩ := runOn_bind_eq_ok.mp first
    simp only [runOn_pure, Prod.mk.injEq, Except.ok.injEq] at returned
    obtain ⟨rfl, rfl⟩ := returned
    have inserted := runOn_attempt_eq_ok.mp stepped
    rw [Port.ofStore_eq_ok] at inserted
    have below := (consistent.numbered t.kind t.generated).2
    obtain ⟨-, -, rfl, rfl⟩ := (t.insert_eq_ok below).mp inserted
    obtain ⟨rfl, rfl, after⟩ :=
      extractEach_ok (t.insert_consistent consistent inserted) loop
    refine ⟨by simp [Table.saved, t.lastId_setRows], ?_, after⟩
    simp only [t.setRows_append, Tables.raise_appendRows,
      Tables.appendRows_appendRows, Tables.raise_raise, ← t.single_append]
    congr 1
    funext k
    by_cases same : k = t.kind <;> simp [same, Nat.add_comm]

end Each

/-! ## Address phones -/

/-- Saving the phones of one saved address numbers the phone rows from the phone table's last id
on and the links from the link table's, each link pointing at the address and at its phone row. -/
theorem extractAddressPhone_loop_ok {address : AddressRow} :
    ∀ {phones : List Phone} {s s' : Tables} {out : List (Correlated AddressPhone)}, s.Consistent →
      (phones.mapM (extractAddressPhone address)).runOn s = (.ok out, s') →
      out = savedAddressPhones address phones (s.lastId .phone + 1) (s.lastId .addressPhone + 1) ∧
        s' = (s.appendRows { phones := out.map (·.entity.phone)
                             addressPhones := out.map (·.entity.link) }).raise
          (Tables.counting .phone phones.length + Tables.counting .addressPhone phones.length) ∧
        s'.Consistent
  | [], s, s', out, consistent, ran => by
    simp only [runOn_mapM_nil, Prod.mk.injEq, Except.ok.injEq] at ran
    obtain ⟨rfl, rfl⟩ := ran
    refine ⟨rfl, ?_, consistent⟩
    simp
  | p :: phones, s, s', out, consistent, ran => by
    obtain ⟨entry, rest, s₁, first, loop, rfl⟩ := runOn_mapM_cons_eq_ok.mp ran
    obtain ⟨phone, s₀, savedPhone, linked⟩ := runOn_bind_eq_ok.mp first
    obtain ⟨link, s₁', savedLink, returned⟩ := runOn_bind_eq_ok.mp linked
    simp only [runOn_pure, Prod.mk.injEq, Except.ok.injEq] at returned
    obtain ⟨rfl, rfl⟩ := returned
    -- the phone row first, then the link to it
    have phoneInserted := runOn_step_eq_ok.mp savedPhone
    rw [Tables.insertPhone_eq] at phoneInserted
    have phoneConsistent := Table.phones.insert_consistent consistent phoneInserted
    obtain ⟨-, -, rfl, rfl⟩ :=
      (Table.phones.insert_eq_ok (consistent.numbered .phone (by decide)).2).mp phoneInserted
    have linkInserted := runOn_step_eq_ok.mp savedLink
    rw [Tables.insertAddressPhone_eq] at linkInserted
    have linkConsistent := Table.addressPhones.insert_consistent phoneConsistent linkInserted
    obtain ⟨-, -, rfl, rfl⟩ := (Table.addressPhones.insert_eq_ok
      (phoneConsistent.numbered .addressPhone (by decide)).2).mp linkInserted
    obtain ⟨rfl, rfl, after⟩ := extractAddressPhone_loop_ok linkConsistent loop
    simp only [Table.setRows_append] at after ⊢
    refine ⟨?_, ?_, after⟩
    · simp [savedAddressPhones, Table.phones, Table.addressPhones]
    · simp only [Tables.raise_appendRows, Tables.appendRows_appendRows, Tables.raise_raise]
      congr 1
      funext k
      cases k <;> simp [Table.phones, Table.addressPhones] <;> omega

/-- Saving the phones of saved addresses, each address paired with its source in order. -/
theorem extractAddressPhones_ok :
    ∀ {addresses : List (Correlated AddressRow)} {sources : List Address} {s s' : Tables}
      {out : List (Nested AddressPhone)}, s.Consistent →
      (extractAddressPhones addresses sources).runOn s = (.ok out, s') →
      out = savedLinks (addresses.zip sources) (s.lastId .phone + 1) (s.lastId .addressPhone + 1) ∧
        s' = (s.appendRows { phones := out.flatMap (·.children.map (·.entity.phone))
                             addressPhones := out.flatMap (·.children.map (·.entity.link)) }).raise
          (Tables.counting .phone ((addresses.zip sources).flatMap (·.2.phoneNumbers)).length +
            Tables.counting .addressPhone ((addresses.zip sources).flatMap (·.2.phoneNumbers)).length) ∧
        s'.Consistent
  | [], _, s, s', out, consistent, ran
  | _ :: _, [], s, s', out, consistent, ran => by
    simp only [extractAddressPhones, List.zip_nil_left, List.zip_nil_right, runOn_mapM_nil,
      Prod.mk.injEq, Except.ok.injEq] at ran
    obtain ⟨rfl, rfl⟩ := ran
    exact ⟨rfl, by simp, consistent⟩
  | address :: addresses, source :: sources, s, s', out, consistent, ran => by
    obtain ⟨entry, rest, s₁, first, loop, rfl⟩ := runOn_mapM_cons_eq_ok.mp ran
    obtain ⟨children, s₁', phonesRan, returned⟩ := runOn_bind_eq_ok.mp first
    simp only [runOn_pure, Prod.mk.injEq, Except.ok.injEq] at returned
    obtain ⟨rfl, rfl⟩ := returned
    obtain ⟨rfl, rfl, phonesConsistent⟩ := extractAddressPhone_loop_ok consistent phonesRan
    obtain ⟨rfl, rfl, after⟩ := extractAddressPhones_ok phonesConsistent loop
    refine ⟨?_, ?_, after⟩
    · simp only [List.zip_cons_cons, savedLinks, List.cons.injEq, true_and]
      congr 1 <;> simp <;> omega
    · simp only [Tables.raise_appendRows, Tables.appendRows_appendRows, Tables.raise_raise]
      congr 1
      funext k
      cases k <;> simp

/-! ## Relationship restrictions -/

/-- Saving the restrictions of saved relationships, each relationship paired with its source in
order: every restriction points at its relationship's new id. -/
theorem extractRelationshipRestrictions_ok :
    ∀ {relationships : List (Correlated RelationshipRow)} {sources : List Relationship}
      {s s' : Tables} {out : List (Nested RelationshipRestrictionRow)}, s.Consistent →
      (extractRelationshipRestrictions relationships sources).runOn s = (.ok out, s') →
      out = savedRelationshipRestrictions (relationships.zip sources)
          (s.lastId .prisonerContactRestriction + 1) ∧
        s' = (s.appendRows { relationshipRestrictions := out.flatMap (·.children.map (·.entity)) }).raise
          (Tables.counting .prisonerContactRestriction
            ((relationships.zip sources).flatMap (·.2.restrictions)).length) ∧
        s'.Consistent
  | [], _, s, s', out, consistent, ran
  | _ :: _, [], s, s', out, consistent, ran => by
    simp only [extractRelationshipRestrictions, List.zip_nil_left, List.zip_nil_right,
      runOn_mapM_nil, Prod.mk.injEq, Except.ok.injEq] at ran
    obtain ⟨rfl, rfl⟩ := ran
    exact ⟨rfl, by simp, consistent⟩
  | relationship :: relationships, source :: sources, s, s', out, consistent, ran => by
    obtain ⟨entry, rest, s₁, first, loop, rfl⟩ := runOn_mapM_cons_eq_ok.mp ran
    obtain ⟨children, s₁', childrenRan, returned⟩ := runOn_bind_eq_ok.mp first
    simp only [runOn_pure, Prod.mk.injEq, Except.ok.injEq] at returned
    obtain ⟨rfl, rfl⟩ := returned
    obtain ⟨rfl, rfl, childrenConsistent⟩ :=
      extractEach_ok Table.relationshipRestrictions consistent childrenRan
    obtain ⟨rfl, rfl, after⟩ := extractRelationshipRestrictions_ok childrenConsistent loop
    refine ⟨?_, ?_, after⟩
    · simp only [List.zip_cons_cons, savedRelationshipRestrictions, List.cons.injEq]
      refine ⟨rfl, ?_⟩
      congr 1
      simp [Table.relationshipRestrictions]
      omega
    · simp only [Tables.raise_appendRows, Tables.appendRows_appendRows, Tables.raise_raise]
      congr 1
      funext k
      cases k <;> simp [Table.relationshipRestrictions]

/-! ## A whole record -/

theorem extractContact_ok {r : ContactRecord} {s s' : Tables} {contact : Correlated ContactRow}
    (consistent : s.Consistent) (ran : (extractContact r).runOn s = (.ok contact, s')) :
    s.hasContact r.personId = false ∧ contact = ⟨r.personId, r.contactRow⟩ ∧
      s' = s.appendRows { contacts := [r.contactRow] } ∧ s'.Consistent := by
  obtain ⟨u, s₁, saved, returned⟩ := runOn_bind_eq_ok.mp ran
  simp only [runOn_pure, Prod.mk.injEq, Except.ok.injEq] at returned
  obtain ⟨rfl, rfl⟩ := returned
  rw [runOn_change_eq_ok] at saved
  have after := Tables.insertContact_consistent consistent saved
  unfold Tables.insertContact at saved
  split at saved
  · simp at saved
  next fresh =>
    simp only [Except.ok.injEq] at saved
    refine ⟨by simpa [ContactRecord.contactRow] using fresh, rfl, ?_, after⟩
    rw [← saved]
    simp [Tables.appendRows]

/-- Saving the collections of a record beneath its newly saved contact gives exactly
`extraction`, numbered from the tables' last ids, and appends its rows. -/
theorem extractChildren_ok {r : ContactRecord} {g s' : Tables} {e : Extracted}
    (consistent : (g.appendRows { contacts := [r.contactRow] }).Consistent)
    (ran : (extractChildren ⟨r.personId, r.contactRow⟩ r).runOn
      (g.appendRows { contacts := [r.contactRow] }) = (.ok e, s')) :
    e = r.extraction g.lastId ∧ s' = (g.appendRows e.rows).raise r.newIds ∧ s'.Consistent := by
  obtain ⟨phones, s₁, phonesRan, ran⟩ := runOn_bind_eq_ok.mp ran
  obtain ⟨addresses, s₂, addressesRan, ran⟩ := runOn_bind_eq_ok.mp ran
  obtain ⟨addressPhones, s₃, addressPhonesRan, ran⟩ := runOn_bind_eq_ok.mp ran
  obtain ⟨emails, s₄, emailsRan, ran⟩ := runOn_bind_eq_ok.mp ran
  obtain ⟨identities, s₅, identitiesRan, ran⟩ := runOn_bind_eq_ok.mp ran
  obtain ⟨restrictions, s₆, restrictionsRan, ran⟩ := runOn_bind_eq_ok.mp ran
  obtain ⟨employments, s₇, employmentsRan, ran⟩ := runOn_bind_eq_ok.mp ran
  obtain ⟨relationships, s₈, relationshipsRan, ran⟩ := runOn_bind_eq_ok.mp ran
  obtain ⟨relationshipRestrictions, s₉, relationshipRestrictionsRan, ran⟩ :=
    runOn_bind_eq_ok.mp ran
  simp only [runOn_pure, Prod.mk.injEq, Except.ok.injEq] at ran
  obtain ⟨rfl, rfl⟩ := ran
  -- the nine stages, each from the store the one before left
  obtain ⟨rfl, rfl, consistent₁⟩ := extractEach_ok Table.phones consistent phonesRan
  obtain ⟨rfl, rfl, consistent₂⟩ := extractEach_ok Table.addresses consistent₁ addressesRan
  obtain ⟨rfl, rfl, consistent₃⟩ := extractAddressPhones_ok consistent₂ addressPhonesRan
  obtain ⟨rfl, rfl, consistent₄⟩ := extractEach_ok Table.emails consistent₃ emailsRan
  obtain ⟨rfl, rfl, consistent₅⟩ := extractEach_ok Table.identities consistent₄ identitiesRan
  obtain ⟨rfl, rfl, consistent₆⟩ := extractEach_ok Table.restrictions consistent₅ restrictionsRan
  obtain ⟨rfl, rfl, consistent₇⟩ := extractEach_ok Table.employments consistent₆ employmentsRan
  obtain ⟨rfl, rfl, consistent₈⟩ :=
    extractEach_ok Table.relationships consistent₇ relationshipsRan
  obtain ⟨rfl, rfl, consistent₉⟩ :=
    extractRelationshipRestrictions_ok consistent₈ relationshipRestrictionsRan
  refine ⟨?_, ?_, consistent₉⟩
  · simp [ContactRecord.extraction, ContactRecord.contactRow]
  · simp only [Tables.raise_appendRows, Tables.appendRows_appendRows, Tables.raise_raise]
    congr 1
    · congr 1
      ext <;> simp [Extracted.rows, ContactRecord.contactRow, Table.phones, Table.addresses, Table.emails, Table.identities,
        Table.restrictions, Table.employments, Table.relationships]
    · funext k
      cases k <;> simp [ContactRecord.newIds, Table.flatMap_zip_saved]

/-- A successful migration from a consistent store reports whether the contact existed and the
extraction numbered from the store's last ids. It leaves the store without the contact's earlier
rows, with the extraction's rows appended and the sequences raised by `newIds`. -/
theorem migration_ok {r : ContactRecord} {s s' : Tables} {M : Migrated} (consistent : s.Consistent)
    (ran : (migration r).runOn s = (.ok M, s')) :
    M = ⟨s.hasContact r.personId, assemble (r.extraction s.lastId)⟩ ∧
      s' = ((s.withoutContact r.personId).appendRows (r.extraction s.lastId).rows).raise r.newIds ∧
      s'.Consistent := by
  obtain ⟨replaced, g, guarded, ran⟩ := runOn_bind_eq_ok.mp ran
  obtain ⟨contact, s₁, contactRan, ran⟩ := runOn_bind_eq_ok.mp ran
  obtain ⟨e, s₂, childrenRan, ran⟩ := runOn_bind_eq_ok.mp ran
  simp only [runOn_pure, Prod.mk.injEq, Except.ok.injEq] at ran
  obtain ⟨rfl, rfl⟩ := ran
  obtain ⟨rfl, rfl⟩ := removeExisting_ok_of_consistent consistent guarded
  obtain ⟨-, rfl, rfl, contactConsistent⟩ :=
    extractContact_ok (Tables.withoutContact_consistent r.personId consistent) contactRan
  obtain ⟨rfl, rfl, after⟩ := extractChildren_ok contactConsistent childrenRan
  have sameLastIds : (s.withoutContact r.personId).lastId = s.lastId := by
    funext k
    exact Tables.lastId_withoutContact s r.personId k
  rw [sameLastIds] at after ⊢
  exact ⟨rfl, rfl, after⟩

end Migration

end ContactMigration
