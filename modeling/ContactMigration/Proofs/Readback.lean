import ContactMigration.Proofs.Saving

/-!
# What the store reads back after a migration

A contact's aggregate is read back by filtering every table for its rows. Rows appended to a
consistent store that all belong to a contact the store does not have are then read back exactly,
and the aggregate of every other contact is read back as before, as long as the appended
relationships have new ids (`Tables.aggregate?_appendRows_owner`,
`Tables.aggregate?_appendRows_other`). The rows a migration saves are such rows
(`extraction_ownedBy`).

The store's queries order a contact's rows by id, and reading them back keeps them in the order
they were saved; on a consistent store the two agree, as every table holds its rows in rising id
order (`Tables.aggregate?_sortById`).

Main statement: `aggregate?_after_migration`, what a successful migration from a consistent store
leaves to be read back, for the migrated contact and for every other.
-/

namespace ContactMigration

open Store Record Migration

namespace Store

/-- Rows that all belong to one contact: every row naming a contact names it, and every
relationship restriction names one of the rows' relationships. -/
structure Rows.OwnedBy (n : Rows) (contactId : Int) : Prop where
  contacts : ∀ x ∈ n.contacts, x.contactId = contactId
  phones : ∀ x ∈ n.phones, x.contactId = contactId
  addresses : ∀ x ∈ n.addresses, x.contactId = contactId
  addressPhones : ∀ x ∈ n.addressPhones, x.contactId = contactId
  emails : ∀ x ∈ n.emails, x.contactId = contactId
  identities : ∀ x ∈ n.identities, x.contactId = contactId
  restrictions : ∀ x ∈ n.restrictions, x.contactId = contactId
  employments : ∀ x ∈ n.employments, x.contactId = contactId
  relationships : ∀ x ∈ n.relationships, x.contactId = contactId
  relationshipRestrictions :
    ∀ x ∈ n.relationshipRestrictions, x.relationshipId ∈ n.relationships.map (·.id)

/-- The aggregate of a contact made of rows. -/
def Aggregate.ofRows (contact : ContactRow) (n : Rows) : Aggregate :=
  ⟨contact, n.phones, n.addresses, n.addressPhones, n.emails, n.identities, n.restrictions,
    n.employments, n.relationships, n.relationshipRestrictions⟩

section Filters

variable {α : Type} {old new : List α} {owner : α → Int} {contactId : Int}

theorem filter_append_owned (before : ∀ x ∈ old, owner x ≠ contactId)
    (after : ∀ x ∈ new, owner x = contactId) :
    (old ++ new).filter (owner · == contactId) = new := by
  rw [List.filter_append, List.filter_eq_nil_iff.mpr (by simpa using before),
    List.filter_eq_self.mpr (by simpa using after), List.nil_append]

theorem filter_append_other {c : Int} (after : ∀ x ∈ new, owner x = contactId)
    (other : c ≠ contactId) :
    (old ++ new).filter (owner · == c) = old.filter (owner · == c) := by
  have gone : new.filter (owner · == c) = [] :=
    List.filter_eq_nil_iff.mpr fun x mem => by simp [after x mem, Ne.symm other]
  rw [List.filter_append, gone, List.append_nil]

end Filters

/-! ## The order rows are read in -/

/-- Rows as a query ordered by their ids returns them: sorted by id, rows of one id kept in their
order. -/
def sortById {α : Type} (id : α → Int) (rows : List α) : List α :=
  rows.mergeSort fun a b => id a ≤ id b

theorem sortById_of_rising {α : Type} {id : α → Int} {rows : List α}
    (rising : rows.Pairwise (id · < id ·)) : sortById id rows = rows :=
  List.mergeSort_of_pairwise (rising.imp fun lt => decide_eq_true lt.le)

/-- An aggregate as the store's queries read it, each table's rows ordered by id. -/
def Aggregate.sortById (A : Aggregate) : Aggregate :=
  { A with
    phones := Store.sortById (·.id) A.phones
    addresses := Store.sortById (·.id) A.addresses
    addressPhones := Store.sortById (·.id) A.addressPhones
    emails := Store.sortById (·.id) A.emails
    identities := Store.sortById (·.id) A.identities
    restrictions := Store.sortById (·.id) A.restrictions
    employments := Store.sortById (·.id) A.employments
    relationships := Store.sortById (·.id) A.relationships
    relationshipRestrictions := Store.sortById (·.id) A.relationshipRestrictions }

/-- Each list of an aggregate holds its rows in rising id order. -/
structure Aggregate.Rising (A : Aggregate) : Prop where
  phones : A.phones.Pairwise (·.id < ·.id)
  addresses : A.addresses.Pairwise (·.id < ·.id)
  addressPhones : A.addressPhones.Pairwise (·.id < ·.id)
  emails : A.emails.Pairwise (·.id < ·.id)
  identities : A.identities.Pairwise (·.id < ·.id)
  restrictions : A.restrictions.Pairwise (·.id < ·.id)
  employments : A.employments.Pairwise (·.id < ·.id)
  relationships : A.relationships.Pairwise (·.id < ·.id)
  relationshipRestrictions : A.relationshipRestrictions.Pairwise (·.id < ·.id)

theorem Aggregate.Rising.sortById_eq {A : Aggregate} (rising : A.Rising) : A.sortById = A := by
  simp only [Aggregate.sortById, sortById_of_rising rising.phones,
    sortById_of_rising rising.addresses, sortById_of_rising rising.addressPhones,
    sortById_of_rising rising.emails, sortById_of_rising rising.identities,
    sortById_of_rising rising.restrictions, sortById_of_rising rising.employments,
    sortById_of_rising rising.relationships, sortById_of_rising rising.relationshipRestrictions]

namespace Tables

/-- The rows of a table whose ids rise, and so those any filter keeps. -/
theorem rising_filter {α : Type} {rows : List α} {id : α → Int} (p : α → Bool)
    (rising : (rows.map id).Pairwise (· < ·)) : (rows.filter p).Pairwise (id · < id ·) :=
  (List.pairwise_map.mp rising).filter p

/-- A contact's rows are read back from a consistent store in rising id order: the tables hold
their rows in the order of their ids, and reading a contact back only filters them. -/
theorem aggregate?_rising {s : Tables} {contactId : Int} {A : Aggregate}
    (consistent : s.Consistent) (found : s.aggregate? contactId = some A) : A.Rising := by
  have rising : ∀ kind ∈ generatedKinds, (s.ids kind).Pairwise (· < ·) :=
    fun kind generated => (consistent.numbered kind generated).1
  simp only [aggregate?, Option.map_eq_some_iff] at found
  obtain ⟨contact, -, rfl⟩ := found
  exact ⟨rising_filter _ (rising .phone (by decide)), rising_filter _ (rising .address (by decide)),
    rising_filter _ (rising .addressPhone (by decide)), rising_filter _ (rising .email (by decide)),
    rising_filter _ (rising .identity (by decide)),
    rising_filter _ (rising .restriction (by decide)),
    rising_filter _ (rising .employment (by decide)),
    rising_filter _ (rising .prisonerContact (by decide)),
    rising_filter _ (rising .prisonerContactRestriction (by decide))⟩

/-- A consistent store reads a contact back as its queries ordered by id would: the rows of each
table come back in the order they were saved, which is the order of their ids. -/
theorem aggregate?_sortById {s : Tables} (consistent : s.Consistent) (contactId : Int) :
    (s.aggregate? contactId).map Aggregate.sortById = s.aggregate? contactId := by
  cases found : s.aggregate? contactId with
  | none => rfl
  | some A => rw [Option.map_some, (aggregate?_rising consistent found).sortById_eq]

theorem aggregate?_raise (s : Tables) (counts : ElementKind → Nat) (contactId : Int) :
    (s.raise counts).aggregate? contactId = s.aggregate? contactId := rfl

/-- The ids of a consistent store's relationships: those its relationship restrictions name. -/
theorem relationshipIdsOf_subset (s : Tables) (contactId : Int) :
    ∀ i ∈ s.relationshipIdsOf contactId, i ∈ s.ids .prisonerContact := by
  intro i mem
  simp only [relationshipIdsOf, List.mem_map, List.mem_filter] at mem
  obtain ⟨x, ⟨kept, -⟩, rfl⟩ := mem
  exact List.mem_map_of_mem kept

variable {s : Tables} {n : Rows} {contactId : Int}

/-- Rows of a contact the store does not have, appended to a consistent store, are read back as
the contact's aggregate. -/
theorem aggregate?_appendRows_owner {contact : ContactRow} (consistent : s.Consistent)
    (absent : s.hasContact contactId = false) (owned : n.OwnedBy contactId)
    (contacts : n.contacts = [contact])
    (fresh : ∀ x ∈ n.relationships, x.id ∉ s.ids .prisonerContact) :
    (s.appendRows n).aggregate? contactId = some (Aggregate.ofRows contact n) := by
  have unreferenced := unreferenced_of_absent consistent absent
  simp only [isReferenced, Bool.or_eq_false_iff, List.any_eq_false, beq_iff_eq] at unreferenced
  obtain ⟨⟨⟨⟨⟨⟨⟨phones, addresses⟩, links⟩, emails⟩, identities⟩, restrictions⟩, employments⟩,
    relationships⟩ := unreferenced
  have noContact : ∀ x ∈ s.contacts, x.contactId ≠ contactId := by
    simpa [hasContact] using absent
  have parents : (s.appendRows n).relationshipIdsOf contactId = n.relationships.map (·.id) := by
    simp only [relationshipIdsOf, appendRows]
    rw [filter_append_owned relationships owned.relationships]
  -- the store's restrictions name its own relationships, none of which is new
  have restrictionsOf : (s.appendRows n).relationshipRestrictionsOf contactId =
      n.relationshipRestrictions := by
    have kept : n.relationshipRestrictions.filter
        (fun x => (n.relationships.map (·.id)).contains x.relationshipId) =
        n.relationshipRestrictions :=
      List.filter_eq_self.mpr fun x mem => by simpa using owned.relationshipRestrictions x mem
    have dropped : s.relationshipRestrictions.filter
        (fun x => (n.relationships.map (·.id)).contains x.relationshipId) = [] := by
      refine List.filter_eq_nil_iff.mpr fun x mem named => ?_
      simp only [List.contains_eq_mem, decide_eq_true_eq, List.mem_map] at named
      obtain ⟨parent, newParent, same⟩ := named
      exact fresh parent newParent (same ▸ consistent.referential.2 x mem)
    simp only [relationshipRestrictionsOf]
    rw [parents]
    simp only [appendRows, List.filter_append, kept, dropped, List.nil_append]
  have missing : s.contacts.find? (·.contactId == contactId) = none :=
    List.find?_eq_none.mpr fun x mem => by simpa using noContact x mem
  have found : (s.appendRows n).contact? contactId = some contact := by
    simp [contact?, appendRows, List.find?_append, missing, contacts,
      owned.contacts contact (by simp [contacts])]
  simp only [aggregate?, found, restrictionsOf, Option.map_some, Aggregate.ofRows]
  simp only [appendRows]
  rw [filter_append_owned phones owned.phones, filter_append_owned addresses owned.addresses,
    filter_append_owned links owned.addressPhones, filter_append_owned emails owned.emails,
    filter_append_owned identities owned.identities,
    filter_append_owned restrictions owned.restrictions,
    filter_append_owned employments owned.employments,
    filter_append_owned relationships owned.relationships]

/-- Rows of one contact, appended with new relationship ids, leave the aggregate of every other
contact as it was. -/
theorem aggregate?_appendRows_other {c : Int} (owned : n.OwnedBy contactId) (other : c ≠ contactId)
    (fresh : ∀ x ∈ n.relationships, x.id ∉ s.ids .prisonerContact) :
    (s.appendRows n).aggregate? c = s.aggregate? c := by
  have parents : (s.appendRows n).relationshipIdsOf c = s.relationshipIdsOf c := by
    simp only [relationshipIdsOf, appendRows]
    rw [filter_append_other owned.relationships other]
  have restrictionsOf : (s.appendRows n).relationshipRestrictionsOf c =
      s.relationshipRestrictionsOf c := by
    have dropped : n.relationshipRestrictions.filter
        (fun x => (s.relationshipIdsOf c).contains x.relationshipId) = [] := by
      refine List.filter_eq_nil_iff.mpr fun x mem named => ?_
      simp only [List.contains_eq_mem, decide_eq_true_eq] at named
      obtain ⟨parent, newParent, same⟩ := List.mem_map.mp (owned.relationshipRestrictions x mem)
      exact fresh parent newParent (same ▸ relationshipIdsOf_subset s c _ named)
    simp only [relationshipRestrictionsOf]
    rw [parents]
    simp only [appendRows, List.filter_append, dropped, List.append_nil]
  have missing : n.contacts.find? (·.contactId == c) = none :=
    List.find?_eq_none.mpr fun x mem => by simp [owned.contacts x mem, Ne.symm other]
  have found : (s.appendRows n).contact? c = s.contact? c := by
    simp only [contact?, appendRows, List.find?_append, missing, Option.or_none]
  simp only [aggregate?, found, restrictionsOf]
  simp only [appendRows]
  rw [filter_append_other owned.phones other, filter_append_other owned.addresses other,
    filter_append_other owned.addressPhones other, filter_append_other owned.emails other,
    filter_append_other owned.identities other, filter_append_other owned.restrictions other,
    filter_append_other owned.employments other, filter_append_other owned.relationships other]

end Tables

end Store

/-! ## The rows a migration saves -/

theorem Store.Table.mem_saved {α β : Type} {t : Table β} {sourceId : α → Int} {row : α → β} :
    ∀ {items : List α} {first : Int} {x : Correlated β}, x ∈ t.saved sourceId row items first →
      ∃ item ∈ items, ∃ v, first ≤ v ∧ x = ⟨sourceId item, t.withId (row item) v⟩
  | [], _, _, mem => by simp [Table.saved] at mem
  | item :: items, first, x, mem => by
    simp only [Table.saved, List.mem_cons] at mem
    rcases mem with rfl | later
    · exact ⟨item, List.mem_cons_self, first, le_refl _, rfl⟩
    · obtain ⟨other, mem, v, above, rfl⟩ := Table.mem_saved later
      exact ⟨other, List.mem_cons_of_mem _ mem, v, by omega, rfl⟩

namespace Migration

theorem mem_savedAddressPhones {address : AddressRow} :
    ∀ {phones : List Phone} {phone link : Int} {x : Correlated AddressPhone},
      x ∈ savedAddressPhones address phones phone link →
      x.entity.phone.contactId = address.contactId ∧ x.entity.link.contactId = address.contactId
  | [], _, _, _, mem => by simp [savedAddressPhones] at mem
  | p :: phones, phone, link, x, mem => by
    simp only [savedAddressPhones, List.mem_cons] at mem
    rcases mem with rfl | later
    · exact ⟨rfl, rfl⟩
    · exact mem_savedAddressPhones later

theorem mem_savedLinks :
    ∀ {pairs : List (Correlated AddressRow × Address)} {phone link : Int} {n : Nested AddressPhone},
      n ∈ savedLinks pairs phone link →
      ∃ pair ∈ pairs, ∃ phone' link',
        n.children = savedAddressPhones pair.1.entity pair.2.phoneNumbers phone' link'
  | [], _, _, _, mem => by simp [savedLinks] at mem
  | (address, source) :: pairs, phone, link, n, mem => by
    simp only [savedLinks, List.mem_cons] at mem
    rcases mem with rfl | later
    · exact ⟨(address, source), List.mem_cons_self, phone, link, rfl⟩
    · obtain ⟨pair, mem, phone', link', children⟩ := mem_savedLinks later
      exact ⟨pair, List.mem_cons_of_mem _ mem, phone', link', children⟩

theorem mem_savedRelationshipRestrictions :
    ∀ {pairs : List (Correlated RelationshipRow × Relationship)} {first : Int}
      {n : Nested RelationshipRestrictionRow}, n ∈ savedRelationshipRestrictions pairs first →
      ∃ pair ∈ pairs, ∃ first', n.children = Table.relationshipRestrictions.saved
        RelationshipRestriction.id (·.row pair.1.entity.id) pair.2.restrictions first'
  | [], _, _, mem => by simp [savedRelationshipRestrictions] at mem
  | (relationship, source) :: pairs, first, n, mem => by
    simp only [savedRelationshipRestrictions, List.mem_cons] at mem
    rcases mem with rfl | later
    · exact ⟨(relationship, source), List.mem_cons_self, first, rfl⟩
    · obtain ⟨pair, mem, first', children⟩ := mem_savedRelationshipRestrictions later
      exact ⟨pair, List.mem_cons_of_mem _ mem, first', children⟩

end Migration

variable {r : ContactRecord} {last : ElementKind → Int}

/-- Every row a migration saves belongs to the migrated contact, and every relationship
restriction to one of its new relationships. -/
theorem extraction_ownedBy : (r.extraction last).rows.OwnedBy r.personId := by
  -- a saved row of one of the seven simple tables is the record's row with a new id
  have simple : ∀ {α β : Type} {t : Table β} {sourceId : α → Int} {row : α → β}
      {items : List α} {first : Int} (owner : β → Int),
      (∀ item v, owner (t.withId (row item) v) = r.personId) →
      ∀ x ∈ (t.saved sourceId row items first).map (·.entity), owner x = r.personId := by
    intro α β t sourceId row items first owner owns x mem
    obtain ⟨saved, savedMem, rfl⟩ := List.mem_map.mp mem
    obtain ⟨item, -, v, -, rfl⟩ := Table.mem_saved savedMem
    exact owns item v
  have links : ∀ n ∈ (r.extraction last).addressPhones, ∀ x ∈ n.children,
      x.entity.phone.contactId = r.personId ∧ x.entity.link.contactId = r.personId := by
    intro n mem x child
    obtain ⟨pair, pairMem, phone, link, children⟩ := mem_savedLinks mem
    obtain ⟨address, -, v, -, same⟩ := Table.mem_saved (List.of_mem_zip pairMem).1
    rw [children] at child
    obtain ⟨phoneOwner, linkOwner⟩ := mem_savedAddressPhones child
    rw [phoneOwner, linkOwner, same]
    exact ⟨rfl, rfl⟩
  refine ⟨?_, ?_, simple _ fun _ _ => rfl, ?_, simple _ fun _ _ => rfl, simple _ fun _ _ => rfl,
    simple _ fun _ _ => rfl, simple _ fun _ _ => rfl, simple _ fun _ _ => rfl, ?_⟩
  · simp [Extracted.rows, ContactRecord.extraction, ContactRecord.contactRow]
  · intro x mem
    simp only [Extracted.rows, List.mem_append, List.mem_flatMap, List.mem_map] at mem
    rcases mem with own | ⟨n, nMem, child, childMem, rfl⟩
    · exact simple _ (fun _ _ => rfl) x (by simpa [Extracted.rows, ContactRecord.extraction] using own)
    · exact (links n nMem child childMem).1
  · intro x mem
    simp only [Extracted.rows, List.mem_flatMap, List.mem_map] at mem
    obtain ⟨n, nMem, child, childMem, rfl⟩ := mem
    exact (links n nMem child childMem).2
  · intro x mem
    simp only [Extracted.rows, List.mem_flatMap, List.mem_map] at mem
    obtain ⟨n, nMem, child, childMem, rfl⟩ := mem
    obtain ⟨pair, pairMem, first, children⟩ := mem_savedRelationshipRestrictions nMem
    rw [children] at childMem
    obtain ⟨restriction, -, v, -, rfl⟩ := Table.mem_saved childMem
    exact List.mem_map.mpr ⟨pair.1.entity, List.mem_map_of_mem (List.of_mem_zip pairMem).1, rfl⟩

/-- The relationships a migration saves have ids above the last id it started from. -/
theorem lt_id_of_mem_extraction {x : RelationshipRow}
    (mem : x ∈ (r.extraction last).rows.relationships) : last .prisonerContact < x.id := by
  simp only [Extracted.rows, List.mem_map] at mem
  obtain ⟨saved, savedMem, rfl⟩ := mem
  obtain ⟨relationship, -, v, above, rfl⟩ := Table.mem_saved savedMem
  show last .prisonerContact < v
  omega

/-- The relationships a migration saves have ids the store it started from never gave. -/
theorem fresh_of_extraction {s : Tables} (consistent : s.Consistent) {x : RelationshipRow}
    (mem : x ∈ (r.extraction s.lastId).rows.relationships) : x.id ∉ s.ids .prisonerContact := by
  intro old
  have atMost := ((consistent.numbered .prisonerContact (by decide)).2 x.id old).2
  have above := lt_id_of_mem_extraction mem
  omega

/-- After a successful migration from a consistent store, the migrated contact reads back as the
rows the migration saved, and every other contact as before. -/
theorem aggregate?_after_migration {s s' : Tables} {M : Migrated} (consistent : s.Consistent)
    (ran : (migration r).runOn s = (.ok M, s')) :
    s'.aggregate? r.personId =
        some (Aggregate.ofRows r.contactRow (r.extraction s.lastId).rows) ∧
      ∀ c ≠ r.personId, s'.aggregate? c = s.aggregate? c := by
  obtain ⟨-, rfl, -⟩ := migration_ok consistent ran
  have guarded := Tables.withoutContact_consistent r.personId consistent
  have fresh : ∀ x ∈ (r.extraction s.lastId).rows.relationships,
      x.id ∉ (s.withoutContact r.personId).ids .prisonerContact :=
    fun x mem old => fresh_of_extraction consistent mem
      ((Tables.ids_withoutContact_sublist s r.personId _).subset old)
  refine ⟨?_, fun c other => ?_⟩
  · rw [Tables.aggregate?_raise]
    exact Tables.aggregate?_appendRows_owner guarded
      (by simp [Tables.hasContact_withoutContact]) extraction_ownedBy rfl fresh
  · rw [Tables.aggregate?_raise, Tables.aggregate?_appendRows_other extraction_ownedBy other fresh,
      Tables.aggregate?_withoutContact other consistent]

end ContactMigration
