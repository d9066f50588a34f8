import ContactMigration.Proofs.Reachable

/-!
# The report agrees with the store

After a successful migration the store reads back, for the migrated contact, exactly the rows the
report describes. `Aggregate.Agrees A report r` spells this out table by table: the contact row is
the record's, each table holds one row per element of the record in source order, with the ids
the report gives and, ids aside, the rows the record maps to; the phone rows of address phones
follow the contact's own phones, and every link and relationship restriction points at the new
ids of its parents.

Main statement: `migrated_aggregate_agrees_with_report`, for every migrator reachable from a fresh
store.
-/

namespace ContactMigration

open Store Record Migration

/-- Stored rows of table `t`: their ids are `ids` and, ids aside, they are `expected`, in order. -/
structure Store.Table.Stores {β : Type} (t : Table β) (rows : List β) (ids : List Int)
    (expected : List β) : Prop where
  ids : rows.map t.id = ids
  rows : rows.map (t.withId · 0) = expected

theorem Store.Table.Stores.append {β : Type} {t : Table β} {rows rows' : List β}
    {ids ids' : List Int} {expected expected' : List β} (first : t.Stores rows ids expected)
    (second : t.Stores rows' ids' expected') :
    t.Stores (rows ++ rows') (ids ++ ids') (expected ++ expected') :=
  ⟨by rw [List.map_append, first.ids, second.ids], by rw [List.map_append, first.rows, second.rows]⟩

/-! ## Lists in step -/

section Lists

variable {α β γ : Type} {R : α → β → Prop}

theorem flatMap_eq_of_forall₂ {f : α → List γ} {g : β → List γ}
    (each : ∀ a b, R a b → f a = g b) :
    ∀ {l₁ : List α} {l₂ : List β}, List.Forall₂ R l₁ l₂ → l₁.flatMap f = l₂.flatMap g
  | [], [], .nil => rfl
  | _ :: _, _ :: _, .cons related rest => by
    simp only [List.flatMap_cons, each _ _ related, flatMap_eq_of_forall₂ each rest]

theorem flatMap_zip_of_forall₂ {f : α × β → List γ} {g : β → List γ}
    (each : ∀ a b, R a b → f (a, b) = g b) :
    ∀ {l₁ : List α} {l₂ : List β}, List.Forall₂ R l₁ l₂ → (l₁.zip l₂).flatMap f = l₂.flatMap g
  | [], [], .nil => rfl
  | _ :: _, _ :: _, .cons related rest => by
    simp only [List.zip_cons_cons, List.flatMap_cons, each _ _ related,
      flatMap_zip_of_forall₂ each rest]

theorem flatMap_zip_snd {l₁ : List α} {l₂ : List β} (g : β → List γ)
    (shorter : l₂.length ≤ l₁.length) : (l₁.zip l₂).flatMap (g ·.2) = l₂.flatMap g := by
  rw [← List.flatMap_map, List.map_snd_zip shorter]

theorem map_zip_fst {l₁ : List α} {l₂ : List β} (f : α → γ) (shorter : l₁.length ≤ l₂.length) :
    (l₁.zip l₂).map (fun p => f p.1) = l₁.map f := by
  calc (l₁.zip l₂).map (fun p => f p.1) = ((l₁.zip l₂).map Prod.fst).map f := by
        rw [List.map_map]
        rfl
    _ = l₁.map f := by rw [List.map_fst_zip shorter]

theorem map_zip_snd {l₁ : List α} {l₂ : List β} (f : β → γ) (shorter : l₂.length ≤ l₁.length) :
    (l₁.zip l₂).map (fun p => f p.2) = l₂.map f := by
  calc (l₁.zip l₂).map (fun p => f p.2) = ((l₁.zip l₂).map Prod.snd).map f := by
        rw [List.map_map]
        rfl
    _ = l₂.map f := by rw [List.map_snd_zip shorter]

theorem forall₂_of_zip_fst {l₁ : List α} {l₂ : List β} {l₃ : List γ} {R : α → γ → Prop}
    (shorter : l₁.length ≤ l₂.length)
    (related : List.Forall₂ (fun p c => R p.1 c) (l₁.zip l₂) l₃) : List.Forall₂ R l₁ l₃ := by
  rw [← List.map_fst_zip shorter]
  exact List.forall₂_map_left_iff.mpr related

end Lists

/-! ## Rows saved one after another -/

section Saved

variable {α β γ : Type} (t : Table β) {sourceId : α → Int} {row : α → β}

/-- What does not depend on a saved row's id is the same for the item it was saved from. -/
theorem Store.Table.map_saved (f : β → γ) {g : α → γ}
    (each : ∀ item v, f (t.withId (row item) v) = g item) :
    ∀ (items : List α) (first : Int),
      (t.saved sourceId row items first).map (f ·.entity) = items.map g
  | [], _ => rfl
  | item :: items, first => by
    simp only [Table.saved, List.map_cons, each, Table.map_saved f each items]

theorem Store.Table.flatMap_zip_saved_of (f : β → α → List γ) {g : α → List γ}
    (each : ∀ item v, f (t.withId (row item) v) item = g item) :
    ∀ (items : List α) (first : Int),
      ((t.saved sourceId row items first).zip items).flatMap (fun p => f p.1.entity p.2) =
        items.flatMap g
  | [], _ => rfl
  | item :: items, first => by
    simp only [Table.saved, List.zip_cons_cons, List.flatMap_cons, each,
      Table.flatMap_zip_saved_of f each items]

/-- Rows saved from items with no id of their own hold the items' rows, with the ids reported. -/
theorem Store.Table.stores_saved (kind : ElementKind) (items : List α) (first : Int)
    (blank : ∀ item, t.withId (row item) 0 = row item) :
    t.Stores ((t.saved sourceId row items first).map (·.entity))
      ((pairs kind t.id (t.saved sourceId row items first)).map (·.destinationId))
      (items.map row) where
  ids := by simp [pairs]
  rows := by
    rw [List.map_map]
    exact t.map_saved (t.withId · 0) (fun item v => by rw [t.withId_withId, blank]) items first

end Saved

namespace Migration

/-- The phones of one saved address as saved from a list of phone numbers: each phone row is the
number's row under the address's contact, and each link names the contact, the address and the
phone row, with the number's audit. -/
structure LinksOf (address : AddressRow) (numbers : List Phone)
    (children : List (Correlated AddressPhone)) : Prop where
  phones : children.map (fun x => { x.entity.phone with id := 0 }) =
    numbers.map (·.row address.contactId)
  owners : children.map (fun x => (x.entity.link.contactId, x.entity.link.audit)) =
    numbers.map fun p => (address.contactId, p.audit)
  addressIds : ∀ x ∈ children, x.entity.link.addressId = address.id
  phoneIds : ∀ x ∈ children, x.entity.link.phoneId = x.entity.phone.id

theorem linksOf_savedAddressPhones (address : AddressRow) :
    ∀ (phones : List Phone) (phone link : Int),
      LinksOf address phones (savedAddressPhones address phones phone link)
  | [], _, _ => ⟨rfl, rfl, by simp [savedAddressPhones], by simp [savedAddressPhones]⟩
  | p :: phones, phone, link => by
    obtain ⟨erased, owners, addressIds, phoneIds⟩ :=
      linksOf_savedAddressPhones address phones (phone + 1) (link + 1)
    refine ⟨?_, ?_, ?_, ?_⟩
    · simp [savedAddressPhones, erased, Phone.row]
    · simp [savedAddressPhones, owners]
    · simpa [savedAddressPhones] using addressIds
    · simpa [savedAddressPhones] using phoneIds

/-- The phones of saved addresses, each saved from the phone numbers of its source. -/
theorem savedLinks_forall₂ :
    ∀ (pairs : List (Correlated AddressRow × Address)) (phone link : Int),
      List.Forall₂ (fun pair n => LinksOf pair.1.entity pair.2.phoneNumbers n.children) pairs
        (savedLinks pairs phone link)
  | [], _, _ => .nil
  | (address, source) :: pairs, phone, link =>
    .cons (linksOf_savedAddressPhones address.entity source.phoneNumbers phone link)
      (savedLinks_forall₂ pairs _ _)

/-- The restrictions of one saved relationship as saved from a list of restrictions: each is the
source's row under the relationship's new id. -/
structure RestrictionsOf (relationship : RelationshipRow) (restrictions : List RelationshipRestriction)
    (children : List (Correlated RelationshipRestrictionRow)) : Prop where
  rows : children.map (fun x => { x.entity with id := 0, relationshipId := 0 }) =
    restrictions.map (·.row 0)
  parents : ∀ x ∈ children, x.entity.relationshipId = relationship.id

theorem savedRelationshipRestrictions_forall₂ :
    ∀ (pairs : List (Correlated RelationshipRow × Relationship)) (first : Int),
      List.Forall₂ (fun pair n => RestrictionsOf pair.1.entity pair.2.restrictions n.children)
        pairs (savedRelationshipRestrictions pairs first)
  | [], _ => .nil
  | (relationship, source) :: pairs, first => by
    have blank : ∀ (restriction : RelationshipRestriction) (v : Int),
        ({ Table.relationshipRestrictions.withId (restriction.row relationship.entity.id) v with
            id := 0, relationshipId := 0 } : RelationshipRestrictionRow) = restriction.row 0 :=
      fun _ _ => rfl
    refine .cons ⟨?_, fun x mem => ?_⟩ (savedRelationshipRestrictions_forall₂ pairs _)
    · exact Table.relationshipRestrictions.map_saved
        (fun x => ({ x with id := 0, relationshipId := 0 } : RelationshipRestrictionRow)) blank _ _
    · obtain ⟨restriction, -, v, -, rfl⟩ := Table.mem_saved mem
      rfl

end Migration

/-- A stored aggregate agrees with the report of a migration of record `r`. -/
structure Store.Aggregate.Agrees (A : Aggregate) (report : Report) (r : ContactRecord) : Prop where
  contact : A.contact = r.contactRow
  /-- The contact's own phones with the reported ids, then the phone rows of its address phones,
  whose ids the links name. -/
  phones : Table.phones.Stores A.phones
    (report.phoneNumbers.map (·.destinationId) ++ A.addressPhones.map (·.phoneId))
    (r.phoneNumbers.map (·.row r.personId) ++
      (r.addresses.flatMap (·.phoneNumbers)).map (·.row r.personId))
  addresses : Table.addresses.Stores A.addresses (report.addresses.map (·.address.destinationId))
    (r.addresses.map (·.row r.personId))
  addressPhones : A.addressPhones.map (·.id) =
    report.addresses.flatMap (·.phones.map (·.destinationId))
  /-- Each link names the address it was reported under. -/
  addressPhoneAddresses : A.addressPhones.map (·.addressId) =
    report.addresses.flatMap fun a => a.phones.map fun _ => a.address.destinationId
  addressPhoneRows : A.addressPhones.map (fun l => (l.contactId, l.audit)) =
    (r.addresses.flatMap (·.phoneNumbers)).map fun p => (r.personId, p.audit)
  emails : Table.emails.Stores A.emails (report.emails.map (·.destinationId))
    (r.emailAddresses.map (·.row r.personId))
  identities : Table.identities.Stores A.identities (report.identities.map (·.destinationId))
    (r.identifiers.map (·.row r.personId))
  restrictions : Table.restrictions.Stores A.restrictions
    (report.restrictions.map (·.destinationId)) (r.restrictions.map (·.row r.personId))
  employments : Table.employments.Stores A.employments
    (report.employments.map (·.destinationId)) (r.employments.map (·.row r.personId))
  relationships : Table.relationships.Stores A.relationships
    (report.relationships.map (·.relationship.destinationId)) (r.contacts.map (·.row r.personId))
  relationshipRestrictions : A.relationshipRestrictions.map (·.id) =
    report.relationships.flatMap (·.restrictions.map (·.destinationId))
  /-- Each relationship restriction names the relationship it was reported under. -/
  relationshipRestrictionParents : A.relationshipRestrictions.map (·.relationshipId) =
    report.relationships.flatMap fun x => x.restrictions.map fun _ => x.relationship.destinationId
  relationshipRestrictionRows :
    A.relationshipRestrictions.map (fun x => { x with id := 0, relationshipId := 0 }) =
      (r.contacts.flatMap (·.restrictions)).map (·.row 0)

namespace Migration

theorem assemble_addresses (e : Extracted) :
    (assemble e).addresses = ((pairs .address AddressRow.id e.addresses).zip e.addressPhones).map
      fun p => ⟨p.1, pairs .addressPhone (·.link.id) p.2.children⟩ := rfl

theorem assemble_relationships (e : Extracted) :
    (assemble e).relationships =
      ((pairs .prisonerContact RelationshipRow.id e.relationships).zip e.relationshipRestrictions).map
        fun p => ⟨p.1, pairs .prisonerContactRestriction RelationshipRestrictionRow.id p.2.children⟩ :=
  rfl

/-- Children listed under their parents, each naming its parent's new id, name the ids the report
pairs them with. -/
theorem flatMap_children_name_parents {α β δ : Type} (kind : ElementKind) (id : α → Int)
    (childKind : ElementKind) (childId : β → Int) (ref : β → Int) {parents : List (Correlated α)}
    {sources : List δ} {nested : List (Nested β)} (shorter : parents.length ≤ sources.length)
    (named : List.Forall₂ (fun pair n => ∀ x ∈ n.children, ref x.entity = id pair.1.entity)
      (parents.zip sources) nested) :
    nested.flatMap (·.children.map (ref ·.entity)) =
      ((pairs kind id parents).zip nested).flatMap
        fun p => (pairs childKind childId p.2.children).map fun _ => p.1.destinationId := by
  have reported : List.Forall₂ (fun (p : IdPair) n => ∀ x ∈ n.children,
      ref x.entity = p.destinationId) (pairs kind id parents) nested :=
    List.forall₂_map_left_iff.mpr (forall₂_of_zip_fst shorter named)
  refine (flatMap_zip_of_forall₂ (fun p n below => ?_) reported).symm
  simp only [pairs, List.map_map]
  exact List.map_congr_left fun x mem => (below x mem).symm

/-- The ids the report lists under its parents are the ids of the nested rows, in order. -/
theorem flatMap_reported_children {α β : Type} (kind : ElementKind) (id : α → Int)
    (childKind : ElementKind) (childId : β → Int) {parents : List (Correlated α)}
    {nested : List (Nested β)} (shorter : nested.length ≤ parents.length) :
    ((pairs kind id parents).zip nested).flatMap
        (fun p => (pairs childKind childId p.2.children).map (·.destinationId)) =
      nested.flatMap (·.children.map (childId ·.entity)) := by
  rw [flatMap_zip_snd (fun n : Nested β => (pairs childKind childId n.children).map (·.destinationId))
    (by simpa [pairs] using shorter)]
  simp only [pairs, List.map_map]
  rfl

/-! ## What an extraction saves -/

section Extraction

variable (r : ContactRecord) (last : ElementKind → Int)

theorem extraction_addresses : (r.extraction last).addresses =
    Table.addresses.saved Address.addressId (·.row r.personId) r.addresses (last .address + 1) :=
  rfl

theorem extraction_links :
    List.Forall₂ (fun pair n => LinksOf pair.1.entity pair.2.phoneNumbers n.children)
      ((r.extraction last).addresses.zip r.addresses) (r.extraction last).addressPhones :=
  savedLinks_forall₂ _ _ _

theorem extraction_restrictionsOf :
    List.Forall₂ (fun pair n => RestrictionsOf pair.1.entity pair.2.restrictions n.children)
      ((r.extraction last).relationships.zip r.contacts) (r.extraction last).relationshipRestrictions :=
  savedRelationshipRestrictions_forall₂ _ _

@[simp]
theorem length_extraction_phones : (r.extraction last).phones.length = r.phoneNumbers.length := by
  simp [ContactRecord.extraction, Table.length_saved]

@[simp]
theorem length_extraction_emails :
    (r.extraction last).emails.length = r.emailAddresses.length := by
  simp [ContactRecord.extraction, Table.length_saved]

@[simp]
theorem length_extraction_identities :
    (r.extraction last).identities.length = r.identifiers.length := by
  simp [ContactRecord.extraction, Table.length_saved]

@[simp]
theorem length_extraction_restrictions :
    (r.extraction last).restrictions.length = r.restrictions.length := by
  simp [ContactRecord.extraction, Table.length_saved]

@[simp]
theorem length_extraction_employments :
    (r.extraction last).employments.length = r.employments.length := by
  simp [ContactRecord.extraction, Table.length_saved]

@[simp]
theorem length_extraction_addresses : (r.extraction last).addresses.length = r.addresses.length := by
  simp [ContactRecord.extraction, Table.length_saved]

@[simp]
theorem length_extraction_addressPhones :
    (r.extraction last).addressPhones.length = r.addresses.length := by
  rw [← (extraction_links r last).length_eq, List.length_zip, length_extraction_addresses, min_self]

@[simp]
theorem length_extraction_relationships :
    (r.extraction last).relationships.length = r.contacts.length := by
  simp [ContactRecord.extraction, Table.length_saved]

@[simp]
theorem length_extraction_relationshipRestrictions :
    (r.extraction last).relationshipRestrictions.length = r.contacts.length := by
  rw [← (extraction_restrictionsOf r last).length_eq, List.length_zip,
    length_extraction_relationships, min_self]

/-- What each address's links say of its own phone numbers holds of all the links, address after
address: they follow the phone numbers of the record's addresses, under the contact. -/
theorem extraction_links_flatMap {γ : Type} (F : Correlated AddressPhone → γ) (G : Int → Phone → γ)
    (each : ∀ address numbers children, LinksOf address numbers children →
      children.map F = numbers.map (G address.contactId)) :
    (r.extraction last).addressPhones.flatMap (·.children.map F) =
      r.addresses.flatMap (·.phoneNumbers.map (G r.personId)) := by
  calc _ = ((r.extraction last).addresses.zip r.addresses).flatMap
          (fun pair => pair.2.phoneNumbers.map (G pair.1.entity.contactId)) :=
        Eq.symm (flatMap_eq_of_forall₂
          (fun pair n linked => (each pair.1.entity pair.2.phoneNumbers n.children linked).symm)
          (extraction_links r last))
    _ = _ := by
        -- every saved address belongs to the contact
        rw [extraction_addresses]
        refine Table.addresses.flatMap_zip_saved_of
          (fun e (a : Address) => a.phoneNumbers.map (G e.contactId)) (fun _ _ => ?_) _ _
        rfl

/-- The phone rows of address phones hold the numbers of the record's addresses, in order. -/
theorem extraction_addressPhone_rows :
    ((r.extraction last).addressPhones.flatMap (·.children.map (·.entity.phone))).map
        (Table.phones.withId · 0) =
      (r.addresses.flatMap (·.phoneNumbers)).map (·.row r.personId) := by
  simp only [List.map_flatMap, List.map_map]
  exact extraction_links_flatMap r last _ (fun c p => p.row c) fun _ _ _ linked => linked.phones

/-- The links of address phones name the phone rows saved with them. -/
theorem extraction_addressPhone_phoneIds :
    ((r.extraction last).addressPhones.flatMap (·.children.map (·.entity.phone))).map (·.id) =
      ((r.extraction last).addressPhones.flatMap (·.children.map (·.entity.link))).map
        (·.phoneId) := by
  simp only [List.map_flatMap, List.map_map]
  refine List.flatMap_congr fun n mem => List.map_congr_left fun x below => ?_
  obtain ⟨pair, -, phone, link, children⟩ := mem_savedLinks mem
  rw [children] at below
  exact ((linksOf_savedAddressPhones _ _ phone link).phoneIds x below).symm

/-- The phone rows of address phones, with the ids their links name. -/
theorem extraction_addressPhone_phones :
    Table.phones.Stores ((r.extraction last).addressPhones.flatMap (·.children.map (·.entity.phone)))
      (((r.extraction last).addressPhones.flatMap (·.children.map (·.entity.link))).map (·.phoneId))
      ((r.addresses.flatMap (·.phoneNumbers)).map (·.row r.personId)) :=
  ⟨extraction_addressPhone_phoneIds r last, extraction_addressPhone_rows r last⟩

/-- The links of address phones name the address they were saved under. -/
theorem extraction_addressPhone_addressIds :
    ((r.extraction last).addressPhones.flatMap (·.children.map (·.entity.link))).map
        (·.addressId) =
      (assemble (r.extraction last)).addresses.flatMap
        fun a => a.phones.map fun _ => a.address.destinationId := by
  rw [assemble_addresses, List.flatMap_map, List.map_flatMap]
  simp only [List.map_map]
  exact flatMap_children_name_parents .address AddressRow.id .addressPhone (·.link.id)
    (·.link.addressId) (by simp) ((extraction_links r last).imp fun _ _ linked => linked.addressIds)

/-- The links of address phones belong to the contact and keep the numbers' audits. -/
theorem extraction_addressPhone_owners :
    ((r.extraction last).addressPhones.flatMap (·.children.map (·.entity.link))).map
        (fun l => (l.contactId, l.audit)) =
      (r.addresses.flatMap (·.phoneNumbers)).map fun p => (r.personId, p.audit) := by
  simp only [List.map_flatMap, List.map_map]
  exact extraction_links_flatMap r last _ (fun c p => (c, p.audit)) fun _ _ _ linked => linked.owners

/-- The restrictions of relationships name the relationship they were saved under. -/
theorem extraction_relationshipRestriction_parents :
    ((r.extraction last).relationshipRestrictions.flatMap (·.children.map (·.entity))).map
        (·.relationshipId) =
      (assemble (r.extraction last)).relationships.flatMap
        fun x => x.restrictions.map fun _ => x.relationship.destinationId := by
  rw [assemble_relationships, List.flatMap_map, List.map_flatMap]
  simp only [List.map_map]
  exact flatMap_children_name_parents .prisonerContact RelationshipRow.id .prisonerContactRestriction
    RelationshipRestrictionRow.id (·.relationshipId) (by simp)
    ((extraction_restrictionsOf r last).imp fun _ _ restricted => restricted.parents)

/-- The restrictions of relationships are the record's, in order. -/
theorem extraction_relationshipRestriction_rows :
    ((r.extraction last).relationshipRestrictions.flatMap (·.children.map (·.entity))).map
        (fun x => { x with id := 0, relationshipId := 0 }) =
      (r.contacts.flatMap (·.restrictions)).map (·.row 0) := by
  calc _ = (r.extraction last).relationshipRestrictions.flatMap
          (fun n => n.children.map fun x => { x.entity with id := 0, relationshipId := 0 }) := by
        simp only [List.map_flatMap, List.map_map]
        rfl
    _ = ((r.extraction last).relationships.zip r.contacts).flatMap
          (fun pair => pair.2.restrictions.map (·.row 0)) :=
        Eq.symm (flatMap_eq_of_forall₂ (fun _ _ restricted => restricted.rows.symm)
          (extraction_restrictionsOf r last))
    _ = r.contacts.flatMap (fun c => c.restrictions.map (·.row 0)) :=
        flatMap_zip_snd (fun (c : Relationship) => c.restrictions.map (·.row 0)) (by simp)
    _ = _ := by rw [List.map_flatMap]

theorem assemble_address_ids :
    (assemble (r.extraction last)).addresses.map (·.address.destinationId) =
      (pairs .address AddressRow.id (r.extraction last).addresses).map (·.destinationId) := by
  rw [assemble_addresses, List.map_map]
  exact map_zip_fst IdPair.destinationId (by simp [pairs])

theorem assemble_relationship_ids :
    (assemble (r.extraction last)).relationships.map (·.relationship.destinationId) =
      (pairs .prisonerContact RelationshipRow.id (r.extraction last).relationships).map
        (·.destinationId) := by
  rw [assemble_relationships, List.map_map]
  exact map_zip_fst IdPair.destinationId (by simp [pairs])

/-- The rows an extraction saves agree with the report made of it. -/
theorem extraction_agrees :
    (Aggregate.ofRows r.contactRow (r.extraction last).rows).Agrees
      (assemble (r.extraction last)) r where
  contact := rfl
  phones := by
    -- the contact's own phones come first, then the phone rows of its address phones
    have own : Table.phones.Stores ((r.extraction last).phones.map (·.entity))
        ((assemble (r.extraction last)).phoneNumbers.map (·.destinationId))
        (r.phoneNumbers.map (·.row r.personId)) :=
      Table.phones.stores_saved .phone r.phoneNumbers _ (fun _ => rfl)
    exact own.append (extraction_addressPhone_phones r last)
  addresses := by
    rw [assemble_address_ids]
    exact Table.addresses.stores_saved .address r.addresses _ (fun _ => rfl)
  addressPhones := by
    rw [assemble_addresses, List.flatMap_map]
    refine Eq.trans ?_
      (flatMap_reported_children .address AddressRow.id .addressPhone
        (fun p : AddressPhone => p.link.id) (by simp)).symm
    simp only [Aggregate.ofRows, Extracted.rows, List.map_flatMap, List.map_map]
    rfl
  addressPhoneAddresses := extraction_addressPhone_addressIds r last
  addressPhoneRows := extraction_addressPhone_owners r last
  emails := Table.emails.stores_saved .email r.emailAddresses _ (fun _ => rfl)
  identities := Table.identities.stores_saved .identity r.identifiers _ (fun _ => rfl)
  restrictions := Table.restrictions.stores_saved .restriction r.restrictions _ (fun _ => rfl)
  employments := Table.employments.stores_saved .employment r.employments _ (fun _ => rfl)
  relationships := by
    rw [assemble_relationship_ids]
    exact Table.relationships.stores_saved .prisonerContact r.contacts _ (fun _ => rfl)
  relationshipRestrictions := by
    rw [assemble_relationships, List.flatMap_map]
    refine Eq.trans ?_ (flatMap_reported_children .prisonerContact RelationshipRow.id
      .prisonerContactRestriction RelationshipRestrictionRow.id (by simp)).symm
    simp only [Aggregate.ofRows, Extracted.rows, List.map_flatMap, List.map_map]
    rfl
  relationshipRestrictionParents := extraction_relationshipRestriction_parents r last
  relationshipRestrictionRows := extraction_relationshipRestriction_rows r last

end Extraction

/-- After a successful migration of `r`, from any reachable migrator, the store holds an aggregate
for `r.personId` and it agrees with the report. -/
theorem migrated_aggregate_agrees_with_report {m : Migrator} {r : ContactRecord} {M : Migrated}
    (reachable : m.Reachable) (succeeded : (m.migrate r).1 = .ok M) :
    ∃ A, (m.migrate r).2.store.aggregate? r.personId = some A ∧ A.Agrees M.report r := by
  obtain ⟨-, -, ran, -⟩ := Migrator.migrate_of_ok succeeded
  have consistent := reachable.consistent
  obtain ⟨rfl, -, -⟩ := migration_ok consistent ran
  exact ⟨_, (aggregate?_after_migration consistent ran).1, extraction_agrees r _⟩

/-- Person 7 with a phone, an address with a phone of its own, and a relationship with one
restriction. -/
def nestedRecord : ContactRecord :=
  { (default : ContactRecord) with
    personId := 7, lastName := "Okafor", firstName := "Ada"
    phoneNumbers := [{ (default : Record.Phone) with phoneId := 70, number := "0114" }]
    addresses := [{ (default : Record.Address) with
      addressId := 71
      phoneNumbers := [{ (default : Record.Phone) with phoneId := 72, number := "0115" }] }]
    contacts := [{ (default : Record.Relationship) with
      id := 73
      restrictions := [{ (default : Record.RelationshipRestriction) with id := 74 }] }] }

/-- A fresh store whose ids start at 100. -/
def freshMigrator : Migrator := { store := ({} : Tables).seed 99, threshold := 100 }

theorem nested_record_reads_back_as_reported :
    ∃ A, (freshMigrator.migrate nestedRecord).2.store.aggregate? nestedRecord.personId = some A ∧
      A.Agrees (assemble (nestedRecord.extraction fun _ => 99)) nestedRecord := by
  have fresh : Tables.fresh? 100 = some (({} : Tables).seed 99) := by cbv
  have ran : (freshMigrator.migrate nestedRecord).1 =
      .ok ⟨false, assemble (nestedRecord.extraction fun _ => 99)⟩ := by cbv
  have reachable : freshMigrator.Reachable := .fresh none fresh
  exact migrated_aggregate_agrees_with_report reachable ran

end Migration

end ContactMigration
