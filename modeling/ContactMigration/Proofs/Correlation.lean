import ContactMigration.Proofs.Agreement
import ContactMigration.Record.SourceIds

/-!
# The report follows the record

A migration reports every element of the record it saved, tagged with the element's kind and
source id. With the new ids erased the report is the record itself: one entry per element, in
record order, each nested entry under the parent it came with (`Report.Mirrors`), and the
report's entries in sequence are the record's source ids (`Report.Mirrors.entries`).

This holds of every successful run, from any store and whatever ids the store hands out: each
stage of the extraction saves one row per item of its list and tags it with the item's source id
(`Extracted.Follows`). In particular the rows nested under parents are listed in the order of
the parents they are zipped with when the report is assembled (`Extracted.Aligned`).

Main statement: `report_mirrors_record`.
-/

namespace ContactMigration

open Store Record Migration Work

section Lists

variable {α β γ δ ε : Type}

theorem map_eq_map_of_forall₂ {f : α → γ} {g : β → γ} :
    ∀ {xs : List α} {ys : List β}, List.Forall₂ (fun x y => g y = f x) xs ys →
      ys.map g = xs.map f
  | [], [], .nil => rfl
  | _ :: _, _ :: _, .cons same rest => by
    rw [List.map_cons, List.map_cons, same, map_eq_map_of_forall₂ rest]

/-- Two lists that are images of one list zip into the image of that list. -/
theorem map_zip_of_map_eq {f : α → δ} {g : β → ε} {F : γ → δ} {G : γ → ε} :
    ∀ {l : List γ} {l₁ : List α} {l₂ : List β}, l₁.map f = l.map F → l₂.map g = l.map G →
      (l₁.zip l₂).map (fun p => (f p.1, g p.2)) = l.map fun c => (F c, G c)
  | [], _, _, first, second => by
    rw [List.map_nil, List.map_eq_nil_iff] at first second
    subst first second
    rfl
  | c :: cs, _, _, first, second => by
    rw [List.map_cons] at first second
    obtain ⟨x, xs, rfl, headFirst, restFirst⟩ := List.map_eq_cons_iff.mp first
    obtain ⟨y, ys, rfl, headSecond, restSecond⟩ := List.map_eq_cons_iff.mp second
    simp only [List.zip_cons_cons, List.map_cons, headFirst, headSecond,
      map_zip_of_map_eq restFirst restSecond]

theorem map_pair_of_map_eq {f : α → γ} {g : β → γ} {xs : List α} {ys : List β} (tag : δ)
    (same : xs.map f = ys.map g) : xs.map (fun x => (tag, f x)) = ys.map fun y => (tag, g y) := by
  have tagged := congrArg (List.map (Prod.mk tag)) same
  simpa only [List.map_map, Function.comp_def] using tagged

end Lists

namespace Migration

/-- The kind and source id of a report entry: the entry with its new id erased. -/
def IdPair.source (p : IdPair) : ElementKind × Int := (p.kind, p.sourceId)

@[simp]
theorem map_source_pairs {α : Type} (kind : ElementKind) (id : α → Int)
    (items : List (Correlated α)) :
    (pairs kind id items).map IdPair.source = items.map fun c => (kind, c.sourceId) := by
  simp [pairs, IdPair.source]

/-! ## Extractions that follow a record -/

/-- An extraction follows record `r`: each list of saved rows has one row per item of the
record's list, in order, tagged with the item's source id, and the rows nested under a parent
are listed under that parent's source id. -/
structure Extracted.Follows (e : Extracted) (r : ContactRecord) : Prop where
  phones : e.phones.map (·.sourceId) = r.phoneNumbers.map (·.phoneId)
  addresses : e.addresses.map (·.sourceId) = r.addresses.map (·.addressId)
  addressParents : e.addressPhones.map (·.parentSourceId) = r.addresses.map (·.addressId)
  addressPhones : e.addressPhones.map (·.children.map (·.sourceId)) =
    r.addresses.map (·.phoneNumbers.map (·.phoneId))
  emails : e.emails.map (·.sourceId) = r.emailAddresses.map (·.emailAddressId)
  identities : e.identities.map (·.sourceId) = r.identifiers.map (·.sequence)
  restrictions : e.restrictions.map (·.sourceId) = r.restrictions.map (·.id)
  employments : e.employments.map (·.sourceId) = r.employments.map (·.sequence)
  relationships : e.relationships.map (·.sourceId) = r.contacts.map (·.id)
  relationshipParents : e.relationshipRestrictions.map (·.parentSourceId) = r.contacts.map (·.id)
  relationshipRestrictions : e.relationshipRestrictions.map (·.children.map (·.sourceId)) =
    r.contacts.map (·.restrictions.map (·.id))

/-- The rows nested under parents are listed parent by parent, under the parents' source ids, so
zipping the parents with them pairs each parent with its own rows and drops none. -/
structure Extracted.Aligned (e : Extracted) : Prop where
  addresses : e.addressPhones.map (·.parentSourceId) = e.addresses.map (·.sourceId)
  relationships :
    e.relationshipRestrictions.map (·.parentSourceId) = e.relationships.map (·.sourceId)

theorem Extracted.Follows.aligned {e : Extracted} {r : ContactRecord} (follows : e.Follows r) :
    e.Aligned :=
  ⟨follows.addressParents.trans follows.addresses.symm,
    follows.relationshipParents.trans follows.relationships.symm⟩

/-! ## Every run tags its rows -/

section Runs

variable {α β : Type}

/-- Saving a list of items gives one row per item, in order, tagged with the item's source id. -/
theorem extractEach_tags (contactId : Int) (kind : ElementKind) (save : Port β)
    (sourceId : α → Int) (row : α → β) (items : List α) :
    Triple (fun _ => True) (extractEach contactId kind save sourceId row items)
      fun out _ => out.map (·.sourceId) = items.map sourceId := by
  have each : ∀ item ∈ items, Triple (fun _ => True)
      (Work.attempt contactId kind (save · (row item)) >>= fun entity =>
        pure (⟨sourceId item, entity⟩ : Correlated β))
      fun c _ => True ∧ c.sourceId = sourceId item := fun item _ =>
    Triple.bind (Triple.attempt fun _ _ _ _ _ => trivial) fun _ =>
      Triple.pure _ fun _ _ => ⟨trivial, rfl⟩
  exact (Triple.mapM (fun item (c : Correlated β) => c.sourceId = sourceId item) items each).mono
    (fun _ _ => trivial) fun _ _ tagged => map_eq_map_of_forall₂ tagged.2

theorem extractAddressPhone_tags (address : AddressRow) (p : Phone) :
    Triple (fun _ => True) (extractAddressPhone address p)
      fun c _ => True ∧ c.sourceId = p.phoneId :=
  Triple.bind (Triple.step fun _ _ _ _ _ => trivial) fun _ =>
    Triple.bind (Triple.step fun _ _ _ _ _ => trivial) fun _ =>
      Triple.pure _ fun _ _ => ⟨trivial, rfl⟩

/-- The phones of saved addresses are listed address by address, under each address's source id,
each tagged with its number's source id. -/
theorem extractAddressPhones_tags (addresses : List (Correlated AddressRow))
    (sources : List Address) :
    Triple (fun _ => True) (extractAddressPhones addresses sources) fun out _ =>
      out.map (·.parentSourceId) = (addresses.zip sources).map (·.1.sourceId) ∧
        out.map (·.children.map (·.sourceId)) =
          (addresses.zip sources).map (·.2.phoneNumbers.map (·.phoneId)) := by
  let underParent := fun (pair : Correlated AddressRow × Address) (n : Nested AddressPhone) =>
    n.parentSourceId = pair.1.sourceId ∧
      n.children.map (·.sourceId) = pair.2.phoneNumbers.map (·.phoneId)
  refine (Triple.mapM underParent _ ?_).mono (fun _ _ => trivial) fun _ _ listed =>
    ⟨map_eq_map_of_forall₂ (listed.2.imp fun _ _ under => under.1),
      map_eq_map_of_forall₂ (listed.2.imp fun _ _ under => under.2)⟩
  -- one address: an inner loop over its numbers, listed under the address's source id
  rintro ⟨address, source⟩ -
  refine Triple.bind ((Triple.mapM (fun (p : Phone) (c : Correlated AddressPhone) =>
    c.sourceId = p.phoneId) source.phoneNumbers fun p _ => extractAddressPhone_tags _ p)) ?_
  exact fun _ => Triple.pure _ fun _ tagged => ⟨trivial, rfl, map_eq_map_of_forall₂ tagged.2⟩

/-- The restrictions of saved relationships are listed relationship by relationship, under each
relationship's source id, each tagged with its own source id. -/
theorem extractRelationshipRestrictions_tags (relationships : List (Correlated RelationshipRow))
    (sources : List Relationship) :
    Triple (fun _ => True) (extractRelationshipRestrictions relationships sources) fun out _ =>
      out.map (·.parentSourceId) = (relationships.zip sources).map (·.1.sourceId) ∧
        out.map (·.children.map (·.sourceId)) =
          (relationships.zip sources).map (·.2.restrictions.map (·.id)) := by
  let underParent :=
    fun (pair : Correlated RelationshipRow × Relationship) (n : Nested RelationshipRestrictionRow) =>
      n.parentSourceId = pair.1.sourceId ∧
        n.children.map (·.sourceId) = pair.2.restrictions.map (·.id)
  refine (Triple.mapM underParent _ ?_).mono (fun _ _ => trivial) fun _ _ listed =>
    ⟨map_eq_map_of_forall₂ (listed.2.imp fun _ _ under => under.1),
      map_eq_map_of_forall₂ (listed.2.imp fun _ _ under => under.2)⟩
  rintro ⟨relationship, source⟩ -
  exact Triple.bind (extractEach_tags _ _ _ _ _ _) fun _ =>
    Triple.pure _ fun _ tagged => ⟨trivial, rfl, tagged⟩

end Runs

/-- Nested rows zipped with parents saved from the same sources are listed under those
parents' source ids, one list per parent. -/
theorem map_zip_parents {α β : Type} {parents : List (Correlated α)} {sources : List β}
    {sourceId : β → Int} (tagged : parents.map (·.sourceId) = sources.map sourceId) :
    (parents.zip sources).map (·.1.sourceId) = sources.map sourceId ∧
      ∀ children : β → List Int, (parents.zip sources).map (children ·.2) = sources.map children := by
  have sameLength : parents.length = sources.length := by
    simpa using congrArg List.length tagged
  exact ⟨(map_zip_fst (·.sourceId) sameLength.le).trans tagged,
    fun children => map_zip_snd children sameLength.ge⟩

/-- Every successful run of the stages beneath a contact follows the record. -/
theorem extractChildren_follows (contact : Correlated ContactRow) (r : ContactRecord) :
    Triple (fun _ => True) (extractChildren contact r)
      fun e _ => e.contact = contact ∧ e.Follows r := by
  intro s e s' _ ran
  obtain ⟨phones, s₁, phonesRan, ran⟩ := runOn_bind_eq_ok.mp ran
  obtain ⟨addresses, s₂, addressesRan, ran⟩ := runOn_bind_eq_ok.mp ran
  obtain ⟨addressPhones, s₃, addressPhonesRan, ran⟩ := runOn_bind_eq_ok.mp ran
  obtain ⟨emails, s₄, emailsRan, ran⟩ := runOn_bind_eq_ok.mp ran
  obtain ⟨identities, s₅, identitiesRan, ran⟩ := runOn_bind_eq_ok.mp ran
  obtain ⟨restrictions, s₆, restrictionsRan, ran⟩ := runOn_bind_eq_ok.mp ran
  obtain ⟨employments, s₇, employmentsRan, ran⟩ := runOn_bind_eq_ok.mp ran
  obtain ⟨relationships, s₈, relationshipsRan, ran⟩ := runOn_bind_eq_ok.mp ran
  obtain ⟨relationshipRestrictions, s₉, relationshipRestrictionsRan, ran⟩ :=
    runOn_bind_eq_ok.mp ran
  simp only [runOn_pure, Prod.mk.injEq, Except.ok.injEq] at ran
  obtain ⟨rfl, rfl⟩ := ran
  have addressesTagged := extractEach_tags _ _ _ _ _ _ trivial addressesRan
  have relationshipsTagged := extractEach_tags _ _ _ _ _ _ trivial relationshipsRan
  obtain ⟨addressParents, addressPhonesTagged⟩ :=
    extractAddressPhones_tags _ _ trivial addressPhonesRan
  obtain ⟨relationshipParents, relationshipRestrictionsTagged⟩ :=
    extractRelationshipRestrictions_tags _ _ trivial relationshipRestrictionsRan
  -- the nested stages zip their parents with the record's lists, which have the same length
  obtain ⟨addressIds, addressChildren⟩ := map_zip_parents addressesTagged
  obtain ⟨relationshipIds, relationshipChildren⟩ := map_zip_parents relationshipsTagged
  refine ⟨rfl, extractEach_tags _ _ _ _ _ _ trivial phonesRan, addressesTagged, ?_, ?_,
    extractEach_tags _ _ _ _ _ _ trivial emailsRan,
    extractEach_tags _ _ _ _ _ _ trivial identitiesRan,
    extractEach_tags _ _ _ _ _ _ trivial restrictionsRan,
    extractEach_tags _ _ _ _ _ _ trivial employmentsRan, relationshipsTagged, ?_, ?_⟩
  · exact addressParents.trans addressIds
  · exact addressPhonesTagged.trans (addressChildren (·.phoneNumbers.map (·.phoneId)))
  · exact relationshipParents.trans relationshipIds
  · exact relationshipRestrictionsTagged.trans (relationshipChildren (·.restrictions.map (·.id)))

/-! ## The report of an extraction that follows the record -/

/-- A report mirrors record `r`: with the new ids erased, it lists the record's elements by kind
and source id, in record order, each nested element under its own parent. -/
structure Report.Mirrors (R : Report) (r : ContactRecord) : Prop where
  contact : R.contact = ⟨.contact, r.personId, r.personId⟩
  lastName : R.lastName = r.lastName
  dateOfBirth : R.dateOfBirth = r.dateOfBirth
  phoneNumbers : R.phoneNumbers.map IdPair.source = r.phoneNumbers.map fun p => (.phone, p.phoneId)
  addresses : R.addresses.map (fun a => (a.address.source, a.phones.map IdPair.source)) =
    r.addresses.map fun a =>
      ((.address, a.addressId), a.phoneNumbers.map fun p => (.addressPhone, p.phoneId))
  emails : R.emails.map IdPair.source = r.emailAddresses.map fun e => (.email, e.emailAddressId)
  identities : R.identities.map IdPair.source = r.identifiers.map fun i => (.identity, i.sequence)
  restrictions :
    R.restrictions.map IdPair.source = r.restrictions.map fun x => (.restriction, x.id)
  employments :
    R.employments.map IdPair.source = r.employments.map fun x => (.employment, x.sequence)
  relationships :
    R.relationships.map (fun x => (x.relationship.source, x.restrictions.map IdPair.source)) =
      r.contacts.map fun c =>
        ((.prisonerContact, c.id), c.restrictions.map fun x => (.prisonerContactRestriction, x.id))

/-- Nested report entries, new ids erased, list each parent's kind and source id with its
children's, when parents and children are tagged with the source ids of the same items. -/
theorem map_source_nested {α β γ : Type} (parentKind kind : ElementKind) (parentId : α → Int)
    (id : β → Int) {parents : List (Correlated α)} {children : List (Nested β)}
    {sources : List γ} {sourceId : γ → Int} {childIds : γ → List Int}
    (parentsTagged : parents.map (·.sourceId) = sources.map sourceId)
    (childrenTagged : children.map (·.children.map (·.sourceId)) = sources.map childIds) :
    ((pairs parentKind parentId parents).zip children).map
        (fun p => (p.1.source, (pairs kind id p.2.children).map IdPair.source)) =
      sources.map fun c => ((parentKind, sourceId c), (childIds c).map (kind, ·)) := by
  have parentsListed : (pairs parentKind parentId parents).map IdPair.source =
      sources.map fun c => (parentKind, sourceId c) := by
    rw [map_source_pairs]
    exact map_pair_of_map_eq parentKind parentsTagged
  have childrenListed : children.map (fun n => (pairs kind id n.children).map IdPair.source) =
      sources.map fun c => (childIds c).map (kind, ·) := by
    have listed := congrArg (List.map (List.map (Prod.mk kind))) childrenTagged
    simpa only [map_source_pairs, List.map_map, Function.comp_def] using listed
  exact map_zip_of_map_eq parentsListed childrenListed

/-- The report of an extraction of `r`'s contact that follows `r` mirrors `r`. -/
theorem assemble_mirrors {e : Extracted} {r : ContactRecord}
    (contact : e.contact = ⟨r.personId, r.contactRow⟩) (follows : e.Follows r) :
    (assemble e).Mirrors r := by
  have person : (assemble e).contact = ⟨.contact, r.personId, r.personId⟩ ∧
      (assemble e).lastName = r.lastName ∧ (assemble e).dateOfBirth = r.dateOfBirth := by
    simp [assemble, contact, ContactRecord.contactRow]
  refine ⟨person.1, person.2.1, person.2.2, ?_, ?_, ?_, ?_, ?_, ?_, ?_⟩
  · simpa [assemble] using map_pair_of_map_eq ElementKind.phone follows.phones
  · simp only [assemble_addresses, List.map_map, Function.comp_def]
    refine (map_source_nested .address .addressPhone _ _ follows.addresses
      follows.addressPhones).trans ?_
    simp [Function.comp_def]
  · simpa [assemble] using map_pair_of_map_eq ElementKind.email follows.emails
  · simpa [assemble] using map_pair_of_map_eq ElementKind.identity follows.identities
  · simpa [assemble] using map_pair_of_map_eq ElementKind.restriction follows.restrictions
  · simpa [assemble] using map_pair_of_map_eq ElementKind.employment follows.employments
  · simp only [assemble_relationships, List.map_map, Function.comp_def]
    refine (map_source_nested .prisonerContact .prisonerContactRestriction _ _
      follows.relationships follows.relationshipRestrictions).trans ?_
    simp [Function.comp_def]

/-- A report that mirrors `r` lists, entry after entry, exactly the source ids of `r`. -/
theorem Report.Mirrors.entries {R : Report} {r : ContactRecord} (mirrors : R.Mirrors r) :
    R.entries.map IdPair.source = r.sourceIds := by
  -- a parent entry followed by its children is the flattening of the mirrored pairs
  have addresses : (R.addresses.flatMap fun a => a.address :: a.phones).map IdPair.source =
      r.addresses.flatMap Record.Address.sourceIds := by
    calc _ = (R.addresses.map fun a => (a.address.source, a.phones.map IdPair.source)).flatMap
            (fun p => p.1 :: p.2) := by
          simp [List.map_flatMap, List.flatMap_map]
      _ = _ := by
          rw [mirrors.addresses, List.flatMap_map]
          rfl
  have relationships :
      (R.relationships.flatMap fun x => x.relationship :: x.restrictions).map IdPair.source =
        r.contacts.flatMap Record.Relationship.sourceIds := by
    calc _ = (R.relationships.map fun x => (x.relationship.source,
            x.restrictions.map IdPair.source)).flatMap (fun p => p.1 :: p.2) := by
          simp [List.map_flatMap, List.flatMap_map]
      _ = _ := by
          rw [mirrors.relationships, List.flatMap_map]
          rfl
  simp only [Report.entries, ContactRecord.sourceIds, List.map_append, addresses, relationships,
    mirrors.phoneNumbers, mirrors.emails, mirrors.identities, mirrors.restrictions,
    mirrors.employments, List.map_cons, List.map_nil, mirrors.contact, IdPair.source]

/-! ## Every successful migration -/

theorem extractContact_returns (r : ContactRecord) :
    Triple (fun _ => True) (extractContact r) fun c _ => c = ⟨r.personId, r.contactRow⟩ := by
  intro s c s' _ ran
  obtain ⟨_, s₁, -, ran⟩ := runOn_bind_eq_ok.mp ran
  simp only [runOn_pure, Prod.mk.injEq, Except.ok.injEq] at ran
  exact ran.1.symm

/-- The report of a successful migration of `r` mirrors `r`. -/
theorem migration_mirrors {r : ContactRecord} {s s' : Tables} {M : Migrated}
    (ran : (migration r).runOn s = (.ok M, s')) : M.report.Mirrors r := by
  obtain ⟨replaced, s₁, -, ran⟩ := runOn_bind_eq_ok.mp ran
  obtain ⟨contact, s₂, contactRan, ran⟩ := runOn_bind_eq_ok.mp ran
  obtain ⟨e, s₃, childrenRan, ran⟩ := runOn_bind_eq_ok.mp ran
  simp only [runOn_pure, Prod.mk.injEq, Except.ok.injEq] at ran
  obtain ⟨rfl, -⟩ := ran
  obtain rfl := extractContact_returns r trivial contactRan
  obtain ⟨saved, follows⟩ := extractChildren_follows _ r trivial childrenRan
  exact assemble_mirrors saved follows

/-- From any migrator, a successful migration of `r` reports `r`'s elements by kind and source
id, in record order and each under its own parent; the report's entries are `r`'s source ids;
and every run of the stages beneath a contact lists nested rows under the parents they are
zipped with. -/
theorem report_mirrors_record {m : Migrator} {r : ContactRecord} {M : Migrated}
    (succeeded : (m.migrate r).1 = .ok M) :
    M.report.Mirrors r ∧ M.report.entries.map IdPair.source = r.sourceIds ∧
      ∀ (contact : Correlated ContactRow) (s s' : Tables) (e : Extracted),
        (extractChildren contact r).runOn s = (.ok e, s') → e.Aligned := by
  have mirrors := migration_mirrors (Migrator.migrate_of_ok succeeded).2.2.1
  exact ⟨mirrors, mirrors.entries, fun contact s s' e ran =>
    (extractChildren_follows contact r trivial ran).2.aligned⟩

theorem nested_record_report_mirrors_record :
    let R := assemble (nestedRecord.extraction fun _ => 99)
    R.Mirrors nestedRecord ∧ R.entries.map IdPair.source = nestedRecord.sourceIds ∧
      ∀ (contact : Correlated ContactRow) (s s' : Tables) (e : Extracted),
        (extractChildren contact nestedRecord).runOn s = (.ok e, s') → e.Aligned := by
  have ran : (freshMigrator.migrate nestedRecord).1 =
      .ok ⟨false, assemble (nestedRecord.extraction fun _ => 99)⟩ := by cbv
  exact report_mirrors_record ran

end Migration

end ContactMigration
