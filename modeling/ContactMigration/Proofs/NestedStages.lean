import ContactMigration.Proofs.Loops
import ContactMigration.Proofs.Table

/-!
# Children saved under their parents' new ids

Two kinds of elements are saved after their parents, because their rows point at the parents'
new ids: the restrictions of a relationship and the phones of an address. Their stages pair the
saved parents with the record's lists in order, so the shorter of the two decides how many
parents are visited, and for each parent in turn they save its children one after another
(`underParent`).

For every store, such a stage succeeds exactly when every child of every visited parent is saved,
parent after parent, and it then lists one entry per parent under the parent's source id, each
child with its own source id and the row the store gave back (`RestrictionsSaved`,
`PhonesLinked`). A restriction's row points at its relationship's new id. A phone is saved as a
phone row under the address's contact and then as a link from the address's new id to the phone
row just saved. Otherwise the stage stops at the first save the store refuses, having saved
exactly what came before it (`RestrictionRefused`, `PhoneLinkRefused`).

Main statement: `nested_stages_save_under_new_parent_ids`.
-/

namespace ContactMigration.Migration

open Store Record Work

/-! ## The shape of a second stage -/

section Nested

variable {π γ δ β : Type} (children : γ → List δ) (work : π → δ → Work (Correlated β))

/-- The work of one saved parent paired with its source: the work of each of its children in
turn, listed under the parent's source id. -/
def underParent (q : Correlated π × γ) : Work (Nested β) := do
  let saved ← (children q.2).mapM (work q.1.entity)
  pure ⟨q.1.sourceId, saved⟩

variable {children work}

theorem underParent_eq_ok {q : Correlated π × γ} {s s' : Tables} {n : Nested β} :
    Succeeds (underParent children work) q s n s' ↔
      n.parentSourceId = q.1.sourceId ∧ Stepwise (Succeeds (work q.1.entity)) (children q.2) s n.children s' := by
  unfold Succeeds underParent
  rw [runOn_bind_eq_ok]
  constructor
  · rintro ⟨saved, s₁, loop, returned⟩
    simp only [runOn_pure, Prod.mk.injEq, Except.ok.injEq] at returned
    obtain ⟨rfl, rfl⟩ := returned
    exact ⟨rfl, runOn_mapM_eq_ok.mp loop⟩
  · rintro ⟨parent, loop⟩
    exact ⟨n.children, s', runOn_mapM_eq_ok.mpr loop, by cases n; cases parent; rfl⟩

theorem underParent_eq_error {q : Correlated π × γ} {s s' : Tables} {err : MigrationError} :
    (underParent children work q).runOn s = (.error err, s') ↔
      ((children q.2).mapM (work q.1.entity)).runOn s = (.error err, s') := by
  unfold underParent
  rw [runOn_bind]
  rcases (children q.2).mapM (work q.1.entity) |>.runOn s with ⟨e | saved, s₁⟩ <;> simp

end Nested

/-! ## Relationship restrictions -/

theorem extractRelationshipRestrictions_eq (relationships : List (Correlated RelationshipRow))
    (sources : List Relationship) :
    extractRelationshipRestrictions relationships sources =
      (relationships.zip sources).mapM (underParent (·.restrictions) fun parent =>
        saveItem parent.contactId .prisonerContactRestriction
          (Port.ofStore Tables.insertRelationshipRestriction) RelationshipRestriction.id
          (·.row parent.id)) :=
  rfl

/-- The restrictions of a saved relationship paired with its source, saved one after another
from `s` under the relationship's new id and ending in `s'`, reported as `n`: under the
relationship's source id, each restriction's source id with the row the store gave back, which
points at the relationship's new id. -/
def RestrictionsSaved (q : Correlated RelationshipRow × Relationship) (s : Tables)
    (n : Nested RelationshipRestrictionRow) (s' : Tables) : Prop :=
  n.parentSourceId = q.1.sourceId ∧
    (∃ saved, Accepts Tables.insertRelationshipRestriction
        (q.2.restrictions.map (·.row q.1.entity.id)) s saved s' ∧
      n.children = List.zipWith (fun r v => ⟨r.id, v⟩) q.2.restrictions saved) ∧
    ∀ c ∈ n.children, c.entity.relationshipId = q.1.entity.id

/-- The restrictions of a saved relationship paired with its source, saved from `s`: the store
takes the rows of those before restriction `r`, ending in `s'`, and refuses `r`'s row there. -/
def RestrictionRefused (q : Correlated RelationshipRow × Relationship) (s : Tables)
    (err : MigrationError) (s' : Tables) : Prop :=
  ∃ done r rest saved e, q.2.restrictions = done ++ r :: rest ∧
    Accepts Tables.insertRelationshipRestriction (done.map (·.row q.1.entity.id)) s saved s' ∧
    Tables.insertRelationshipRestriction s' (r.row q.1.entity.id) = .error e ∧
    err = .failed q.1.entity.contactId .prisonerContactRestriction (.store e)

/-- The store gives back a relationship's restriction rows with only their ids set, so every one
still points at the relationship. -/
theorem relationshipId_of_accepts {parent : RelationshipRow} :
    ∀ {restrictions : List RelationshipRestriction} {saved : List RelationshipRestrictionRow}
      {s s' : Tables},
      Accepts Tables.insertRelationshipRestriction (restrictions.map (·.row parent.id)) s saved s' →
      ∀ c ∈ List.zipWith (fun (r : RelationshipRestriction) v =>
        (⟨r.id, v⟩ : Correlated RelationshipRestrictionRow)) restrictions saved,
        c.entity.relationshipId = parent.id
  | [], _, _, _, _ => by simp
  | r :: rs, _, _, _, accepted => by
    obtain ⟨v, vs, s₁, rfl, inserted, later⟩ := Stepwise.cons_iff.mp accepted
    have given := (Table.relationshipRestrictions.insert_ok inserted).2.1
    intro c mem
    rcases List.mem_cons.mp mem with rfl | mem
    · rw [given]
      rfl
    · exact relationshipId_of_accepts later c mem

theorem restrictionsSaved_iff {q : Correlated RelationshipRow × Relationship} {s s' : Tables}
    {n : Nested RelationshipRestrictionRow} :
    Succeeds (underParent (·.restrictions) fun parent =>
        saveItem parent.contactId .prisonerContactRestriction
          (Port.ofStore Tables.insertRelationshipRestriction) RelationshipRestriction.id
          (·.row parent.id)) q s n s' ↔
      RestrictionsSaved q s n s' := by
  simp only [underParent_eq_ok, saveItem_stepwise, accepts_ofStore]
  constructor
  · rintro ⟨parent, saved, accepted, children⟩
    exact ⟨parent, ⟨saved, accepted, children⟩, children ▸ relationshipId_of_accepts accepted⟩
  · rintro ⟨parent, found, -⟩
    exact ⟨parent, found⟩

theorem restrictionRefused_iff {q : Correlated RelationshipRow × Relationship} {s s' : Tables}
    {err : MigrationError} :
    (underParent (·.restrictions) (fun parent =>
        saveItem parent.contactId .prisonerContactRestriction
          (Port.ofStore Tables.insertRelationshipRestriction) RelationshipRestriction.id
          (·.row parent.id)) q).runOn s = (.error err, s') ↔
      RestrictionRefused q s err s' := by
  rw [underParent_eq_error, saveItem_mapM_ofStore_eq_error]
  rfl

/-- The restrictions of saved relationships are saved, relationship after relationship, under
the relationships' new ids; a successful run lists them under each relationship's source id. -/
theorem extractRelationshipRestrictions_eq_ok {relationships : List (Correlated RelationshipRow)}
    {sources : List Relationship} {s s' : Tables} {out : List (Nested RelationshipRestrictionRow)} :
    (extractRelationshipRestrictions relationships sources).runOn s = (.ok out, s') ↔
      Stepwise RestrictionsSaved (relationships.zip sources) s out s' := by
  rw [extractRelationshipRestrictions_eq]
  exact runOn_mapM_eq_ok_of fun _ _ _ _ => restrictionsSaved_iff

/-- Saving the restrictions of saved relationships stops at the first restriction row the store
refuses, every relationship before having had all its restrictions saved. -/
theorem extractRelationshipRestrictions_eq_error
    {relationships : List (Correlated RelationshipRow)} {sources : List Relationship}
    {s s' : Tables} {err : MigrationError} :
    (extractRelationshipRestrictions relationships sources).runOn s = (.error err, s') ↔
      ∃ done q rest outs s₁, relationships.zip sources = done ++ q :: rest ∧
        Stepwise RestrictionsSaved done s outs s₁ ∧ RestrictionRefused q s₁ err s' := by
  rw [extractRelationshipRestrictions_eq]
  exact runOn_mapM_eq_error_of (fun _ _ _ _ => restrictionsSaved_iff)
    fun _ _ _ _ => restrictionRefused_iff

/-! ## Address phones -/

theorem extractAddressPhones_eq (addresses : List (Correlated AddressRow)) (sources : List Address) :
    extractAddressPhones addresses sources =
      (addresses.zip sources).mapM (underParent (·.phoneNumbers) extractAddressPhone) :=
  rfl

/-- Phone `p` of saved address `a`, saved from `s` and reported as `c`, ending in `s'`: the store
took the phone's row under the address's contact, then a link from the address to the phone row
it gave back, and the link as saved names the address's contact, the address and that phone
row. -/
def PhoneLinked (a : AddressRow) (p : Phone) (s : Tables) (c : Correlated AddressPhone)
    (s' : Tables) : Prop :=
  c.sourceId = p.phoneId ∧
    (∃ mid, Tables.insertPhone s (p.row a.contactId) = .ok (c.entity.phone, mid) ∧
      Tables.insertAddressPhone mid ⟨0, a.contactId, a.id, c.entity.phone.id, p.audit⟩ =
        .ok (c.entity.link, s')) ∧
    c.entity.link.contactId = a.contactId ∧ c.entity.link.addressId = a.id ∧
    c.entity.link.phoneId = c.entity.phone.id

/-- Phone `p` of saved address `a`, saved from `s`: the store refuses its phone row, or takes it,
ending in `s'`, and refuses the link to it; either refusal is reported at the address phone. -/
def PhoneRefused (a : AddressRow) (p : Phone) (s : Tables) (err : MigrationError) (s' : Tables) :
    Prop :=
  ∃ e, err = .failed a.contactId .addressPhone (.store e) ∧
    (Tables.insertPhone s (p.row a.contactId) = .error e ∧ s' = s ∨
      ∃ phone, Tables.insertPhone s (p.row a.contactId) = .ok (phone, s') ∧
        Tables.insertAddressPhone s' ⟨0, a.contactId, a.id, phone.id, p.audit⟩ = .error e)

/-- The phones of a saved address paired with its source, each linked in turn from `s`, ending in
`s'`, and listed as `n` under the address's source id. -/
def PhonesLinked (q : Correlated AddressRow × Address) (s : Tables) (n : Nested AddressPhone)
    (s' : Tables) : Prop :=
  n.parentSourceId = q.1.sourceId ∧ Stepwise (PhoneLinked q.1.entity) q.2.phoneNumbers s n.children s'

/-- The phones of a saved address paired with its source, linked in turn from `s` until phone `p`,
whose saving is refused. -/
def PhoneLinkRefused (q : Correlated AddressRow × Address) (s : Tables) (err : MigrationError)
    (s' : Tables) : Prop :=
  ∃ done p rest cs s₁, q.2.phoneNumbers = done ++ p :: rest ∧
    Stepwise (PhoneLinked q.1.entity) done s cs s₁ ∧ PhoneRefused q.1.entity p s₁ err s'

/-- One phone of a saved address at the store: its phone row, then the link to the row the store
gave back, either refusal reported at the address phone. -/
theorem runOn_extractAddressPhone (a : AddressRow) (p : Phone) (s : Tables) :
    (extractAddressPhone a p).runOn s =
      match Tables.insertPhone s (p.row a.contactId) with
      | .error e => (.error (.failed a.contactId .addressPhone (.store e)), s)
      | .ok (phone, mid) =>
        match Tables.insertAddressPhone mid ⟨0, a.contactId, a.id, phone.id, p.audit⟩ with
        | .error e => (.error (.failed a.contactId .addressPhone (.store e)), mid)
        | .ok (link, s') => (.ok ⟨p.phoneId, phone, link⟩, s') := by
  unfold extractAddressPhone
  rw [runOn_bind, runOn_step]
  rcases Tables.insertPhone s (p.row a.contactId) with e | ⟨phone, mid⟩
  · rfl
  · dsimp only
    rw [runOn_bind, runOn_step]
    rcases Tables.insertAddressPhone mid ⟨0, a.contactId, a.id, phone.id, p.audit⟩ with
      e | ⟨link, s'⟩ <;> rfl

theorem phoneLinked_iff {a : AddressRow} {p : Phone} {s s' : Tables} {c : Correlated AddressPhone} :
    Succeeds (extractAddressPhone a) p s c s' ↔ PhoneLinked a p s c s' := by
  unfold Succeeds PhoneLinked
  rw [runOn_extractAddressPhone]
  rcases phoneSaved : Tables.insertPhone s (p.row a.contactId) with e | ⟨phone, mid⟩
  · simp
  dsimp only
  rcases linkSaved : Tables.insertAddressPhone mid ⟨0, a.contactId, a.id, phone.id, p.audit⟩ with
    e | ⟨link, s₁⟩
  · refine ⟨fun ran => by simp at ran, ?_⟩
    rintro ⟨-, ⟨mid', phoneSaved', linked⟩, -⟩
    obtain ⟨rfl, rfl⟩ := Prod.mk.inj (Except.ok.inj phoneSaved')
    rw [linkSaved] at linked
    cases linked
  constructor
  · rintro ⟨⟩
    -- the store gives the link back with only its id set
    have given := (Table.addressPhones.insert_ok linkSaved).2.1
    refine ⟨rfl, ⟨mid, rfl, linkSaved⟩, ?_⟩
    rw [given]
    exact ⟨rfl, rfl, rfl⟩
  · obtain ⟨source, phone', link'⟩ := c
    rintro ⟨rfl, ⟨mid', phoneSaved', linked⟩, -⟩
    obtain ⟨rfl, rfl⟩ := Prod.mk.inj (Except.ok.inj phoneSaved')
    rw [linkSaved] at linked
    obtain ⟨rfl, rfl⟩ := Prod.mk.inj (Except.ok.inj linked)
    rfl

theorem phoneRefused_iff {a : AddressRow} {p : Phone} {s s' : Tables} {err : MigrationError} :
    (extractAddressPhone a p).runOn s = (.error err, s') ↔ PhoneRefused a p s err s' := by
  unfold PhoneRefused
  rw [runOn_extractAddressPhone]
  rcases phoneSaved : Tables.insertPhone s (p.row a.contactId) with e | ⟨phone, mid⟩
  · simp [eq_comm]
  dsimp only
  rcases linkSaved : Tables.insertAddressPhone mid ⟨0, a.contactId, a.id, phone.id, p.audit⟩ with
    e | ⟨link, s₁⟩
  · constructor
    · rintro ⟨⟩
      exact ⟨e, rfl, .inr ⟨phone, rfl, linkSaved⟩⟩
    · rintro ⟨e', rfl, ⟨refused, -⟩ | ⟨phone', taken, linked⟩⟩
      · cases refused
      · obtain ⟨rfl, rfl⟩ := Prod.mk.inj (Except.ok.inj taken)
        rw [linkSaved] at linked
        cases linked
        rfl
  · refine ⟨fun ran => (by cases ran), ?_⟩
    rintro ⟨e', -, ⟨refused, -⟩ | ⟨phone', taken, linked⟩⟩
    · cases refused
    · obtain ⟨rfl, rfl⟩ := Prod.mk.inj (Except.ok.inj taken)
      rw [linkSaved] at linked
      cases linked

theorem phonesLinked_iff {q : Correlated AddressRow × Address} {s s' : Tables}
    {n : Nested AddressPhone} :
    Succeeds (underParent (·.phoneNumbers) extractAddressPhone) q s n s' ↔ PhonesLinked q s n s' := by
  rw [underParent_eq_ok, Stepwise.congr fun _ _ _ _ => phoneLinked_iff]
  rfl

theorem phoneLinkRefused_iff {q : Correlated AddressRow × Address} {s s' : Tables}
    {err : MigrationError} :
    (underParent (·.phoneNumbers) extractAddressPhone q).runOn s = (.error err, s') ↔
      PhoneLinkRefused q s err s' := by
  rw [underParent_eq_error]
  exact runOn_mapM_eq_error_of (fun _ _ _ _ => phoneLinked_iff) fun _ _ _ _ => phoneRefused_iff

/-- The phones of saved addresses are saved, address after address, each as a phone row and a
link to it; a successful run lists them under each address's source id. -/
theorem extractAddressPhones_eq_ok {addresses : List (Correlated AddressRow)}
    {sources : List Address} {s s' : Tables} {out : List (Nested AddressPhone)} :
    (extractAddressPhones addresses sources).runOn s = (.ok out, s') ↔
      Stepwise PhonesLinked (addresses.zip sources) s out s' := by
  rw [extractAddressPhones_eq]
  exact runOn_mapM_eq_ok_of fun _ _ _ _ => phonesLinked_iff

/-- Saving the phones of saved addresses stops at the first phone row or link the store refuses,
every address before having had all its phones linked. -/
theorem extractAddressPhones_eq_error {addresses : List (Correlated AddressRow)}
    {sources : List Address} {s s' : Tables} {err : MigrationError} :
    (extractAddressPhones addresses sources).runOn s = (.error err, s') ↔
      ∃ done q rest outs s₁, addresses.zip sources = done ++ q :: rest ∧
        Stepwise PhonesLinked done s outs s₁ ∧ PhoneLinkRefused q s₁ err s' := by
  rw [extractAddressPhones_eq]
  exact runOn_mapM_eq_error_of (fun _ _ _ _ => phonesLinked_iff) fun _ _ _ _ => phoneLinkRefused_iff

/-! ## Both stages -/

/-- For every store, the stages saving children under their parents' new ids visit the saved
parents paired in order with their sources, as many as the shorter list holds, and save the
children of each in turn. The restrictions of a relationship are saved as rows pointing at the
relationship's new id; the phones of an address each as a phone row under the address's contact
and then a link from the address's new id to the phone row the store just gave back. A run
succeeds exactly when the store takes every such save, and it lists one entry per parent under
the parent's source id, each child with its source id and its row as given back. A run fails
exactly when the store refuses a save, everything before it having been saved and nothing
after. -/
theorem nested_stages_save_under_new_parent_ids (s s' : Tables)
    (relationships : List (Correlated RelationshipRow)) (contacts : List Relationship)
    (addresses : List (Correlated AddressRow)) (places : List Address) :
    (∀ out, (extractRelationshipRestrictions relationships contacts).runOn s = (.ok out, s') ↔
      Stepwise RestrictionsSaved (relationships.zip contacts) s out s') ∧
    (∀ err, (extractRelationshipRestrictions relationships contacts).runOn s = (.error err, s') ↔
      ∃ done q rest outs s₁, relationships.zip contacts = done ++ q :: rest ∧
        Stepwise RestrictionsSaved done s outs s₁ ∧ RestrictionRefused q s₁ err s') ∧
    (∀ out, (extractAddressPhones addresses places).runOn s = (.ok out, s') ↔
      Stepwise PhonesLinked (addresses.zip places) s out s') ∧
    (∀ err, (extractAddressPhones addresses places).runOn s = (.error err, s') ↔
      ∃ done q rest outs s₁, addresses.zip places = done ++ q :: rest ∧
        Stepwise PhonesLinked done s outs s₁ ∧ PhoneLinkRefused q s₁ err s') :=
  ⟨fun _ => extractRelationshipRestrictions_eq_ok, fun _ => extractRelationshipRestrictions_eq_error,
    fun _ => extractAddressPhones_eq_ok, fun _ => extractAddressPhones_eq_error⟩

end ContactMigration.Migration
