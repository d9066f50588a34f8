import ContactMigration.Proofs.Integrity
import ContactMigration.Proofs.AllOrNothing

/-!
# When a migration fails

A migration saves the contact row and then, in a fixed order, one row per element of the record;
every row but the contact's takes the next id of its table. On a reachable store nothing else can
refuse a row: the guard has removed the contact with everything that belongs to it, and every
child is saved under a parent saved before it in the same transaction. So a migration that passes
the id space check fails exactly when one of its saves finds its table out of ids, and it reports
the first such save's kind, wrapped once with the contact.

`ContactRecord.saves` lists the saves in order, each with the table that numbers its row and the
kind a refusal is reported at; `firstFull` finds the first save whose table has used its last id,
the tables' last ids advancing save by save. `Work.Saves` says that work makes given saves,
failing exactly where `firstFull` says; it is closed under sequencing and loops.

Main statement: `migrate_fails_exactly`.
-/

namespace ContactMigration

open Store Record Migration Work Json

namespace Migration

/-- One save of a migration: the table whose sequence numbers the new row, and the kind a refusal
of the row is reported at. -/
structure Save where
  table : ElementKind
  tag : ElementKind
  deriving DecidableEq, Repr

namespace Save

/-- Last ids after `saves`: each table's moved up by the number of saves it numbers. -/
def after (last : ElementKind → Int) (saves : List Save) : ElementKind → Int :=
  fun k => last k + saves.countP (·.table == k)

@[simp]
theorem after_nil (last : ElementKind → Int) : after last [] = last := by
  funext k
  simp [after]

theorem after_append (last : ElementKind → Int) (xs ys : List Save) :
    after (after last xs) ys = after last (xs ++ ys) := by
  funext k
  simp only [after, List.countP_append, Nat.cast_add]
  omega

end Save

end Migration

/-- The saves a migration of `r` makes after its contact row, in order: the phones, the addresses,
the phone row and the link of each phone of each address, the emails, identities, restrictions
and employments, the relationships, and the restrictions of each relationship. The phone row of
an address phone takes a phone id but is reported as an address phone. -/
def ContactRecord.saves (r : ContactRecord) : List Migration.Save :=
  r.phoneNumbers.map (fun _ => ⟨.phone, .phone⟩) ++
    r.addresses.map (fun _ => ⟨.address, .address⟩) ++
    r.addresses.flatMap (fun a => a.phoneNumbers.flatMap fun _ =>
      [⟨.phone, .addressPhone⟩, ⟨.addressPhone, .addressPhone⟩]) ++
    r.emailAddresses.map (fun _ => ⟨.email, .email⟩) ++
    r.identifiers.map (fun _ => ⟨.identity, .identity⟩) ++
    r.restrictions.map (fun _ => ⟨.restriction, .restriction⟩) ++
    r.employments.map (fun _ => ⟨.employment, .employment⟩) ++
    r.contacts.map (fun _ => ⟨.prisonerContact, .prisonerContact⟩) ++
    r.contacts.flatMap (fun c => c.restrictions.map fun _ =>
      ⟨.prisonerContactRestriction, .prisonerContactRestriction⟩)

namespace Migration

/-- The kind reported by the first of `saves` whose table has used its last id, when the tables'
last ids are `last` before the first save and each save takes the next id of its table. -/
def firstFull (last : ElementKind → Int) : List Save → Option ElementKind
  | [] => none
  | save :: rest =>
    if i64Max ≤ last save.table then some save.tag else firstFull (Save.after last [save]) rest

theorem firstFull_append (last : ElementKind → Int) (xs ys : List Save) :
    firstFull last (xs ++ ys) = (firstFull last xs).or (firstFull (Save.after last xs) ys) := by
  induction xs generalizing last with
  | nil => simp [firstFull]
  | cons save rest ih =>
    simp only [List.cons_append, firstFull]
    split
    · rfl
    · rw [ih, Save.after_append, List.singleton_append]

/-- Saves all find an id when every table has room for all the saves it numbers. -/
theorem firstFull_eq_none_of_room {last : ElementKind → Int} :
    ∀ {saves : List Save},
      (∀ save ∈ saves, last save.table + saves.countP (·.table == save.table) ≤ i64Max) →
        firstFull last saves = none
  | [], _ => rfl
  | save :: rest, room => by
    have first := room save List.mem_cons_self
    simp only [List.countP_cons, beq_self_eq_true, if_true] at first
    rw [firstFull, if_neg (by omega)]
    -- every later save has the same room, its table's last id moved by the first save
    refine firstFull_eq_none_of_room fun other mem => ?_
    have later := room other (List.mem_cons_of_mem _ mem)
    have counted : (save :: rest).countP (·.table == other.table) =
        [save].countP (·.table == other.table) + rest.countP (·.table == other.table) := by
      rw [← List.countP_append, List.singleton_append]
    simp only [Save.after]
    omega

/-! ## Work that makes saves -/

namespace Work

variable {α β : Type}

/-- Work `w`, run from store `s`, makes the saves `saves` for contact `c`: it fails exactly when
one of them finds its table out of ids, reporting the first such save's kind wrapped with the
contact, and otherwise succeeds having taken one id of its table for each save. -/
def Saves (w : Work α) (c : Int) (saves : List Save) (s : Tables) : Prop :=
  match firstFull s.lastId saves with
  | some tag => ∃ s', w.runOn s = (.error ((MigrationError.store .full).during c tag), s')
  | none => ∃ a s', w.runOn s = (.ok a, s') ∧ s'.lastId = Save.after s.lastId saves

namespace Saves

variable {c : Int}

/-- Work that saves nothing and succeeds without moving a sequence. -/
theorem of_run {w : Work α} {s s' : Tables} {a : α} (ran : w.runOn s = (.ok a, s'))
    (same : s'.lastId = s.lastId) : w.Saves c [] s :=
  ⟨a, s', ran, by rw [same, Save.after_nil]⟩

protected theorem pure (a : α) (s : Tables) : (pure a : Work α).Saves c [] s :=
  of_run (runOn_pure a s) rfl

/-- Saves reported for one contact are reported for any contact of the same id. -/
theorem of_contact {w : Work α} {c' : Int} {saves : List Save} {s : Tables} (same : c = c')
    (made : w.Saves c saves s) : w.Saves c' saves s :=
  same ▸ made

protected theorem bind {x : Work α} {f : α → Work β} {xs ys : List Save} {s : Tables}
    (first : x.Saves c xs s) (rest : ∀ a s', x.runOn s = (.ok a, s') → (f a).Saves c ys s') :
    (x >>= f).Saves c (xs ++ ys) s := by
  unfold Saves at first ⊢
  rw [firstFull_append]
  cases full : firstFull s.lastId xs with
  | some tag =>
    rw [full] at first
    obtain ⟨s', failed⟩ := first
    exact ⟨s', by rw [runOn_bind, failed]⟩
  | none =>
    rw [full] at first
    obtain ⟨a, s', ran, moved⟩ := first
    -- the second part starts from the last ids the first one moved
    have next := rest a s' ran
    unfold Saves at next
    rw [moved] at next
    simp only [Option.none_or]
    cases fullLater : firstFull (Save.after s.lastId xs) ys with
    | some tag =>
      rw [fullLater] at next
      obtain ⟨s'', failed⟩ := next
      exact ⟨s'', by rw [runOn_bind_of_ok _ ran, failed]⟩
    | none =>
      rw [fullLater] at next
      obtain ⟨b, s'', ranRest, movedRest⟩ := next
      exact ⟨b, s'', by rw [runOn_bind_of_ok _ ran, ranRest],
        by rw [movedRest, Save.after_append]⟩

/-- A loop makes the saves of its items in order, when every item's work makes its own saves
from any store satisfying an invariant that the work keeps. -/
protected theorem mapM (inv : Tables → Prop) {f : α → Work β} {saves : α → List Save} :
    ∀ (xs : List α), (∀ x ∈ xs, Triple inv (f x) fun _ s => inv s) →
      (∀ x ∈ xs, ∀ s, inv s → (f x).Saves c (saves x) s) →
      ∀ s, inv s → (xs.mapM f).Saves c (xs.flatMap saves) s
  | [], _, _, s, _ => Saves.pure [] s
  | x :: xs, keeps, each, s, holds => by
    rw [List.mapM_cons, List.flatMap_cons, ← List.append_nil (xs.flatMap saves)]
    refine (each x List.mem_cons_self s holds).bind fun y s' ran => ?_
    refine Saves.bind (Saves.mapM inv xs (fun z mem => keeps z (List.mem_cons_of_mem x mem))
      (fun z mem => each z (List.mem_cons_of_mem x mem)) s'
      (keeps x List.mem_cons_self holds ran)) fun ys s'' _ => Saves.pure _ s''

end Saves

end Work

/-! ## Saving rows into a table -/

end Migration

namespace Store

/-- Store `s` is consistent and still holds every id that store `base` holds, table by table. -/
def Tables.Extends (s base : Tables) : Prop :=
  s.Consistent ∧ ∀ k, base.ids k ⊆ s.ids k

namespace Tables

variable {s base : Tables}

theorem Extends.refl (consistent : s.Consistent) : s.Extends s :=
  ⟨consistent, fun _ => List.Subset.refl _⟩

theorem Extends.trans {middle : Tables} (later : s.Extends middle) (earlier : middle.Extends base) :
    s.Extends base :=
  ⟨later.1, fun k => List.Subset.trans (earlier.2 k) (later.2 k)⟩

theorem hasContact_iff {c : Int} : s.hasContact c = true ↔ c ∈ s.ids .contact := by
  simp [hasContact, ids]

theorem Extends.hasContact {c : Int} (grown : s.Extends base) (found : base.hasContact c = true) :
    s.hasContact c = true :=
  hasContact_iff.mpr (grown.2 _ (hasContact_iff.mp found))

end Tables

namespace Table

variable {β : Type} (t : Table β) {s s' : Tables} {row row' : β}

/-- A table that has used its last id refuses every row. -/
theorem insert_of_full (below : ∀ i ∈ s.ids t.kind, 0 < i ∧ i ≤ s.lastId t.kind)
    (full : i64Max ≤ s.lastId t.kind) : t.insert s row = .error .full := by
  rw [t.ids_kind] at below
  have next : nextId (s.sequence t.kind) ((t.rows s).map t.id) =
      if s.lastId t.kind < i64Max then .ok (s.lastId t.kind + 1) else .error .full :=
    nextId_of_below below
  unfold insert
  rw [next, if_neg (not_lt.mpr full)]
  rfl

theorem ids_appendRows_single (s : Tables) (xs : List β) :
    (s.appendRows (t.single xs)).ids t.kind = s.ids t.kind ++ xs.map t.id := by
  rw [← t.setRows_append, t.ids_kind, t.rows_setRows, List.map_append, ← t.ids_kind]

/-- An insertion keeps the store consistent, keeps every id, and adds the new row's id to its
table. -/
theorem insert_extends (consistent : s.Consistent) (inserted : t.insert s row = .ok (row', s')) :
    s'.Extends s ∧ t.id row' ∈ s'.ids t.kind := by
  have after := t.insert_consistent consistent inserted
  obtain ⟨-, -, -, rfl⟩ := t.insert_ok inserted
  have own : (t.setRows (s.advance t.kind (t.id row')) (t.rows s ++ [row'])).ids t.kind =
      s.ids t.kind ++ [t.id row'] := by
    rw [t.ids_kind, t.rows_setRows, List.map_append, ← t.ids_kind, List.map_singleton]
  refine ⟨⟨after, fun k => ?_⟩, by simp [own]⟩
  by_cases same : k = t.kind
  · subst same
    rw [own]
    exact List.subset_append_left _ _
  · rw [t.ids_setRows _ _ _ same, Tables.ids_advance]
    exact List.Subset.refl _

end Table

end Store

namespace Migration

open Store.Tables

namespace Work

theorem Triple.insert {β : Type} (t : Table β) {base : Tables} {c : Int} {kind : ElementKind}
    {row : β} : Triple (·.Extends base) (Work.step c kind (t.insert · row)) fun _ s => s.Extends base :=
  Triple.step fun _ _ _ grown inserted => (t.insert_extends grown.1 inserted).1.trans grown

/-- A loop keeps an invariant of the store when every item's work does. -/
theorem Triple.mapM_keeps {α β : Type} {inv : Tables → Prop} {f : α → Work β} (xs : List α)
    (each : ∀ x ∈ xs, Triple inv (f x) fun _ s => inv s) :
    Triple inv (xs.mapM f) fun _ s => inv s :=
  (Triple.mapM (fun _ _ => True) xs fun x mem =>
    (each x mem).mono (fun _ holds => holds) fun _ _ holds => ⟨holds, trivial⟩).mono
    (fun _ holds => holds) fun _ _ holds => holds.1

namespace Saves

variable {α β : Type} {c : Int}

/-- One row saved into a table, its references found: refused exactly when the table has used its
last id. -/
protected theorem step (t : Table β) {tag : ElementKind} {s : Tables} {row : β}
    (consistent : s.Consistent) (found : t.refersToStore s row = true) :
    (Work.step c tag (t.insert · row)).Saves c [⟨t.kind, tag⟩] s := by
  have below := (consistent.numbered t.kind t.generated).2
  unfold Saves
  by_cases full : i64Max ≤ s.lastId t.kind
  · simp only [firstFull, full, if_true]
    exact ⟨s, by rw [runOn_step, t.insert_of_full below full]⟩
  · simp only [firstFull, full, if_false]
    refine ⟨t.withId row (s.lastId t.kind + 1), _,
      runOn_step_eq_ok.mpr ((t.insert_eq_ok below).mpr ⟨by omega, found, rfl, rfl⟩), ?_⟩
    funext k
    by_cases same : k = t.kind
    · subst same
      simp [Save.after, t.lastId_setRows]
    · simp [Save.after, t.lastId_setRows, same, Ne.symm same]

end Saves

end Work

/-! ## The stages of a migration -/

section Stages

variable {α β : Type} {c : Int}

/-- Every successful save of a list of items into one table extends the store it started from. -/
theorem extractEach_extends (t : Table β) {sourceId : α → Int} {row : α → β} (items : List α)
    {base : Tables} :
    Triple (·.Extends base) (extractEach c t.kind (Port.ofStore t.insert) sourceId row items)
      fun _ s => s.Extends base :=
  Triple.mapM_keeps items fun _ _ => (Triple.insert t).bind fun _ => Triple.pure _ fun _ h => h

/-- Saving a list of items into one table makes one save of that table per item, when every row
finds its references in every store extending the one the loop starts from. -/
theorem extractEach_saves (t : Table β) {sourceId : α → Int} {row : α → β} (items : List α)
    {s : Tables} (consistent : s.Consistent)
    (found : ∀ s', s'.Extends s → ∀ item ∈ items, t.refersToStore s' (row item) = true) :
    (extractEach c t.kind (Port.ofStore t.insert) sourceId row items).Saves c
      (items.map fun _ => ⟨t.kind, t.kind⟩) s := by
  rw [List.map_eq_flatMap]
  refine Saves.mapM (·.Extends s) items (fun _ _ => (Triple.insert t).bind fun _ =>
    Triple.pure _ fun _ h => h) (fun item mem s' grown => ?_) s (Extends.refl consistent)
  simpa only [List.append_nil] using
    (Saves.step t grown.1 (found s' grown item mem)).bind fun _ s'' _ => Saves.pure _ s''

/-- A stage saving a contact's rows into a table whose rows need only their contact, run from a
store extending `s` that has the contact, followed by work that makes its own saves from every
store the stage leaves. -/
theorem extractEach_then {γ : Type} (t : Table β) {sourceId : α → Int} {row : α → β}
    (needsContact : ∀ s item, t.refersToStore s (row item) = s.hasContact c) {items : List α}
    {s s₀ : Tables} (grown : s₀.Extends s) (found : s.hasContact c = true)
    {f : List (Correlated β) → Work γ} {ys : List Save}
    (rest : ∀ out s', (extractEach c t.kind (Port.ofStore t.insert) sourceId row items).runOn s₀ =
      (.ok out, s') →
      s'.Extends s → (f out).Saves c ys s') :
    (extractEach c t.kind (Port.ofStore t.insert) sourceId row items >>= f).Saves c
      (items.map (fun _ => ⟨t.kind, t.kind⟩) ++ ys) s₀ :=
  (extractEach_saves t items grown.1 fun s' later _ _ => by
      rw [needsContact]
      exact (later.trans grown).hasContact found).bind fun out s' ran =>
    rest out s' ran ((extractEach_extends t items (Extends.refl grown.1) ran).trans grown)

/-- The rows a stage saved are in the store it leaves. -/
theorem extractEach_mem_ids (t : Table β) {sourceId : α → Int} {row : α → β} {items : List α}
    {s s' : Tables} {out : List (Correlated β)} (consistent : s.Consistent)
    (ran : (extractEach c t.kind (Port.ofStore t.insert) sourceId row items).runOn s =
      (.ok out, s')) :
    ∀ x ∈ out, t.id x.entity ∈ s'.ids t.kind := by
  obtain ⟨-, rfl, -⟩ := extractEach_ok t consistent ran
  intro x mem
  rw [Tables.ids_raise, t.ids_appendRows_single, List.map_map]
  exact List.mem_append_right _ (List.mem_map.mpr ⟨x, mem, rfl⟩)

theorem extractAddressPhone_extends {address : AddressRow} {p : Phone} {base : Tables} :
    Triple (·.Extends base) (extractAddressPhone address p) fun _ s => s.Extends base := by
  unfold extractAddressPhone
  simp only [Tables.insertPhone_eq, Tables.insertAddressPhone_eq]
  exact (Triple.insert Table.phones).bind fun _ => (Triple.insert Table.addressPhones).bind fun _ =>
    Triple.pure _ fun _ h => h

/-- Saving one phone of a saved address makes two saves reported as address phones: the phone
row, then the link to it. -/
theorem extractAddressPhone_saves {address : AddressRow} {p : Phone} {s : Tables}
    (consistent : s.Consistent) (found : s.hasContact address.contactId = true)
    (parent : address.id ∈ s.ids .address) :
    (extractAddressPhone address p).Saves address.contactId
      [⟨.phone, .addressPhone⟩, ⟨.addressPhone, .addressPhone⟩] s := by
  unfold extractAddressPhone
  simp only [Tables.insertPhone_eq, Tables.insertAddressPhone_eq]
  have phoneFound : Table.phones.refersToStore s (p.row address.contactId) = true := found
  refine (Saves.step Table.phones consistent phoneFound).bind fun phone s' ran => ?_
  obtain ⟨grown, saved⟩ := Table.phones.insert_extends consistent (runOn_step_eq_ok.mp ran)
  -- the link finds the contact, the address, and the phone row just saved
  have linked : Table.addressPhones.refersToStore s'
      ⟨0, address.contactId, address.id, phone.id, p.audit⟩ = true := by
    have addressKept := grown.2 .address parent
    simp only [Table.addressPhones, Bool.and_eq_true]
    refine ⟨⟨grown.hasContact found, ?_⟩, ?_⟩
    · simpa [Tables.ids] using addressKept
    · simpa [Tables.ids, Table.phones] using saved
  simpa only [List.singleton_append, List.append_nil, Table.phones_kind, Table.addressPhones_kind]
    using (Saves.step Table.addressPhones grown.1 linked).bind fun _ s'' _ => Saves.pure _ s''

theorem extractAddressPhones_extends (addresses : List (Correlated AddressRow))
    (sources : List Address) {base : Tables} :
    Triple (·.Extends base) (extractAddressPhones addresses sources) fun _ s => s.Extends base :=
  Triple.mapM_keeps _ fun _ _ =>
    (Triple.mapM_keeps _ fun _ _ => extractAddressPhone_extends).bind fun _ =>
      Triple.pure _ fun _ h => h

/-- Saving the phones of saved addresses of a contact makes, address after address and phone
after phone, the two saves of each phone. -/
theorem extractAddressPhones_saves {addresses : List (Correlated AddressRow)}
    {sources : List Address} {s : Tables} (consistent : s.Consistent)
    (owned : ∀ a ∈ addresses, a.entity.contactId = c ∧ a.entity.id ∈ s.ids .address)
    (found : s.hasContact c = true) (aligned : addresses.length = sources.length) :
    (extractAddressPhones addresses sources).Saves c
      (sources.flatMap fun a => a.phoneNumbers.flatMap fun _ =>
        [⟨.phone, .addressPhone⟩, ⟨.addressPhone, .addressPhone⟩]) s := by
  rw [← flatMap_zip_snd (fun a : Address => a.phoneNumbers.flatMap fun _ =>
    [(⟨.phone, .addressPhone⟩ : Save), ⟨.addressPhone, .addressPhone⟩]) aligned.ge]
  refine Saves.mapM (·.Extends s) _ (fun _ _ => (Triple.mapM_keeps _ fun _ _ =>
    extractAddressPhone_extends).bind fun _ => Triple.pure _ fun _ h => h)
    (fun pair mem s' grown => ?_) s (Extends.refl consistent)
  obtain ⟨owner, parent⟩ := owned pair.1 (List.of_mem_zip mem).1
  -- each phone of the address, from any store extending the one the address's loop starts from
  have phones : (pair.2.phoneNumbers.mapM (extractAddressPhone pair.1.entity)).Saves c
      (pair.2.phoneNumbers.flatMap fun _ =>
        [⟨.phone, .addressPhone⟩, ⟨.addressPhone, .addressPhone⟩]) s' :=
    Saves.mapM (·.Extends s') pair.2.phoneNumbers (fun _ _ => extractAddressPhone_extends)
      (fun _ _ s'' later => Saves.of_contact owner (extractAddressPhone_saves later.1
        (by rw [owner]; exact (later.trans grown).hasContact found) ((later.trans grown).2 _ parent)))
      s' (Extends.refl grown.1)
  simpa only [List.append_nil] using phones.bind fun _ s'' _ => Saves.pure _ s''

/-- Saving the restrictions of saved relationships of a contact makes one save per restriction,
relationship after relationship. -/
theorem extractRelationshipRestrictions_saves {relationships : List (Correlated RelationshipRow)}
    {sources : List Relationship} {s : Tables} (consistent : s.Consistent)
    (owned : ∀ x ∈ relationships, x.entity.contactId = c ∧ x.entity.id ∈ s.ids .prisonerContact)
    (aligned : relationships.length = sources.length) :
    (extractRelationshipRestrictions relationships sources).Saves c
      (sources.flatMap fun x => x.restrictions.map fun _ =>
        ⟨.prisonerContactRestriction, .prisonerContactRestriction⟩) s := by
  rw [← flatMap_zip_snd (fun x : Relationship => x.restrictions.map fun _ =>
    (⟨.prisonerContactRestriction, .prisonerContactRestriction⟩ : Save)) aligned.ge]
  refine Saves.mapM (·.Extends s) _ (fun _ _ => (extractEach_extends Table.relationshipRestrictions
    _).bind fun _ => Triple.pure _ fun _ h => h) (fun pair mem s' grown => ?_) s
    (Extends.refl consistent)
  obtain ⟨owner, parent⟩ := owned pair.1 (List.of_mem_zip mem).1
  -- every restriction finds its relationship, saved before the loop started
  have restrictions : (extractEach pair.1.entity.contactId Table.relationshipRestrictions.kind
      (Port.ofStore Table.relationshipRestrictions.insert) RelationshipRestriction.id
      (·.row pair.1.entity.id) pair.2.restrictions).Saves pair.1.entity.contactId
      (pair.2.restrictions.map fun _ => ⟨.prisonerContactRestriction, .prisonerContactRestriction⟩)
      s' :=
    extractEach_saves Table.relationshipRestrictions pair.2.restrictions grown.1
      fun s'' later _ _ => by
        simpa [Table.relationshipRestrictions, Tables.ids, RelationshipRestriction.row] using
          (later.trans grown).2 _ parent
  simpa only [List.append_nil] using
    (Saves.of_contact owner restrictions).bind fun _ s'' _ => Saves.pure _ s''

end Stages

/-! ## A whole migration -/

/-- The stages beneath a newly saved contact make the record's saves in order. -/
theorem extractChildren_saves {r : ContactRecord} {s : Tables} (consistent : s.Consistent)
    (found : s.hasContact r.personId = true) :
    (extractChildren ⟨r.personId, r.contactRow⟩ r).Saves r.personId r.saves s := by
  have order : r.saves =
      r.phoneNumbers.map (fun _ => ⟨.phone, .phone⟩) ++
        (r.addresses.map (fun _ => ⟨.address, .address⟩) ++
        (r.addresses.flatMap (fun a => a.phoneNumbers.flatMap fun _ =>
          [⟨.phone, .addressPhone⟩, ⟨.addressPhone, .addressPhone⟩]) ++
        (r.emailAddresses.map (fun _ => ⟨.email, .email⟩) ++
        (r.identifiers.map (fun _ => ⟨.identity, .identity⟩) ++
        (r.restrictions.map (fun _ => ⟨.restriction, .restriction⟩) ++
        (r.employments.map (fun _ => ⟨.employment, .employment⟩) ++
        (r.contacts.map (fun _ => ⟨.prisonerContact, .prisonerContact⟩) ++
        (r.contacts.flatMap (fun c => c.restrictions.map fun _ =>
          ⟨.prisonerContactRestriction, .prisonerContactRestriction⟩) ++ [])))))))) := by
    simp [ContactRecord.saves]
  rw [order]
  unfold extractChildren extractPhones extractAddresses extractEmails extractIdentities
    extractRestrictions extractEmployments extractRelationships
  dsimp only
  -- the stages in order, each from the store the one before left, all extending `s`
  refine extractEach_then Table.phones (by intros; rfl) (Extends.refl consistent) found
    fun _ s₁ _ grown₁ => ?_
  refine extractEach_then Table.addresses (by intros; rfl) grown₁ found
    fun addresses s₂ ran₂ grown₂ => ?_
  obtain ⟨savedAddresses, -, -⟩ := extractEach_ok Table.addresses grown₁.1 ran₂
  have addressesOwned : ∀ a ∈ addresses,
      a.entity.contactId = r.personId ∧ a.entity.id ∈ s₂.ids .address := by
    intro a mem
    refine ⟨?_, extractEach_mem_ids Table.addresses grown₁.1 ran₂ a mem⟩
    rw [savedAddresses] at mem
    obtain ⟨item, -, v, -, rfl⟩ := Table.mem_saved mem
    rfl
  refine (extractAddressPhones_saves grown₂.1 addressesOwned (grown₂.hasContact found)
    (by rw [savedAddresses, Table.length_saved])).bind fun _ s₃ ran₃ => ?_
  have grown₃ : s₃.Extends s :=
    (extractAddressPhones_extends _ _ (Extends.refl grown₂.1) ran₃).trans grown₂
  refine extractEach_then Table.emails (by intros; rfl) grown₃ found fun _ s₄ _ grown₄ => ?_
  refine extractEach_then Table.identities (by intros; rfl) grown₄ found fun _ s₅ _ grown₅ => ?_
  refine extractEach_then Table.restrictions (by intros; rfl) grown₅ found fun _ s₆ _ grown₆ => ?_
  refine extractEach_then Table.employments (by intros; rfl) grown₆ found fun _ s₇ _ grown₇ => ?_
  refine extractEach_then Table.relationships (by intros; rfl) grown₇ found
    fun relationships s₈ ran₈ grown₈ => ?_
  obtain ⟨savedRelationships, -, -⟩ := extractEach_ok Table.relationships grown₇.1 ran₈
  have relationshipsOwned : ∀ x ∈ relationships,
      x.entity.contactId = r.personId ∧ x.entity.id ∈ s₈.ids .prisonerContact := by
    intro x mem
    refine ⟨?_, extractEach_mem_ids Table.relationships grown₇.1 ran₈ x mem⟩
    rw [savedRelationships] at mem
    obtain ⟨item, -, v, -, rfl⟩ := Table.mem_saved mem
    rfl
  exact (extractRelationshipRestrictions_saves grown₈.1 relationshipsOwned
    (by rw [savedRelationships, Table.length_saved])).bind fun _ s₉ _ => Saves.pure _ s₉

/-- A contact the store does not have is saved without a refusal. -/
theorem extractContact_run {r : ContactRecord} {s : Tables} (absent : s.hasContact r.personId = false) :
    (extractContact r).runOn s =
      (.ok ⟨r.personId, r.contactRow⟩, s.appendRows { contacts := [r.contactRow] }) := by
  have saved : s.insertContact r.contactRow = .ok (s.appendRows { contacts := [r.contactRow] }) := by
    simp [Tables.insertContact, ContactRecord.contactRow, absent, Tables.appendRows]
  unfold extractContact
  simp only [runOn_bind, runOn_change, saved, runOn_pure]

/-- From a store the migrator reaches, a migration makes the record's saves: the guard and the
contact row never fail, and the rows beneath the contact fail only where a table runs out of
ids. -/
theorem migration_saves {r : ContactRecord} {s : Tables} (consistent : s.Consistent)
    (owned : s.LinksOwned) : (migration r).Saves r.personId r.saves s := by
  have absent : (s.withoutContact r.personId).hasContact r.personId = false := by
    simp [Tables.hasContact_withoutContact]
  have guarded := removeExisting_run r.personId consistent owned
  have saved := extractContact_run absent
  have contactConsistent :=
    (extractContact_ok (Tables.withoutContact_consistent r.personId consistent) saved).2.2.2
  have found : (s.withoutContact r.personId |>.appendRows { contacts := [r.contactRow] }).hasContact
      r.personId = true := by
    simp [Tables.hasContact, Tables.appendRows, ContactRecord.contactRow]
  rw [← List.nil_append r.saves, ← List.nil_append (r.saves), ← List.append_nil r.saves]
  unfold migration
  refine (Saves.of_run guarded rfl).bind fun replaced s₁ ran₁ => ?_
  obtain ⟨-, rfl⟩ := Prod.mk.inj (ran₁.symm.trans guarded)
  refine (Saves.of_run saved rfl).bind fun contact s₂ ran₂ => ?_
  obtain ⟨contactReturned, rfl⟩ := Prod.mk.inj (ran₂.symm.trans saved)
  cases Except.ok.inj contactReturned
  exact (extractChildren_saves contactConsistent found).bind fun _ s₃ _ => Saves.pure _ s₃

namespace Migrator

/-- A transaction on an unlocked contact whose work fails reports the work's failure. -/
theorem transact_of_failure {α : Type} {m : Migrator} {contactId : Int} {w : Work α}
    {e : MigrationError} {s' : Tables} (unlocked : m.isLocked contactId = false)
    (ran : w.runOn m.store = (.error e, s')) : (m.transact contactId w).1 = .error e := by
  rw [transact_eq]
  rw [if_neg (by simp [unlocked]), runOn_atomically, ran]

end Migrator

/-- From a reachable migrator, with the contact's lock free, a migration fails exactly when the
id space check refuses the record, with that refusal, or when one of the record's saves, in
order, finds its table out of ids: it then fails at the first such save's kind, wrapped once with
the contact, the store having refused nothing else. Otherwise it succeeds, reporting whether the
contact existed and the extraction numbered from the store's last ids. -/
theorem migrate_fails_exactly {m : Migrator} {r : ContactRecord} (reachable : m.Reachable)
    (unlocked : m.isLocked r.personId = false) :
    (m.migrate r).1 =
      match checkIdSpace r m.threshold with
      | .error e => .error e
      | .ok () =>
        match firstFull m.store.lastId r.saves with
        | some kind => .error (.failed r.personId kind (.store .full))
        | none => .ok ⟨m.store.hasContact r.personId, assemble (r.extraction m.store.lastId)⟩ := by
  have saves : (migration r).Saves r.personId r.saves m.store :=
    migration_saves reachable.consistent reachable.linksOwned
  unfold Migrator.migrate
  rcases checkIdSpace r m.threshold with refusal | ⟨⟩
  · rfl
  unfold Saves at saves
  dsimp only
  cases full : firstFull m.store.lastId r.saves with
  | some kind =>
    rw [full] at saves
    obtain ⟨s', failed⟩ := saves
    exact Migrator.transact_of_failure unlocked failed
  | none =>
    rw [full] at saves
    obtain ⟨M, s', ran, -⟩ := saves
    obtain ⟨rfl, -, -⟩ := migration_ok reachable.consistent ran
    rw [Migrator.transact_of_run unlocked ran]

/-- Person 1 migrated again into a store whose phone table has given its last id: the migration
fails at its first save, the phone. -/
theorem remigration_into_full_table_fails_at_phone :
    (exhaustedMigrator.migrate onePhoneRecord).1 =
      match checkIdSpace onePhoneRecord exhaustedMigrator.threshold with
      | .error e => .error e
      | .ok () =>
        match firstFull exhaustedMigrator.store.lastId onePhoneRecord.saves with
        | some kind => .error (.failed onePhoneRecord.personId kind (.store .full))
        | none => .ok ⟨exhaustedMigrator.store.hasContact onePhoneRecord.personId,
            assemble (onePhoneRecord.extraction exhaustedMigrator.store.lastId)⟩ := by
  have fresh : Tables.fresh? i64Max = some (({} : Tables).seed (i64Max - 1)) := by cbv
  have reachable : exhaustedMigrator.Reachable := .migrate onePhoneRecord (.fresh none fresh)
  have unlocked : exhaustedMigrator.isLocked onePhoneRecord.personId = false := by cbv
  exact migrate_fails_exactly reachable unlocked

end Migration

end ContactMigration
