import Mathlib
import ContactMigration.Store.Basic

/-!
# Tables with generated ids

Nine of the store's ten tables give each new row an id of their own. A `Table` says where the rows
of one such table live in the store, how a row's id is read and set, and which references a new
row must find; the laws it carries say that its rows are a field of the store like any other.
Every insertion of the store is `Table.insert` of its table (`Tables.insertPhone_eq`, ...): the
row's references are checked, it gets the id after the table's sequence and its largest id, it is
appended, and the sequence moves to its id.

`Tables.Referential` is the store's referential integrity as far as the migration relies on it:
no row names a contact that does not exist, and every relationship restriction names an existing
relationship. Every row a table accepts keeps it (`Table.referential_append`).

Main statement: `Table.insert_eq_ok`, the exact row and store after an insertion into a table
whose sequence lies at or above its ids: the row gets the sequence plus one.
-/

namespace ContactMigration.Store

open Json

namespace Tables

/-- The ids a table holds, in the order of its rows; a contact's id is its person's id. -/
def ids (s : Tables) : ElementKind → List Int
  | .contact => s.contacts.map (·.contactId)
  | .phone => s.phones.map (·.id)
  | .address => s.addresses.map (·.id)
  | .addressPhone => s.addressPhones.map (·.id)
  | .email => s.emails.map (·.id)
  | .identity => s.identities.map (·.id)
  | .restriction => s.restrictions.map (·.id)
  | .employment => s.employments.map (·.id)
  | .prisonerContact => s.relationships.map (·.id)
  | .prisonerContactRestriction => s.relationshipRestrictions.map (·.id)

@[simp]
theorem ids_advance (s : Tables) (kind : ElementKind) (id : Int) (k : ElementKind) :
    (s.advance kind id).ids k = s.ids k := by
  cases k <;> rfl

@[simp]
theorem sequence_advance (s : Tables) (kind : ElementKind) (id : Int) (k : ElementKind) :
    (s.advance kind id).sequence k = if k = kind then some id else s.sequence k := rfl

/-- The largest id a table has given as its sequence records it, and zero before any. -/
def lastId (s : Tables) (kind : ElementKind) : Int :=
  max ((s.sequence kind).getD 0) 0

@[simp]
theorem lastId_advance (s : Tables) (kind : ElementKind) (id : Int) (k : ElementKind) :
    (s.advance kind id).lastId k = if k = kind then max id 0 else s.lastId k := by
  unfold lastId
  split <;> simp_all

attribute [ext] Tables

/-- Counts of new ids: `n` of table `kind` and none of any other. -/
def counting (kind : ElementKind) (n : Nat) : ElementKind → Nat :=
  fun k => if k = kind then n else 0

@[simp]
theorem counting_apply (kind k : ElementKind) (n : Nat) :
    counting kind n k = if k = kind then n else 0 := rfl

@[simp]
theorem counting_zero (kind : ElementKind) : counting kind 0 = 0 := by
  funext k
  simp

/-- The store after `counts k` more ids were given in each table: a sequence that moved stands at
its table's last id plus the count, and the others are left as they were. -/
def raise (s : Tables) (counts : ElementKind → Nat) : Tables :=
  { s with
    sequence := fun k => if counts k = 0 then s.sequence k else some (s.lastId k + counts k) }

@[simp]
theorem ids_raise (s : Tables) (counts : ElementKind → Nat) (k : ElementKind) :
    (s.raise counts).ids k = s.ids k := by
  cases k <;> rfl

@[simp]
theorem lastId_raise (s : Tables) (counts : ElementKind → Nat) (k : ElementKind) :
    (s.raise counts).lastId k = s.lastId k + counts k := by
  have atLeastZero : 0 ≤ s.lastId k := le_max_right _ _
  unfold raise
  by_cases none : counts k = 0
  · simp [none, lastId]
  · simp only [lastId, none, if_false, Option.getD_some] at atLeastZero ⊢
    omega

theorem raise_raise (s : Tables) (first second : ElementKind → Nat) :
    (s.raise first).raise second = s.raise (first + second) := by
  have lastIds := lastId_raise s first
  simp only [raise] at lastIds ⊢
  congr 1
  funext k
  by_cases later : second k = 0
  · by_cases earlier : first k = 0 <;> simp [later, earlier]
  · simp only [later, if_false, lastIds, Pi.add_apply, Nat.add_eq_zero_iff, and_false,
      Option.some.injEq, Int.natCast_add]
    omega

@[simp]
theorem raise_zero (s : Tables) : s.raise 0 = s := by
  simp [raise]

/-- Giving a table the id after its last id raises its count by one. -/
theorem advance_lastId_succ (s : Tables) (kind : ElementKind) :
    s.advance kind (s.lastId kind + 1) = s.raise (counting kind 1) := by
  simp only [advance, raise, counting_apply]
  congr 1
  funext k
  by_cases same : k = kind <;> simp [same]

/-- No row names a contact that does not exist, and every relationship restriction names an
existing relationship. -/
def Referential (s : Tables) : Prop :=
  (∀ contactId, s.isReferenced contactId = true → s.hasContact contactId = true) ∧
    ∀ x ∈ s.relationshipRestrictions, x.relationshipId ∈ s.ids .prisonerContact

/-- Each table with generated ids holds its rows in rising id order, every id between one and the
table's last id. -/
def Numbered (s : Tables) : Prop :=
  ∀ kind ∈ generatedKinds,
    (s.ids kind).Pairwise (· < ·) ∧ ∀ i ∈ s.ids kind, 0 < i ∧ i ≤ s.lastId kind

/-- The invariant of every store the migrator reaches. -/
structure Consistent (s : Tables) : Prop where
  referential : s.Referential
  numbered : s.Numbered

end Tables

/-- Rows to add to the store, table by table. -/
@[ext]
structure Rows where
  contacts : List ContactRow := []
  phones : List PhoneRow := []
  addresses : List AddressRow := []
  addressPhones : List AddressPhoneRow := []
  emails : List EmailRow := []
  identities : List IdentityRow := []
  restrictions : List RestrictionRow := []
  employments : List EmploymentRow := []
  relationships : List RelationshipRow := []
  relationshipRestrictions : List RelationshipRestrictionRow := []

instance : Append Rows where
  append a b :=
    { contacts := a.contacts ++ b.contacts
      phones := a.phones ++ b.phones
      addresses := a.addresses ++ b.addresses
      addressPhones := a.addressPhones ++ b.addressPhones
      emails := a.emails ++ b.emails
      identities := a.identities ++ b.identities
      restrictions := a.restrictions ++ b.restrictions
      employments := a.employments ++ b.employments
      relationships := a.relationships ++ b.relationships
      relationshipRestrictions := a.relationshipRestrictions ++ b.relationshipRestrictions }

namespace Rows

variable (a b : Rows)

@[simp] theorem contacts_append : (a ++ b).contacts = a.contacts ++ b.contacts := rfl
@[simp] theorem phones_append : (a ++ b).phones = a.phones ++ b.phones := rfl
@[simp] theorem addresses_append : (a ++ b).addresses = a.addresses ++ b.addresses := rfl
@[simp] theorem addressPhones_append :
    (a ++ b).addressPhones = a.addressPhones ++ b.addressPhones := rfl
@[simp] theorem emails_append : (a ++ b).emails = a.emails ++ b.emails := rfl
@[simp] theorem identities_append : (a ++ b).identities = a.identities ++ b.identities := rfl
@[simp] theorem restrictions_append : (a ++ b).restrictions = a.restrictions ++ b.restrictions :=
  rfl
@[simp] theorem employments_append : (a ++ b).employments = a.employments ++ b.employments := rfl
@[simp] theorem relationships_append :
    (a ++ b).relationships = a.relationships ++ b.relationships := rfl
@[simp] theorem relationshipRestrictions_append :
    (a ++ b).relationshipRestrictions = a.relationshipRestrictions ++ b.relationshipRestrictions :=
  rfl

end Rows

/-- The store with rows appended to their tables. -/
def Tables.appendRows (s : Tables) (n : Rows) : Tables :=
  { s with
    contacts := s.contacts ++ n.contacts
    phones := s.phones ++ n.phones
    addresses := s.addresses ++ n.addresses
    addressPhones := s.addressPhones ++ n.addressPhones
    emails := s.emails ++ n.emails
    identities := s.identities ++ n.identities
    restrictions := s.restrictions ++ n.restrictions
    employments := s.employments ++ n.employments
    relationships := s.relationships ++ n.relationships
    relationshipRestrictions := s.relationshipRestrictions ++ n.relationshipRestrictions }

namespace Tables

theorem appendRows_appendRows (s : Tables) (a b : Rows) :
    (s.appendRows a).appendRows b = s.appendRows (a ++ b) := by
  simp only [appendRows, Rows.contacts_append, Rows.phones_append, Rows.addresses_append, Rows.addressPhones_append,
    Rows.emails_append, Rows.identities_append, Rows.restrictions_append, Rows.employments_append,
    Rows.relationships_append, Rows.relationshipRestrictions_append, List.append_assoc]

/-- Appending rows and raising sequences are independent. -/
theorem raise_appendRows (s : Tables) (counts : ElementKind → Nat) (n : Rows) :
    (s.raise counts).appendRows n = (s.appendRows n).raise counts := rfl

@[simp]
theorem appendRows_empty (s : Tables) : s.appendRows {} = s := by
  simp [appendRows]

@[simp]
theorem lastId_appendRows (s : Tables) (n : Rows) (k : ElementKind) :
    (s.appendRows n).lastId k = s.lastId k := rfl

end Tables

/-- One of the tables whose ids the store generates: the kind whose sequence numbers it, where its
rows live, how a row's id is read and set, and which references a new row must find. -/
structure Table (β : Type) where
  kind : ElementKind
  rows : Tables → List β
  setRows : Tables → List β → Tables
  id : β → Int
  withId : β → Int → β
  refersToStore : Tables → β → Bool
  /-- Rows of this table as rows to append. -/
  single : List β → Rows
  rows_setRows : ∀ s xs, rows (setRows s xs) = xs := by intros; rfl
  setRows_rows : ∀ s, setRows s (rows s) = s := by intros; rfl
  setRows_setRows : ∀ s xs ys, setRows (setRows s xs) ys = setRows s ys := by intros; rfl
  sequence_setRows : ∀ s xs, (setRows s xs).sequence = s.sequence := by intros; rfl
  rows_withSequence : ∀ s σ, rows { s with sequence := σ } = rows s := by intros; rfl
  setRows_withSequence : ∀ s σ xs,
      setRows { s with sequence := σ } xs = { setRows s xs with sequence := σ } := by
    intros; rfl
  ids_kind : ∀ s, s.ids kind = (rows s).map id := by intros; rfl
  ids_setRows : ∀ s xs k, k ≠ kind → (setRows s xs).ids k = s.ids k := by
    intro s xs k different
    cases k <;> simp_all [Tables.ids]
  id_withId : ∀ row v, id (withId row v) = v := by intros; rfl
  withId_withId : ∀ row v w, withId (withId row v) w = withId row w := by intros; rfl
  refersToStore_withId : ∀ s row v, refersToStore s (withId row v) = refersToStore s row := by
    intros; rfl
  generated : kind ∈ generatedKinds := by decide
  setRows_append : ∀ s xs, setRows s (rows s ++ xs) = s.appendRows (single xs) := by
    intros; simp [Tables.appendRows]
  single_append : ∀ xs ys, single (xs ++ ys) = single xs ++ single ys := by intros; rfl
  /-- A row whose references are found keeps the store referential. -/
  referential_append : ∀ s row, s.Referential → refersToStore s row = true →
    (setRows s (rows s ++ [row])).Referential

/-- When a table's ids lie between one and its last id, the next id is the last id plus one, unless
the last id is already the largest 64-bit integer. -/
theorem nextId_of_below {sequence : Option Int} {ids : List Int}
    (below : ∀ i ∈ ids, 0 < i ∧ i ≤ max (sequence.getD 0) 0) :
    nextId sequence ids =
      if max (sequence.getD 0) 0 < i64Max then .ok (max (sequence.getD 0) 0 + 1) else .error .full := by
  have bounded : ∀ m, ids.max? = some m → 0 < m ∧ m ≤ max (sequence.getD 0) 0 :=
    fun m largest => below m (List.max?_mem largest)
  unfold nextId
  rcases largest : ids.max? with _ | m
  · by_cases room : max (sequence.getD 0) 0 < i64Max
    · have : ¬ sequence.getD 0 ≥ i64Max := by grind
      simp [this, room]
      omega
    · have : sequence.getD 0 ≥ i64Max := by unfold i64Max at *; omega
      simp [this, room]
  · obtain ⟨positive, atMost⟩ := bounded m largest
    by_cases room : max (sequence.getD 0) 0 < i64Max
    · have : ¬ sequence.getD 0 ≥ i64Max := by grind
      have : m ≠ i64Max := by grind
      simp [*]
      omega
    · have : sequence.getD 0 ≥ i64Max := by unfold i64Max at *; omega
      simp [this, room]

/-- A new id lies above every id of its table. -/
theorem lt_of_nextId_eq_ok {sequence : Option Int} {ids : List Int} {id : Int}
    (next : nextId sequence ids = .ok id) : ∀ i ∈ ids, i < id := by
  intro i mem
  unfold nextId at next
  rcases largest : ids.max? with _ | m
  · simp_all
  · have atMost : i ≤ m := (List.max?_eq_some_iff.mp largest).2 i mem
    simp only [largest] at next
    split at next <;> simp only [reduceCtorEq, Except.ok.injEq] at next
    omega

namespace Table

variable {β : Type}

/-- Saves a row into a table: its references must be found, it gets the id after the table's
sequence and its largest id, and the sequence moves to that id. -/
def insert (t : Table β) (s : Tables) (row : β) : Except StoreError (β × Tables) := do
  let id ← nextId (s.sequence t.kind) ((t.rows s).map t.id)
  unless t.refersToStore s row do throw .foreignKey
  let row := t.withId row id
  return (row, t.setRows (s.advance t.kind id) (t.rows s ++ [row]))

/-! ## The nine tables -/

theorem referential_of_contact_owned {s s' : Tables} {owner : Int}
    (referential : s.Referential) (found : s.hasContact owner = true)
    (owners : ∀ c, s'.isReferenced c = true → s.isReferenced c = true ∨ c = owner)
    (contacts : s'.contacts = s.contacts) (restrictions : s'.relationshipRestrictions = s.relationshipRestrictions)
    (relationships : s.ids .prisonerContact ⊆ s'.ids .prisonerContact) : s'.Referential := by
  refine ⟨fun c referenced => ?_, fun x mem => ?_⟩
  · have same : s'.hasContact c = s.hasContact c := by simp [Tables.hasContact, contacts]
    rcases owners c referenced with before | rfl
    · rw [same]
      exact referential.1 c before
    · rw [same]
      exact found
  · rw [restrictions] at mem
    exact relationships (referential.2 x mem)

/-- The phone numbers of contacts, directly or through an address. -/
def phones : Table PhoneRow where
  kind := .phone
  rows := (·.phones)
  setRows s xs := { s with phones := xs }
  single xs := { phones := xs }
  id := (·.id)
  withId row id := { row with id }
  refersToStore s row := s.hasContact row.contactId
  referential_append s row referential found :=
    referential_of_contact_owned referential found
      (fun c referenced => by simp_all [Tables.isReferenced]; grind) rfl rfl (by simp [Tables.ids])

/-- The addresses of contacts. -/
def addresses : Table AddressRow where
  kind := .address
  rows := (·.addresses)
  setRows s xs := { s with addresses := xs }
  single xs := { addresses := xs }
  id := (·.id)
  withId row id := { row with id }
  refersToStore s row := s.hasContact row.contactId
  referential_append s row referential found :=
    referential_of_contact_owned referential found
      (fun c referenced => by simp_all [Tables.isReferenced]; grind) rfl rfl (by simp [Tables.ids])

/-- The links from addresses to their phone rows. -/
def addressPhones : Table AddressPhoneRow where
  kind := .addressPhone
  rows := (·.addressPhones)
  setRows s xs := { s with addressPhones := xs }
  single xs := { addressPhones := xs }
  id := (·.id)
  withId row id := { row with id }
  refersToStore s row := s.hasContact row.contactId && s.addresses.any (·.id == row.addressId) &&
    s.phones.any (·.id == row.phoneId)
  referential_append s row referential found :=
    referential_of_contact_owned referential
      (by simp only [Bool.and_eq_true] at found; exact found.1.1 : s.hasContact row.contactId)
      (fun c referenced => by simp_all [Tables.isReferenced]; grind) rfl rfl (by simp [Tables.ids])

/-- The email addresses of contacts. -/
def emails : Table EmailRow where
  kind := .email
  rows := (·.emails)
  setRows s xs := { s with emails := xs }
  single xs := { emails := xs }
  id := (·.id)
  withId row id := { row with id }
  refersToStore s row := s.hasContact row.contactId
  referential_append s row referential found :=
    referential_of_contact_owned referential found
      (fun c referenced => by simp_all [Tables.isReferenced]; grind) rfl rfl (by simp [Tables.ids])

/-- The identity documents of contacts. -/
def identities : Table IdentityRow where
  kind := .identity
  rows := (·.identities)
  setRows s xs := { s with identities := xs }
  single xs := { identities := xs }
  id := (·.id)
  withId row id := { row with id }
  refersToStore s row := s.hasContact row.contactId
  referential_append s row referential found :=
    referential_of_contact_owned referential found
      (fun c referenced => by simp_all [Tables.isReferenced]; grind) rfl rfl (by simp [Tables.ids])

/-- The restrictions on contacts. -/
def restrictions : Table RestrictionRow where
  kind := .restriction
  rows := (·.restrictions)
  setRows s xs := { s with restrictions := xs }
  single xs := { restrictions := xs }
  id := (·.id)
  withId row id := { row with id }
  refersToStore s row := s.hasContact row.contactId
  referential_append s row referential found :=
    referential_of_contact_owned referential found
      (fun c referenced => by simp_all [Tables.isReferenced]; grind) rfl rfl (by simp [Tables.ids])

/-- The employments of contacts. -/
def employments : Table EmploymentRow where
  kind := .employment
  rows := (·.employments)
  setRows s xs := { s with employments := xs }
  single xs := { employments := xs }
  id := (·.id)
  withId row id := { row with id }
  refersToStore s row := s.hasContact row.contactId
  referential_append s row referential found :=
    referential_of_contact_owned referential found
      (fun c referenced => by simp_all [Tables.isReferenced]; grind) rfl rfl (by simp [Tables.ids])

/-- The relationships of contacts to prisoners. -/
def relationships : Table RelationshipRow where
  kind := .prisonerContact
  rows := (·.relationships)
  setRows s xs := { s with relationships := xs }
  single xs := { relationships := xs }
  id := (·.id)
  withId row id := { row with id }
  refersToStore s row := s.hasContact row.contactId
  referential_append s row referential found :=
    referential_of_contact_owned referential found
      (fun c referenced => by simp_all [Tables.isReferenced]; grind) rfl rfl
      (by intro i; simp [Tables.ids]; grind)

/-- The restrictions on relationships. -/
def relationshipRestrictions : Table RelationshipRestrictionRow where
  kind := .prisonerContactRestriction
  rows := (·.relationshipRestrictions)
  setRows s xs := { s with relationshipRestrictions := xs }
  single xs := { relationshipRestrictions := xs }
  id := (·.id)
  withId row id := { row with id }
  refersToStore s row := s.relationships.any (·.id == row.relationshipId)
  referential_append s row referential found := by
    refine ⟨referential.1, fun x mem => ?_⟩
    simp only [List.mem_append, List.mem_singleton] at mem
    rcases mem with before | rfl
    · exact referential.2 x before
    · simpa [Tables.ids] using found

@[simp] theorem phones_kind : phones.kind = .phone := rfl
@[simp] theorem addresses_kind : addresses.kind = .address := rfl
@[simp] theorem addressPhones_kind : addressPhones.kind = .addressPhone := rfl
@[simp] theorem emails_kind : emails.kind = .email := rfl
@[simp] theorem identities_kind : identities.kind = .identity := rfl
@[simp] theorem restrictions_kind : restrictions.kind = .restriction := rfl
@[simp] theorem employments_kind : employments.kind = .employment := rfl
@[simp] theorem relationships_kind : relationships.kind = .prisonerContact := rfl
@[simp] theorem relationshipRestrictions_kind :
    relationshipRestrictions.kind = .prisonerContactRestriction := rfl

/-! ## What an insertion does -/

variable (t : Table β) {s s' : Tables} {row row' : β}

@[simp]
theorem rows_raise (s : Tables) (counts : ElementKind → Nat) : t.rows (s.raise counts) = t.rows s :=
  t.rows_withSequence _ _

theorem lastId_setRows (s : Tables) (xs : List β) (kind : ElementKind) :
    (t.setRows s xs).lastId kind = s.lastId kind := by
  simp [Tables.lastId, t.sequence_setRows]

theorem setRows_raise (s : Tables) (counts : ElementKind → Nat) (xs : List β) :
    t.setRows (s.raise counts) xs = (t.setRows s xs).raise counts := by
  unfold Tables.raise
  rw [t.setRows_withSequence, t.sequence_setRows]
  simp only [t.lastId_setRows]

/-- Which ids a table has given does not depend on its rows. -/
@[simp]
theorem sequence_raise_setRows (s : Tables) (counts : ElementKind → Nat) (xs : List β) :
    ((t.setRows s xs).raise counts).sequence = (s.raise counts).sequence := by
  rw [← t.setRows_raise, t.sequence_setRows]

/-- An accepted row had its references found, got a new id above every id of its table, and was
appended, the sequence moving to its id. -/
theorem insert_ok (inserted : t.insert s row = .ok (row', s')) :
    t.refersToStore s row = true ∧ row' = t.withId row (t.id row') ∧
      (∀ i ∈ s.ids t.kind, i < t.id row') ∧
      s' = t.setRows (s.advance t.kind (t.id row')) (t.rows s ++ [row']) := by
  unfold insert at inserted
  rcases next : nextId (s.sequence t.kind) ((t.rows s).map t.id) with _ | id
  · simp [next, bind, Except.bind] at inserted
  simp only [next, bind, Except.bind] at inserted
  by_cases accepted : t.refersToStore s row = true
  · simp only [accepted, if_true, pure, Except.pure, Except.ok.injEq, Prod.mk.injEq] at inserted
    obtain ⟨rfl, rfl⟩ := inserted
    refine ⟨accepted, by rw [t.id_withId], ?_, by rw [t.id_withId]⟩
    rw [t.id_withId, t.ids_kind]
    exact lt_of_nextId_eq_ok next
  · simp [accepted, throw, throwThe, MonadExceptOf.throw] at inserted

/-- Into a table whose ids lie between one and its last id, a row goes in with the last id plus
one exactly when its references are found and the last id is below the largest 64-bit integer. -/
theorem insert_eq_ok (below : ∀ i ∈ s.ids t.kind, 0 < i ∧ i ≤ s.lastId t.kind) :
    t.insert s row = .ok (row', s') ↔
      s.lastId t.kind < i64Max ∧ t.refersToStore s row = true ∧
        row' = t.withId row (s.lastId t.kind + 1) ∧
        s' = (t.setRows s (t.rows s ++ [row'])).raise (Tables.counting t.kind 1) := by
  rw [t.ids_kind] at below
  have next : nextId (s.sequence t.kind) ((t.rows s).map t.id) =
      if s.lastId t.kind < i64Max then .ok (s.lastId t.kind + 1) else .error .full :=
    nextId_of_below below
  rw [← t.setRows_raise, ← Tables.advance_lastId_succ]
  unfold insert
  rw [next]
  by_cases room : s.lastId t.kind < i64Max <;>
    by_cases accepted : t.refersToStore s row = true <;>
    simp [room, accepted, bind, Except.bind, pure, Except.pure, throw, throwThe,
      MonadExceptOf.throw, eq_comm]
  rintro rfl
  rfl

/-- An insertion keeps the store consistent: the new row's references were found, and its id is
above every id of its table and becomes the table's last id. -/
theorem insert_consistent (consistent : s.Consistent) (inserted : t.insert s row = .ok (row', s')) :
    s'.Consistent := by
  have below := (consistent.numbered t.kind t.generated).2
  obtain ⟨room, accepted, rfl, rfl⟩ := (t.insert_eq_ok below).mp inserted
  refine ⟨t.referential_append s _ consistent.referential
    ((t.refersToStore_withId s row _).trans accepted), fun kind generated => ?_⟩
  rw [Tables.ids_raise, Tables.lastId_raise]
  by_cases same : kind = t.kind
  · subst same
    have positive : 0 ≤ s.lastId t.kind := by unfold Tables.lastId; omega
    rw [Tables.counting_apply, if_pos rfl, t.ids_kind, t.rows_setRows, List.map_append, ← t.ids_kind,
      t.lastId_setRows]
    obtain ⟨rising, bounded⟩ := consistent.numbered t.kind t.generated
    refine ⟨List.pairwise_append.mpr ⟨rising, by simp, ?_⟩, ?_⟩
    · intro i mem j newId
      simp [t.id_withId] at newId
      have := (bounded i mem).2
      omega
    · intro i mem
      simp only [List.mem_append, List.mem_map, List.mem_singleton] at mem
      rcases mem with before | ⟨_, rfl, rfl⟩
      · have := bounded i before
        omega
      · rw [t.id_withId]
        omega
  · rw [Tables.counting_apply, if_neg same, t.ids_setRows _ _ _ same, t.lastId_setRows]
    simpa using consistent.numbered kind generated

end Table

/-- The contacts are not numbered by the store: replacing them leaves the ids of every table with
generated ids as they were. -/
theorem Tables.ids_contacts (s : Tables) (contacts : List ContactRow) {kind : ElementKind}
    (generated : kind ∈ generatedKinds) : ({ s with contacts } : Tables).ids kind = s.ids kind := by
  cases kind <;> simp_all [generatedKinds, Tables.ids]

/-- Saving a contact keeps the store consistent: contacts only gain one, and no table with
generated ids changes. -/
theorem Tables.insertContact_consistent {s s' : Tables} {row : ContactRow}
    (consistent : s.Consistent) (inserted : s.insertContact row = .ok s') : s'.Consistent := by
  unfold Tables.insertContact at inserted
  split at inserted
  · simp at inserted
  · simp only [Except.ok.injEq] at inserted
    subst inserted
    refine ⟨⟨fun c referenced => ?_, consistent.referential.2⟩, fun kind generated => ?_⟩
    · have before := consistent.referential.1 c referenced
      simp_all [Tables.hasContact]
    · rw [Tables.ids_contacts s _ generated]
      exact consistent.numbered kind generated

namespace Tables

theorem insertPhone_eq : insertPhone = Table.phones.insert := rfl
theorem insertAddress_eq : insertAddress = Table.addresses.insert := rfl
theorem insertAddressPhone_eq : insertAddressPhone = Table.addressPhones.insert := rfl
theorem insertEmail_eq : insertEmail = Table.emails.insert := rfl
theorem insertIdentity_eq : insertIdentity = Table.identities.insert := rfl
theorem insertRestriction_eq : insertRestriction = Table.restrictions.insert := rfl
theorem insertEmployment_eq : insertEmployment = Table.employments.insert := rfl
theorem insertRelationship_eq : insertRelationship = Table.relationships.insert := rfl
theorem insertRelationshipRestriction_eq :
    insertRelationshipRestriction = Table.relationshipRestrictions.insert := rfl

end Tables

end ContactMigration.Store
