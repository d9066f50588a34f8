import ContactMigration.Proofs.Exhaustion
import ContactMigration.Proofs.Correlation

/-!
# Id sequences

Each table whose ids the store generates numbers its rows from its sequence: a fresh store with
threshold `t` starts every sequence at `t - 1`, and each row saved gets the sequence plus one.
Rows saved one after another therefore get consecutive ids (`idsFrom`), and since a failed
request rolls its sequences back with its rows, the ids a session commits to a table are
`max t 1, max t 1 + 1, ...` with no gap and no repeat.

Main statement: `session_ids_follow_sequences`. Every request commits to each table the ids
after its last id, one per row it saved; over a session from a fresh store these are the
consecutive ids from `max t 1` on. A report's destination ids of each kind are consecutive and lie
above the threshold, above every source id; a table that gave the largest id refuses the next
row; and reopening a store at a new threshold continues after both the threshold and the
sequence.
-/

namespace ContactMigration

open Store Record Migration Json

/-- The `n` ids from `first` on, in order. -/
def idsFrom (first : Int) : Nat → List Int
  | 0 => []
  | n + 1 => first :: idsFrom (first + 1) n

@[simp]
theorem idsFrom_zero (first : Int) : idsFrom first 0 = [] := rfl

theorem idsFrom_succ (first : Int) (n : Nat) :
    idsFrom first (n + 1) = first :: idsFrom (first + 1) n := rfl

@[simp]
theorem length_idsFrom (first : Int) (n : Nat) : (idsFrom first n).length = n := by
  induction n generalizing first with
  | zero => rfl
  | succ n ih => simp [idsFrom_succ, ih]

@[simp]
theorem mem_idsFrom {first i : Int} {n : Nat} : i ∈ idsFrom first n ↔ first ≤ i ∧ i < first + n := by
  induction n generalizing first with
  | zero => simp
  | succ n ih =>
    simp only [idsFrom_succ, List.mem_cons, ih]
    omega

/-- Ids taken in two runs, the second starting where the first stopped, are consecutive. -/
theorem idsFrom_append (first : Int) (m n : Nat) :
    idsFrom first m ++ idsFrom (first + m) n = idsFrom first (m + n) := by
  induction m generalizing first with
  | zero => simp
  | succ m ih =>
    have next : first + 1 + m = first + ↑(m + 1) := by omega
    rw [idsFrom_succ, List.cons_append, ← next, ih, Nat.add_right_comm, idsFrom_succ]

/-! ## The ids of saved rows -/

/-- Rows saved one after another from id `first` take the ids from `first` on. -/
theorem Store.Table.ids_saved {α β : Type} (t : Table β) (sourceId : α → Int) (row : α → β) :
    ∀ (items : List α) (first : Int),
      (t.saved sourceId row items first).map (t.id ·.entity) = idsFrom first items.length
  | [], _ => rfl
  | item :: items, first => by
    simp only [Table.saved, List.map_cons, t.id_withId, Table.ids_saved t sourceId row items,
      List.length_cons, idsFrom_succ]

namespace Migration

theorem savedAddressPhones_ids (address : AddressRow) :
    ∀ (phones : List Phone) (phone link : Int),
      (savedAddressPhones address phones phone link).map (·.entity.phone.id) =
          idsFrom phone phones.length ∧
        (savedAddressPhones address phones phone link).map (·.entity.link.id) =
          idsFrom link phones.length
  | [], _, _ => ⟨rfl, rfl⟩
  | _ :: phones, phone, link => by
    obtain ⟨phoneIds, linkIds⟩ := savedAddressPhones_ids address phones (phone + 1) (link + 1)
    simp only [savedAddressPhones, List.map_cons, phoneIds, linkIds, List.length_cons, idsFrom_succ,
      and_self]

/-- The phones of saved addresses take phone ids and link ids in step, address after address. -/
theorem savedLinks_ids :
    ∀ (pairs : List (Correlated AddressRow × Address)) (phone link : Int),
      (savedLinks pairs phone link).flatMap (·.children.map (·.entity.phone.id)) =
          idsFrom phone (pairs.flatMap (·.2.phoneNumbers)).length ∧
        (savedLinks pairs phone link).flatMap (·.children.map (·.entity.link.id)) =
          idsFrom link (pairs.flatMap (·.2.phoneNumbers)).length
  | [], _, _ => ⟨rfl, rfl⟩
  | (address, source) :: pairs, phone, link => by
    obtain ⟨phoneIds, linkIds⟩ := savedAddressPhones_ids address.entity source.phoneNumbers phone link
    obtain ⟨restPhoneIds, restLinkIds⟩ := savedLinks_ids pairs (phone + source.phoneNumbers.length)
      (link + source.phoneNumbers.length)
    simp only [savedLinks, List.flatMap_cons, phoneIds, linkIds, restPhoneIds, restLinkIds,
      idsFrom_append, List.length_append, and_self]

theorem savedRelationshipRestrictions_ids :
    ∀ (pairs : List (Correlated RelationshipRow × Relationship)) (first : Int),
      (savedRelationshipRestrictions pairs first).flatMap (·.children.map (·.entity.id)) =
        idsFrom first (pairs.flatMap (·.2.restrictions)).length
  | [], _ => rfl
  | (relationship, source) :: pairs, first => by
    have saved := Table.relationshipRestrictions.ids_saved RelationshipRestriction.id
      (·.row relationship.entity.id) source.restrictions first
    simp only [savedRelationshipRestrictions, List.flatMap_cons, List.length_append,
      savedRelationshipRestrictions_ids pairs (first + source.restrictions.length), ← idsFrom_append]
    exact congrArg (· ++ _) saved

end Migration

/-- A migration's rows take, in each table whose ids the store generates, the `newIds` ids after
the table's last id, in the order they are saved; the phones of addresses follow the contact's
own phones. -/
theorem ids_appendRows_extraction (r : ContactRecord) (last : ElementKind → Int) (s : Tables)
    {k : ElementKind} (generated : k ≠ .contact) :
    (s.appendRows (r.extraction last).rows).ids k = s.ids k ++ idsFrom (last k + 1) (r.newIds k) := by
  -- both address-phone sequences run over the phone numbers of the record's addresses
  have numbers : ((Table.addresses.saved Address.addressId (·.row r.personId) r.addresses
      (last .address + 1)).zip r.addresses).flatMap (·.2.phoneNumbers) =
        r.addresses.flatMap (·.phoneNumbers) :=
    Table.addresses.flatMap_zip_saved _ _ _ _ _
  have restrictions : ((Table.relationships.saved Relationship.id (·.row r.personId) r.contacts
      (last .prisonerContact + 1)).zip r.contacts).flatMap (·.2.restrictions) =
        r.contacts.flatMap (·.restrictions) :=
    Table.relationships.flatMap_zip_saved _ _ _ _ _
  obtain ⟨phoneIds, linkIds⟩ := savedLinks_ids ((Table.addresses.saved Address.addressId
    (·.row r.personId) r.addresses (last .address + 1)).zip r.addresses)
    (last .phone + r.phoneNumbers.length + 1) (last .addressPhone + 1)
  cases k <;> simp only [Tables.ids, Tables.appendRows, Extracted.rows, ContactRecord.extraction,
    List.map_append, List.map_map, List.map_flatMap, Function.comp_def, ContactRecord.newIds]
  case contact => exact absurd rfl generated
  case phone =>
    have own := Table.phones.ids_saved Phone.phoneId (·.row r.personId) r.phoneNumbers (last .phone + 1)
    have after : last .phone + 1 + r.phoneNumbers.length = last .phone + r.phoneNumbers.length + 1 := by
      omega
    rw [← idsFrom_append, after, ← numbers, ← phoneIds, ← own]
    rfl
  case addressPhone => rw [← numbers, ← linkIds]
  case prisonerContactRestriction =>
    rw [← restrictions, ← savedRelationshipRestrictions_ids]
  case address => exact congrArg (_ ++ ·) (Table.addresses.ids_saved _ _ _ _)
  case email => exact congrArg (_ ++ ·) (Table.emails.ids_saved _ _ _ _)
  case identity => exact congrArg (_ ++ ·) (Table.identities.ids_saved _ _ _ _)
  case restriction => exact congrArg (_ ++ ·) (Table.restrictions.ids_saved _ _ _ _)
  case employment => exact congrArg (_ ++ ·) (Table.employments.ids_saved _ _ _ _)
  case prisonerContact => exact congrArg (_ ++ ·) (Table.relationships.ids_saved _ _ _ _)

theorem ne_contact_of_generated {k : ElementKind} (generated : k ∈ generatedKinds) : k ≠ .contact := by
  rintro rfl
  exact absurd generated (by decide)

namespace Store.Tables

/-- A migration commits to each table whose ids the store generates the `newIds` ids after the
table's last id: the rows it keeps were there before, and the rows it saves lie above every id
the table held. -/
theorem committed_migration {s : Tables} (consistent : s.Consistent) (c : Int) (r : ContactRecord)
    {k : ElementKind} (generated : k ∈ generatedKinds) :
    ((((s.withoutContact c).appendRows (r.extraction s.lastId).rows).raise r.newIds).ids k).filter
        (· ∉ s.ids k) =
      idsFrom (s.lastId k + 1) (r.newIds k) := by
  have below := (consistent.numbered k generated).2
  have kept : ((s.withoutContact c).ids k).filter (· ∉ s.ids k) = [] :=
    List.filter_eq_nil_iff.mpr fun i mem => by
      simpa using (ids_withoutContact_sublist s c k).subset mem
  have saved : (idsFrom (s.lastId k + 1) (r.newIds k)).filter (· ∉ s.ids k) =
      idsFrom (s.lastId k + 1) (r.newIds k) :=
    List.filter_eq_self.mpr fun i mem => by
      have above := (mem_idsFrom.mp mem).1
      simp only [decide_eq_true_eq]
      intro held
      have := (below i held).2
      omega
  rw [ids_raise, ids_appendRows_extraction r s.lastId _ (ne_contact_of_generated generated),
    List.filter_append, kept, saved, List.nil_append]

@[simp]
theorem ids_seed (s : Tables) (floor : Int) (k : ElementKind) : (s.seed floor).ids k = s.ids k := by
  cases k <;> rfl

/-- A fresh store's tables start after `max t 1 - 1`. -/
theorem lastId_fresh {t : Int} {s : Tables} (fresh : Tables.fresh? t = some s) {k : ElementKind}
    (generated : k ∈ generatedKinds) : s.lastId k = max t 1 - 1 := by
  unfold fresh? at fresh
  split at fresh
  · simp at fresh
  · simp only [Option.some.injEq] at fresh
    subst fresh
    simp only [lastId, seed, generated, if_true]
    show max (t - 1) 0 = max t 1 - 1
    omega

/-- Seeding raises each generated table's last id to the floor. -/
theorem lastId_seed (s : Tables) (floor : Int) {k : ElementKind} (generated : k ∈ generatedKinds) :
    (s.seed floor).lastId k = max (s.lastId k) floor := by
  simp only [lastId, seed, generated, if_true]
  generalize s.sequence k = stored
  cases stored <;> simp only [Option.getD_none, Option.getD_some] <;> omega

/-- Raising a consistent store's sequences to `threshold - 1`, as reopening it does, makes the next
id of each table the largest of the threshold, one, and the sequence plus one. -/
theorem nextId_seed {s : Tables} (numbered : s.Numbered) (threshold : Int) {k : ElementKind}
    (generated : k ∈ generatedKinds) :
    nextId ((s.seed (threshold - 1)).sequence k) ((s.seed (threshold - 1)).ids k) =
      if max threshold (max 1 ((s.sequence k).getD 0 + 1)) ≤ i64Max then
        .ok (max threshold (max 1 ((s.sequence k).getD 0 + 1)))
      else .error .full := by
  have raised := lastId_seed s (threshold - 1) generated
  have below : ∀ i ∈ (s.seed (threshold - 1)).ids k,
      0 < i ∧ i ≤ max (((s.seed (threshold - 1)).sequence k).getD 0) 0 := by
    intro i mem
    rw [ids_seed] at mem
    obtain ⟨positive, atMost⟩ := (numbered k generated).2 i mem
    exact ⟨positive, atMost.trans ((le_max_left _ _).trans raised.symm.le)⟩
  -- the seeded sequence, as the last id it records, is the larger of the old one and the floor
  have next : max (((s.seed (threshold - 1)).sequence k).getD 0) 0 + 1 =
      max threshold (max 1 ((s.sequence k).getD 0 + 1)) := by
    change (s.seed (threshold - 1)).lastId k + 1 = _
    rw [raised]
    simp only [lastId]
    omega
  rw [nextId_of_below below, ← next]
  by_cases room : max (((s.seed (threshold - 1)).sequence k).getD 0) 0 < i64Max
  · rw [if_pos room, if_pos (by omega)]
  · rw [if_neg room, if_neg (by omega)]

end Store.Tables

/-- The report of a migration lists the destination ids of each kind but the contact
consecutively, in report order, from the table's last id on. -/
theorem destinationIds_extraction (r : ContactRecord) (last : ElementKind → Int) {k : ElementKind}
    (generated : k ≠ .contact) :
    ∃ n : Nat, ((assemble (r.extraction last)).entries.filter (·.kind = k)).map (·.destinationId) =
      idsFrom (last k + 1) n := by
  have none : ∀ {γ δ : Type} (l : List γ), l.flatMap (fun _ => ([] : List δ)) = [] :=
    fun l => List.flatMap_eq_nil_iff.mpr fun _ _ => rfl
  -- the entries of one kind are one list of the report, or the children of one list
  cases k <;> simp only [Report.entries, assemble, pairs, List.filter_append, List.filter_cons,
    List.filter_nil, List.filter_flatMap, List.zip_map_left, List.flatMap_map, List.filter_map,
    Function.comp_def, Prod.map, reduceCtorEq, decide_false, decide_true, List.filter_false,
    List.filter_true, if_false, if_true, id, List.append_nil, List.nil_append, List.map_map,
    List.map_nil, List.map_flatMap, List.map_cons, Bool.false_eq_true, none,
    ← List.map_eq_flatMap]
  case contact => exact absurd rfl generated
  case phone => exact ⟨_, Table.phones.ids_saved _ _ _ _⟩
  case address =>
    rw [map_zip_fst (fun a : Correlated AddressRow => a.entity.id) (by simp)]
    exact ⟨_, Table.addresses.ids_saved _ _ _ _⟩
  case addressPhone =>
    rw [flatMap_zip_snd (fun a : Nested AddressPhone => a.children.map (·.entity.link.id)) (by simp)]
    exact ⟨_, (savedLinks_ids _ _ _).2⟩
  case email => exact ⟨_, Table.emails.ids_saved _ _ _ _⟩
  case identity => exact ⟨_, Table.identities.ids_saved _ _ _ _⟩
  case restriction => exact ⟨_, Table.restrictions.ids_saved _ _ _ _⟩
  case employment => exact ⟨_, Table.employments.ids_saved _ _ _ _⟩
  case prisonerContact =>
    rw [map_zip_fst (fun a : Correlated RelationshipRow => a.entity.id) (by simp)]
    exact ⟨_, Table.relationships.ids_saved _ _ _ _⟩
  case prisonerContactRestriction =>
    rw [flatMap_zip_snd (fun a : Nested RelationshipRestrictionRow => a.children.map (·.entity.id))
      (by simp)]
    exact ⟨_, savedRelationshipRestrictions_ids _ _⟩

/-- A record the id space check accepts has every source id below the threshold. -/
theorem sourceIds_below {r : ContactRecord} {threshold : Int}
    (checked : checkIdSpace r threshold = .ok ()) : ∀ source ∈ r.sourceIds, source.2 < threshold := by
  intro source mem
  unfold checkIdSpace ContactRecord.firstOutside? at checked
  split at checked
  · simp at checked
  · rename_i nothingOutside
    have := List.find?_eq_none.mp nothingOutside source mem
    simp only [ge_iff_le, decide_eq_true_eq, not_le] at this
    exact this

namespace Migration

/-- A request a session makes of its migrator. A migration answered with the report alone
changes the store as one answered with the whole outcome. -/
inductive Request where
  | migrate (r : ContactRecord)
  | remove (contactId : Int)

namespace Migrator

/-- The migrator after a request, whether the request succeeded or failed. -/
def serve (m : Migrator) : Request → Migrator
  | .migrate r => (m.migrate r).2
  | .remove contactId => (m.remove contactId).2

/-- How many rows a request saves into each table: one per element of the record that the table
numbers when a migration succeeds, and none otherwise. -/
def added (m : Migrator) : Request → ElementKind → Nat
  | .migrate r => if (m.migrate r).1.isOk then r.newIds else 0
  | .remove _ => 0

/-- The ids a request committed to table `k`: those the table holds after it and did not hold
before. -/
def committedBy (m : Migrator) (q : Request) (k : ElementKind) : List Int :=
  ((m.serve q).store.ids k).filter (· ∉ m.store.ids k)

/-- The migrator after a session of requests. -/
def serveAll (m : Migrator) : List Request → Migrator
  | [] => m
  | q :: qs => (m.serve q).serveAll qs

/-- The ids a session committed to table `k`, request after request. -/
def committed (m : Migrator) (k : ElementKind) : List Request → List Int
  | [] => []
  | q :: qs => m.committedBy q k ++ (m.serve q).committed k qs

theorem Reachable.serve {m : Migrator} (reachable : m.Reachable) :
    ∀ q, (m.serve q).Reachable
  | .migrate r => .migrate r reachable
  | .remove contactId => .remove contactId reachable

theorem Reachable.serveAll {m : Migrator} (reachable : m.Reachable) (qs : List Request) :
    (m.serveAll qs).Reachable := by
  induction qs generalizing m with
  | nil => exact reachable
  | cons q qs ih => exact ih (reachable.serve q)

/-- A migration that fails leaves the migrator as it was. -/
theorem migrate_of_error {m : Migrator} {r : ContactRecord} {e : MigrationError}
    (failed : (m.migrate r).1 = .error e) : (m.migrate r).2 = m := by
  rcases checked : checkIdSpace r m.threshold with refusal | ⟨⟩
  · simp [Migrator.migrate, checked]
  · simp only [Migrator.migrate, checked] at failed ⊢
    exact (transact_of_error (migration_raises r) failed).1

/-- What a request does to the store: a migration that succeeds replaces its contact by the
record's extraction numbered from the last ids, raising each sequence by the rows it saved; any
other request leaves the store as it was or without one contact, and saves nothing. -/
theorem Reachable.serve_store {m : Migrator} (reachable : m.Reachable) (q : Request) :
    ((m.serve q).store = m.store ∨ ∃ c, (m.serve q).store = m.store.withoutContact c) ∧
        m.added q = 0 ∨
      ∃ r, q = .migrate r ∧ m.added q = r.newIds ∧
        (m.serve q).store =
          ((m.store.withoutContact r.personId).appendRows (r.extraction m.store.lastId).rows).raise
            r.newIds := by
  cases q with
  | migrate r =>
    rcases outcome : (m.migrate r).1 with e | M
    · have kept := migrate_of_error outcome
      left
      exact ⟨.inl (by rw [Migrator.serve, kept]), by simp [added, outcome, Except.isOk, Except.toBool]⟩
    · obtain ⟨-, -, ran, -⟩ := migrate_of_ok outcome
      obtain ⟨-, stored, -⟩ := migration_ok reachable.consistent ran
      right
      exact ⟨r, rfl, by simp [added, outcome, Except.isOk, Except.toBool], stored⟩
  | remove contactId =>
    left
    refine ⟨?_, rfl⟩
    rcases outcome : (m.remove contactId).1 with e | u
    · exact .inl (congrArg Migrator.store (transact_of_error (removal_raises contactId) outcome).1)
    · obtain ⟨-, ran, -⟩ := transact_of_ok outcome
      exact .inr ⟨contactId, (removal_ok reachable.consistent ran).2⟩

/-- A request commits to each table whose ids the store generates the ids after the table's last
id, one per row it saved, and moves the last id past them: a failed request commits nothing. -/
theorem Reachable.committedBy {m : Migrator} (reachable : m.Reachable) (q : Request)
    {k : ElementKind} (generated : k ∈ generatedKinds) :
    m.committedBy q k = idsFrom (m.store.lastId k + 1) (m.added q k) ∧
      (m.serve q).store.lastId k = m.store.lastId k + m.added q k := by
  -- the ids of a store that lost at most one contact were all there before
  have nothingNew : ∀ s : Tables, (s.ids k).Sublist (m.store.ids k) →
      (s.ids k).filter (· ∉ m.store.ids k) = [] := fun s sub =>
    List.filter_eq_nil_iff.mpr fun i mem => by simpa using sub.subset mem
  rcases reachable.serve_store q with ⟨kept | ⟨c, removed⟩, none⟩ | ⟨r, rfl, counts, saved⟩
  · simp only [Migrator.committedBy, kept, none, Pi.zero_apply, idsFrom_zero, Nat.cast_zero,
      add_zero, and_true]
    exact nothingNew m.store (List.Sublist.refl _)
  · simp only [Migrator.committedBy, removed, none, Pi.zero_apply, idsFrom_zero, Nat.cast_zero,
      add_zero, Tables.lastId_withoutContact, and_true]
    exact nothingNew _ (Tables.ids_withoutContact_sublist _ _ _)
  · simp only [Migrator.committedBy, saved, counts, Tables.lastId_raise, Tables.lastId_appendRows,
      Tables.lastId_withoutContact, and_true]
    exact Tables.committed_migration reachable.consistent r.personId r generated

/-- A session commits to each table whose ids the store generates the ids after the table's last
id, consecutively, and moves the last id past them. -/
theorem Reachable.committed {m : Migrator} (reachable : m.Reachable) (qs : List Request)
    {k : ElementKind} (generated : k ∈ generatedKinds) :
    ∃ n : Nat, m.committed k qs = idsFrom (m.store.lastId k + 1) n ∧
      (m.serveAll qs).store.lastId k = m.store.lastId k + n := by
  induction qs generalizing m with
  | nil => exact ⟨0, rfl, by simp [Migrator.serveAll]⟩
  | cons q qs ih =>
    obtain ⟨first, moved⟩ := reachable.committedBy q generated
    obtain ⟨n, rest, last⟩ := ih (reachable.serve q)
    refine ⟨m.added q k + n, ?_, ?_⟩
    · have start : m.store.lastId k + ↑(m.added q k) + 1 = m.store.lastId k + 1 + ↑(m.added q k) := by
        omega
      rw [Migrator.committed, first, rest, moved, start, idsFrom_append]
    · rw [Migrator.serveAll, last, moved]
      push_cast
      ring

theorem transact_threshold {α : Type} (m : Migrator) (contactId : Int) (w : Work α) :
    (m.transact contactId w).2.threshold = m.threshold := by
  rw [transact_eq]
  split <;> rfl

theorem serve_threshold (m : Migrator) : ∀ q, (m.serve q).threshold = m.threshold
  | .migrate r => by
    simp only [Migrator.serve, Migrator.migrate]
    split
    · rfl
    · exact transact_threshold _ _ _
  | .remove contactId => transact_threshold _ _ _

theorem serveAll_threshold (m : Migrator) (qs : List Request) :
    (m.serveAll qs).threshold = m.threshold := by
  induction qs generalizing m with
  | nil => rfl
  | cons q qs ih => rw [Migrator.serveAll, ih, serve_threshold]

theorem hold_threshold {m m' : Migrator} {contactId : Int} (held : m.hold contactId = .ok m') :
    m'.threshold = m.threshold := by
  unfold hold at held
  split at held
  · split at held <;> simp only [reduceCtorEq, Except.ok.injEq] at held
    rw [← held]
  · simp only [Except.ok.injEq] at held
    rw [← held]

theorem release_threshold (m : Migrator) (contactId : Int) :
    (m.release contactId).2.threshold = m.threshold := by
  unfold release
  split
  · split <;> rfl
  · rfl

/-- Every table of a reachable store has given its ids from the threshold on: its last id is at
least the threshold less one. -/
theorem Reachable.threshold_le {m : Migrator} (reachable : m.Reachable) {k : ElementKind}
    (generated : k ∈ generatedKinds) : m.threshold ≤ m.store.lastId k + 1 := by
  -- a request keeps the threshold and never lowers a last id
  have served : ∀ {m : Migrator}, m.Reachable → m.threshold ≤ m.store.lastId k + 1 →
      ∀ q, (m.serve q).threshold ≤ (m.serve q).store.lastId k + 1 := by
    intro m previous below q
    rw [serve_threshold, (previous.committedBy q generated).2]
    omega
  induction reachable with
  | fresh locks fresh =>
    dsimp only
    rw [Tables.lastId_fresh fresh generated]
    omega
  | migrate r previous ih => exact served previous ih (.migrate r)
  | remove contactId previous ih => exact served previous ih (.remove contactId)
  | hold contactId _ held ih => rwa [hold_threshold held, hold_store held]
  | release contactId _ ih => rwa [release_threshold, release_store]

end Migrator

/-! ## A session from a fresh store -/

/-- Over a session of requests from a fresh store, in each table whose ids the store generates:
each request commits the ids after the table's last id, one per row it saved, so a failed request
commits none; the session commits the ids from `max t 1` on, consecutively, `t` being the
threshold; each migration's report lists the destination ids of the table's kind consecutively
from the table's last id, each at least `max t 1` and above every source id of the record; once
the session has committed the largest id, the table refuses every row; and reopening the store at
a threshold `t'` makes the next id the largest of `t'`, one, and the sequence plus one. -/
theorem session_ids_follow_sequences {m₀ : Migrator}
    (fresh : Tables.fresh? m₀.threshold = some m₀.store) (qs : List Request) {k : ElementKind}
    (generated : k ∈ generatedKinds) :
    (∀ before q after, qs = before ++ q :: after →
      (m₀.serveAll before).committedBy q k =
          idsFrom ((m₀.serveAll before).store.lastId k + 1) ((m₀.serveAll before).added q k) ∧
        ((m₀.serveAll before).serve q).store.lastId k =
          (m₀.serveAll before).store.lastId k + (m₀.serveAll before).added q k) ∧
    (∃ n : Nat, m₀.committed k qs = idsFrom (max m₀.threshold 1) n ∧
      (m₀.serveAll qs).store.lastId k = max m₀.threshold 1 - 1 + n) ∧
    (∀ before r after M, qs = before ++ .migrate r :: after →
      ((m₀.serveAll before).migrate r).1 = .ok M →
      (∃ n : Nat, (M.report.entries.filter (·.kind = k)).map (·.destinationId) =
          idsFrom ((m₀.serveAll before).store.lastId k + 1) n) ∧
        ∀ p ∈ M.report.entries, p.kind = k →
          max m₀.threshold 1 ≤ p.destinationId ∧ ∀ source ∈ r.sourceIds, source.2 < p.destinationId) ∧
    (i64Max ∈ m₀.committed k qs → ∀ {β : Type} (table : Table β), table.kind = k →
      ∀ row, table.insert (m₀.serveAll qs).store row = .error .full) ∧
    ∀ t', nextId (((m₀.serveAll qs).store.seed (t' - 1)).sequence k)
        (((m₀.serveAll qs).store.seed (t' - 1)).ids k) =
      if max t' (max 1 (((m₀.serveAll qs).store.sequence k).getD 0 + 1)) ≤ i64Max then
        .ok (max t' (max 1 (((m₀.serveAll qs).store.sequence k).getD 0 + 1)))
      else .error .full := by
  have start : m₀.Reachable := .fresh m₀.locks fresh
  have first : m₀.store.lastId k + 1 = max m₀.threshold 1 := by
    rw [Tables.lastId_fresh fresh generated]
    omega
  obtain ⟨n, session, last⟩ := start.committed qs generated
  refine ⟨?steps, ⟨n, first ▸ session, by rw [last, ← first]; ring⟩, ?reports, ?full, ?reopen⟩
  case steps =>
    rintro before q after rfl
    exact (start.serveAll before).committedBy q generated
  case reports =>
    rintro before r after M rfl succeeded
    have reachable := start.serveAll before
    obtain ⟨checked, -, ran, -⟩ := Migrator.migrate_of_ok succeeded
    obtain ⟨rfl, -, -⟩ := migration_ok reachable.consistent ran
    have consecutive := destinationIds_extraction r (m₀.serveAll before).store.lastId
      (ne_contact_of_generated generated)
    refine ⟨consecutive, fun p mem kind => ?_⟩
    -- a destination id of the kind lies after the table's last id, which the threshold bounds
    obtain ⟨count, ids⟩ := consecutive
    have listed : p.destinationId ∈ idsFrom ((m₀.serveAll before).store.lastId k + 1) count := by
      rw [← ids]
      exact List.mem_map_of_mem (List.mem_filter.mpr ⟨mem, by simpa using kind⟩)
    have after := (mem_idsFrom.mp listed).1
    have threshold := reachable.threshold_le generated
    have atLeastZero : 0 ≤ (m₀.serveAll before).store.lastId k := le_max_right _ _
    rw [Migrator.serveAll_threshold] at threshold checked
    refine ⟨by omega, fun source below => ?_⟩
    have := sourceIds_below checked source below
    omega
  case full =>
    intro used β table kind row
    subst kind
    have reached : i64Max ≤ (m₀.serveAll qs).store.lastId table.kind := by
      rw [session] at used
      have := (mem_idsFrom.mp used).2
      omega
    exact table.insert_of_full
      (((start.serveAll qs).consistent.numbered table.kind generated).2) reached
  case reopen =>
    intro t'
    exact Tables.nextId_seed (start.serveAll qs).consistent.numbered t' generated

/-- Person 7 migrated, removed, and migrated again from a fresh store with threshold 100. -/
theorem nested_record_session_ids :
    let qs := [.migrate nestedRecord, .remove nestedRecord.personId, .migrate nestedRecord]
    Tables.fresh? freshMigrator.threshold = some freshMigrator.store ∧
      ElementKind.phone ∈ generatedKinds ∧
      (∀ before q after, qs = before ++ q :: after →
        (freshMigrator.serveAll before).committedBy q .phone =
            idsFrom ((freshMigrator.serveAll before).store.lastId .phone + 1)
              ((freshMigrator.serveAll before).added q .phone) ∧
          ((freshMigrator.serveAll before).serve q).store.lastId .phone =
            (freshMigrator.serveAll before).store.lastId .phone +
              (freshMigrator.serveAll before).added q .phone) ∧
      (∃ n : Nat, freshMigrator.committed .phone qs = idsFrom (max freshMigrator.threshold 1) n ∧
        (freshMigrator.serveAll qs).store.lastId .phone = max freshMigrator.threshold 1 - 1 + n) ∧
      (∀ before r after M, qs = before ++ .migrate r :: after →
        ((freshMigrator.serveAll before).migrate r).1 = .ok M →
        (∃ n : Nat, (M.report.entries.filter (·.kind = .phone)).map (·.destinationId) =
            idsFrom ((freshMigrator.serveAll before).store.lastId .phone + 1) n) ∧
          ∀ p ∈ M.report.entries, p.kind = .phone →
            max freshMigrator.threshold 1 ≤ p.destinationId ∧
              ∀ source ∈ r.sourceIds, source.2 < p.destinationId) ∧
      (i64Max ∈ freshMigrator.committed .phone qs → ∀ {β : Type} (table : Table β),
        table.kind = .phone → ∀ row, table.insert (freshMigrator.serveAll qs).store row = .error .full) ∧
      ∀ t', nextId (((freshMigrator.serveAll qs).store.seed (t' - 1)).sequence .phone)
          (((freshMigrator.serveAll qs).store.seed (t' - 1)).ids .phone) =
        if max t' (max 1 (((freshMigrator.serveAll qs).store.sequence .phone).getD 0 + 1)) ≤ i64Max then
          .ok (max t' (max 1 (((freshMigrator.serveAll qs).store.sequence .phone).getD 0 + 1)))
        else .error .full := by
  have fresh : Tables.fresh? 100 = some (({} : Tables).seed 99) := by cbv
  have generated : ElementKind.phone ∈ generatedKinds := by decide
  exact ⟨fresh, generated, session_ids_follow_sequences fresh _ generated⟩

end Migration

end ContactMigration
