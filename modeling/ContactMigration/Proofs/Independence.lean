import ContactMigration.Proofs.Sequences
import ContactMigration.Proofs.Correlation

/-!
# Independent contacts

A migration touches no row of another contact: the guard deletes only the contact's own rows,
and the rows it saves depend only on its record and on where each table's ids stand. Two
migrations of different contacts therefore commute, except that in each order the second takes
its ids after the first's: the two stores differ by a renaming of generated ids that swaps the
two blocks of each table (`blockSwap`) and follows every reference to them (`Rows.rename`). The
reports differ in their new ids only. A removal and a migration of different contacts commute
exactly.

Main statement: `migrations_of_different_contacts_commute`.
-/

namespace ContactMigration

open Store Record Migration Json

/-! ## Renaming generated ids -/

namespace Store

/-- The rows of a store, table by table. -/
def Tables.rows (s : Tables) : Rows :=
  ⟨s.contacts, s.phones, s.addresses, s.addressPhones, s.emails, s.identities, s.restrictions,
    s.employments, s.relationships, s.relationshipRestrictions⟩

/-- The rows with each generated id `i` of table `k` renamed `ρ k i`, where a row has it and where
a link or a relationship restriction refers to it. A contact keeps its person's id. -/
def Rows.rename (n : Rows) (ρ : ElementKind → Int → Int) : Rows where
  contacts := n.contacts
  phones := n.phones.map fun x => { x with id := ρ .phone x.id }
  addresses := n.addresses.map fun x => { x with id := ρ .address x.id }
  addressPhones := n.addressPhones.map fun x =>
    { x with
      id := ρ .addressPhone x.id
      addressId := ρ .address x.addressId
      phoneId := ρ .phone x.phoneId }
  emails := n.emails.map fun x => { x with id := ρ .email x.id }
  identities := n.identities.map fun x => { x with id := ρ .identity x.id }
  restrictions := n.restrictions.map fun x => { x with id := ρ .restriction x.id }
  employments := n.employments.map fun x => { x with id := ρ .employment x.id }
  relationships := n.relationships.map fun x => { x with id := ρ .prisonerContact x.id }
  relationshipRestrictions := n.relationshipRestrictions.map fun x =>
    { x with
      id := ρ .prisonerContactRestriction x.id
      relationshipId := ρ .prisonerContact x.relationshipId }

/-- Rows name id `i` of table `k` where a row of that table has it, or a link or a relationship
restriction refers to it. -/
def Rows.Names (n : Rows) : ElementKind → Int → Prop
  | .contact, _ => False
  | .phone, i => (∃ x ∈ n.phones, x.id = i) ∨ ∃ x ∈ n.addressPhones, x.phoneId = i
  | .address, i => (∃ x ∈ n.addresses, x.id = i) ∨ ∃ x ∈ n.addressPhones, x.addressId = i
  | .addressPhone, i => ∃ x ∈ n.addressPhones, x.id = i
  | .email, i => ∃ x ∈ n.emails, x.id = i
  | .identity, i => ∃ x ∈ n.identities, x.id = i
  | .restriction, i => ∃ x ∈ n.restrictions, x.id = i
  | .employment, i => ∃ x ∈ n.employments, x.id = i
  | .prisonerContact, i =>
    (∃ x ∈ n.relationships, x.id = i) ∨ ∃ x ∈ n.relationshipRestrictions, x.relationshipId = i
  | .prisonerContactRestriction, i => ∃ x ∈ n.relationshipRestrictions, x.id = i

/-- Two sets of rows hold the same rows in each table, in whatever order. -/
structure Rows.Perm (a b : Rows) : Prop where
  contacts : a.contacts.Perm b.contacts
  phones : a.phones.Perm b.phones
  addresses : a.addresses.Perm b.addresses
  addressPhones : a.addressPhones.Perm b.addressPhones
  emails : a.emails.Perm b.emails
  identities : a.identities.Perm b.identities
  restrictions : a.restrictions.Perm b.restrictions
  employments : a.employments.Perm b.employments
  relationships : a.relationships.Perm b.relationships
  relationshipRestrictions : a.relationshipRestrictions.Perm b.relationshipRestrictions

namespace Rows

variable {ρ σ : ElementKind → Int → Int}

theorem rename_append (a b : Rows) (ρ : ElementKind → Int → Int) :
    (a ++ b).rename ρ = a.rename ρ ++ b.rename ρ := by
  ext1 <;> simp [rename]

/-- Renamings that agree on the ids rows name rename them alike. -/
theorem rename_congr (n : Rows) (agree : ∀ k i, n.Names k i → ρ k i = σ k i) :
    n.rename ρ = n.rename σ := by
  -- each table's rows, and each reference, are renamed by the renaming of its own table
  have named : ∀ k {α : Type} (xs : List α) (id : α → Int) (withId : α → Int → α),
      (∀ x ∈ xs, n.Names k (id x)) → xs.map (fun x => withId x (ρ k (id x))) =
        xs.map (fun x => withId x (σ k (id x))) :=
    fun k _ xs id withId names =>
      List.map_congr_left fun x mem => by rw [agree k (id x) (names x mem)]
  ext1
  · rfl
  · exact named .phone n.phones (·.id) (fun x v => { x with id := v })
      fun x mem => .inl ⟨x, mem, rfl⟩
  · exact named .address n.addresses (·.id) (fun x v => { x with id := v })
      fun x mem => .inl ⟨x, mem, rfl⟩
  · refine List.map_congr_left fun x mem => ?_
    rw [agree .addressPhone x.id ⟨x, mem, rfl⟩, agree .address x.addressId (.inr ⟨x, mem, rfl⟩),
      agree .phone x.phoneId (.inr ⟨x, mem, rfl⟩)]
  · exact named .email n.emails (·.id) (fun x v => { x with id := v }) fun x mem => ⟨x, mem, rfl⟩
  · exact named .identity n.identities (·.id) (fun x v => { x with id := v })
      fun x mem => ⟨x, mem, rfl⟩
  · exact named .restriction n.restrictions (·.id) (fun x v => { x with id := v })
      fun x mem => ⟨x, mem, rfl⟩
  · exact named .employment n.employments (·.id) (fun x v => { x with id := v })
      fun x mem => ⟨x, mem, rfl⟩
  · exact named .prisonerContact n.relationships (·.id) (fun x v => { x with id := v })
      fun x mem => .inl ⟨x, mem, rfl⟩
  · refine List.map_congr_left fun x mem => ?_
    rw [agree .prisonerContactRestriction x.id ⟨x, mem, rfl⟩,
      agree .prisonerContact x.relationshipId (.inr ⟨x, mem, rfl⟩)]

@[simp]
theorem rename_self (n : Rows) : n.rename (fun _ i => i) = n := by
  ext1 <;> simp [rename]

/-- A renaming that keeps every id the rows name keeps the rows. -/
theorem rename_eq_self (n : Rows) (fixed : ∀ k i, n.Names k i → ρ k i = i) : n.rename ρ = n :=
  (n.rename_congr fixed : n.rename ρ = n.rename fun _ i => i).trans n.rename_self

/-- Rows that follow common rows in two orders are the same rows. -/
theorem perm_append_swap (c a b : Rows) : (c ++ (a ++ b)).Perm (c ++ (b ++ a)) := by
  constructor <;> exact List.perm_append_comm.append_left _

end Rows

namespace Tables

@[simp]
theorem rows_appendRows (s : Tables) (n : Rows) : (s.appendRows n).rows = s.rows ++ n := rfl

@[simp]
theorem rows_raise (s : Tables) (counts : ElementKind → Nat) : (s.raise counts).rows = s.rows := rfl

/-- A store without a contact names only ids the store named. -/
theorem names_withoutContact {s : Tables} (c : Int) {k : ElementKind} {i : Int}
    (named : (s.withoutContact c).rows.Names k i) : s.rows.Names k i := by
  cases k <;> simp only [Rows.Names, rows, withoutContact, List.mem_filter] at named ⊢
  all_goals grind

/-- A consistent store whose links name rows of their own contact names no id above its table's
last id: every row's id is at most that, and every reference is to a row of the store. -/
theorem names_le_lastId {s : Tables} (consistent : s.Consistent) (owned : s.LinksOwned)
    {k : ElementKind} {i : Int} (named : s.rows.Names k i) : i ≤ s.lastId k := by
  have below : ∀ k ∈ generatedKinds, ∀ i ∈ s.ids k, i ≤ s.lastId k :=
    fun k generated i mem => ((consistent.numbered k generated).2 i mem).2
  cases k
  case contact => exact named.elim
  case phone =>
    rcases named with ⟨x, mem, rfl⟩ | ⟨x, mem, rfl⟩
    · exact below .phone (by decide) x.id (List.mem_map_of_mem mem)
    · obtain ⟨p, held, same, -⟩ := (owned x mem).2
      exact same ▸ below .phone (by decide) p.id (List.mem_map_of_mem held)
  case address =>
    rcases named with ⟨x, mem, rfl⟩ | ⟨x, mem, rfl⟩
    · exact below .address (by decide) x.id (List.mem_map_of_mem mem)
    · obtain ⟨a, held, same, -⟩ := (owned x mem).1
      exact same ▸ below .address (by decide) a.id (List.mem_map_of_mem held)
  case prisonerContact =>
    rcases named with ⟨x, mem, rfl⟩ | ⟨x, mem, rfl⟩
    · exact below .prisonerContact (by decide) x.id (List.mem_map_of_mem mem)
    · exact below .prisonerContact (by decide) _ (consistent.referential.2 x mem)
  all_goals
    obtain ⟨x, mem, rfl⟩ := named
    exact below _ (by decide) x.id (List.mem_map_of_mem mem)

end Tables

end Store

/-- Exchanges the `a` ids after `last` with the `b` ids after those, each block keeping its order;
every other id stays. -/
def blockSwap (last : Int) (a b : Nat) : Equiv.Perm Int where
  toFun i :=
    if last < i ∧ i ≤ last + a then i + b
    else if last + a < i ∧ i ≤ last + a + b then i - a
    else i
  invFun i :=
    if last < i ∧ i ≤ last + b then i + a
    else if last + b < i ∧ i ≤ last + b + a then i - b
    else i
  left_inv i := by
    dsimp only
    split_ifs <;> omega
  right_inv i := by
    dsimp only
    split_ifs <;> omega

section BlockSwap

variable {last i : Int} {a b : Nat}

theorem blockSwap_of_first (after : last < i) (within : i ≤ last + a) : blockSwap last a b i = i + b := by
  simp [blockSwap, after, within]

theorem blockSwap_of_second (after : last + a < i) (within : i ≤ last + a + b) :
    blockSwap last a b i = i + -(a : Int) := by
  have outside : ¬ (last < i ∧ i ≤ last + a) := by omega
  simp only [blockSwap, Equiv.coe_fn_mk, outside, if_false, after, within, and_self, if_true]
  omega

theorem blockSwap_of_le (before : i ≤ last) : blockSwap last a b i = i := by
  have first : ¬ (last < i ∧ i ≤ last + a) := by omega
  have second : ¬ (last + a < i ∧ i ≤ last + a + b) := by omega
  simp only [blockSwap, Equiv.coe_fn_mk, first, second, if_false]

end BlockSwap

/-! ## What a migration saves, renamed -/

namespace Migration

variable (r : ContactRecord) (last : ElementKind → Int)

/-- An extraction numbered from later last ids saves the rows of the earlier one with every id
moved up by the difference. -/
theorem extraction_rows_shift (δ : ElementKind → Int) :
    (r.extraction fun k => last k + δ k).rows = (r.extraction last).rows.rename fun k i => i + δ k := by
  have shifted := extraction_shift r last δ
  simp only [Aggregate.ofRows, Aggregate.shift, Aggregate.mk.injEq] at shifted
  obtain ⟨-, phones, addresses, addressPhones, emails, identities, restrictions, employments,
    relationships, relationshipRestrictions⟩ := shifted
  ext1
  · rfl
  · exact phones
  · exact addresses
  · exact addressPhones
  · exact emails
  · exact identities
  · exact restrictions
  · exact employments
  · exact relationships
  · exact relationshipRestrictions

/-- A migration's rows name only the ids it takes: those after each table's last id. -/
theorem extraction_names {k : ElementKind} {i : Int} (named : (r.extraction last).rows.Names k i) :
    last k < i ∧ i ≤ last k + r.newIds k := by
  -- the ids of the rows, read through the empty store they would be appended to
  have taken : ∀ k ≠ .contact, ∀ i ∈ (({} : Tables).appendRows (r.extraction last).rows).ids k,
      last k < i ∧ i ≤ last k + r.newIds k := by
    intro k generated i mem
    rw [ids_appendRows_extraction r last _ generated] at mem
    rcases List.mem_append.mp mem with empty | saved
    · cases k <;> simp [Tables.ids] at empty
    · have := mem_idsFrom.mp saved
      omega
  have linked := extraction_linksOwned r last
  have owned : (r.extraction last).rows.OwnedBy r.personId := extraction_ownedBy
  cases k
  case contact => exact named.elim
  case phone =>
    rcases named with ⟨x, mem, rfl⟩ | ⟨x, mem, rfl⟩
    · exact taken .phone (by decide) x.id (List.mem_map_of_mem (by simpa [Tables.appendRows] using mem))
    · obtain ⟨p, held, same, -⟩ := (linked x mem).2
      exact same ▸ taken .phone (by decide) p.id
        (List.mem_map_of_mem (by simpa [Tables.appendRows] using held))
  case address =>
    rcases named with ⟨x, mem, rfl⟩ | ⟨x, mem, rfl⟩
    · exact taken .address (by decide) x.id
        (List.mem_map_of_mem (by simpa [Tables.appendRows] using mem))
    · obtain ⟨a, held, same, -⟩ := (linked x mem).1
      exact same ▸ taken .address (by decide) a.id
        (List.mem_map_of_mem (by simpa [Tables.appendRows] using held))
  case prisonerContact =>
    rcases named with ⟨x, mem, rfl⟩ | ⟨x, mem, rfl⟩
    · exact taken .prisonerContact (by decide) x.id
        (List.mem_map_of_mem (by simpa [Tables.appendRows] using mem))
    · exact taken .prisonerContact (by decide) _
        (by simpa [Tables.appendRows, Tables.ids] using owned.relationshipRestrictions x mem)
  all_goals
    obtain ⟨x, mem, rfl⟩ := named
    exact taken _ (by decide) x.id (List.mem_map_of_mem (by simpa [Tables.appendRows] using mem))

end Migration

/-! ## Removing a contact beside another's rows -/

namespace Store.Tables

theorem withoutContact_raise (s : Tables) (counts : ElementKind → Nat) (c : Int) :
    (s.raise counts).withoutContact c = (s.withoutContact c).raise counts := rfl

/-- Removing two contacts in either order removes the same rows. -/
theorem withoutContact_comm (s : Tables) (a b : Int) :
    (s.withoutContact a).withoutContact b = (s.withoutContact b).withoutContact a := by
  by_cases same : a = b
  · rw [same]
  · -- the relationships of one contact are the same with or without the other's
    simp only [withoutContact, relationshipIdsOf, List.filter_filter,
      filter_filter_other _ _ same, filter_filter_other _ _ (Ne.symm same), Bool.and_comm]

/-- Removing a contact after another contact's rows were appended keeps those rows, when none of
their relationship restrictions names a relationship of the removed contact. -/
theorem withoutContact_appendRows {s : Tables} {n : Rows} {owner c : Int} (owned : n.OwnedBy owner)
    (other : owner ≠ c)
    (unrelated : ∀ x ∈ n.relationshipRestrictions, x.relationshipId ∉ s.relationshipIdsOf c) :
    (s.appendRows n).withoutContact c = (s.withoutContact c).appendRows n := by
  -- the appended rows belong to `owner`, so the filters of `c` keep them all
  have kept : ∀ {α : Type} (xs : List α) (contactId : α → Int), (∀ x ∈ xs, contactId x = owner) →
      xs.filter (contactId · != c) = xs :=
    fun xs contactId all => List.filter_eq_self.mpr fun x mem => by simp [all x mem, other]
  have parents : (s.appendRows n).relationshipIdsOf c = s.relationshipIdsOf c := by
    have none : n.relationships.filter (·.contactId == c) = [] :=
      List.filter_eq_nil_iff.mpr fun x mem => by simp [owned.relationships x mem, other]
    simp only [relationshipIdsOf, appendRows, List.filter_append, none, List.append_nil]
  have restrictionsKept : n.relationshipRestrictions.filter
      (!(s.relationshipIdsOf c).contains ·.relationshipId) = n.relationshipRestrictions :=
    List.filter_eq_self.mpr fun x mem => by simpa using unrelated x mem
  simp only [withoutContact]
  rw [parents]
  simp only [appendRows, List.filter_append, kept _ _ owned.contacts, kept _ _ owned.phones,
    kept _ _ owned.addresses, kept _ _ owned.addressPhones, kept _ _ owned.emails,
    kept _ _ owned.identities, kept _ _ owned.restrictions, kept _ _ owned.employments,
    kept _ _ owned.relationships, restrictionsKept]

/-- Migrating a record and then removing another contact ends where removing the contact and then
migrating the record ends: the record's relationships are new, so the removal spares their
restrictions. -/
theorem withoutContact_after_migration {s : Tables} (consistent : s.Consistent) (r : ContactRecord)
    {c : Int} (other : r.personId ≠ c) :
    (((s.withoutContact r.personId).appendRows (r.extraction s.lastId).rows).raise
        r.newIds).withoutContact c =
      (((s.withoutContact c).withoutContact r.personId).appendRows
        (r.extraction s.lastId).rows).raise r.newIds := by
  have unrelated : ∀ x ∈ (r.extraction s.lastId).rows.relationshipRestrictions,
      x.relationshipId ∉ (s.withoutContact r.personId).relationshipIdsOf c := by
    intro x mem held
    have named : (r.extraction s.lastId).rows.Names .prisonerContact x.relationshipId :=
      .inr ⟨x, mem, rfl⟩
    have after := (extraction_names r s.lastId named).1
    -- the contact's relationships were in the store, numbered at most its last id
    have stored : x.relationshipId ∈ s.ids .prisonerContact := by
      simp only [relationshipIdsOf, List.mem_map, List.mem_filter] at held
      obtain ⟨y, ⟨kept, -⟩, same⟩ := held
      exact same ▸ List.mem_map_of_mem (List.mem_filter.mp kept).1
    have := ((consistent.numbered .prisonerContact (by decide)).2 _ stored).2
    omega
  rw [withoutContact_raise, withoutContact_appendRows extraction_ownedBy other unrelated,
    withoutContact_comm]

/-- A migration keeps whether any other contact exists. -/
theorem hasContact_after_migration (s : Tables) (r : ContactRecord) (last : ElementKind → Int)
    (counts : ElementKind → Nat) {c : Int} (other : c ≠ r.personId) :
    (((s.withoutContact r.personId).appendRows (r.extraction last).rows).raise counts).hasContact c =
      s.hasContact c := by
  have kept : (s.withoutContact r.personId).hasContact c = s.hasContact c := by
    simp [hasContact_withoutContact, other]
  rw [← kept]
  simp [hasContact, appendRows, raise, Extracted.rows, ContactRecord.extraction,
    ContactRecord.contactRow, Ne.symm other]

end Store.Tables

/-! ## Migrations and removals that succeed -/

namespace Migration

/-- A migration takes from each table the ids its record's saves number. -/
theorem countP_saves (r : ContactRecord) (k : ElementKind) :
    r.saves.countP (·.table == k) = r.newIds k := by
  cases k <;> simp [ContactRecord.saves, ContactRecord.newIds, List.countP_append,
    List.countP_flatMap, List.length_flatMap, Function.comp_def, List.countP_replicate]

theorem table_mem_generatedKinds {r : ContactRecord} {save : Save} (mem : save ∈ r.saves) :
    save.table ∈ generatedKinds := by
  -- no save numbers a contact, the contact row taking the person's id
  have uncounted := List.countP_eq_zero.mp (countP_saves r .contact) save mem
  revert uncounted
  cases save.table <;> decide

namespace Migrator

/-- From a reachable migrator, a record the id space check accepts, whose contact's lock is free
and for whose rows every table has room, is migrated. -/
theorem Reachable.migrate_eq {m : Migrator} {r : ContactRecord} (reachable : m.Reachable)
    (unlocked : m.isLocked r.personId = false) (checked : checkIdSpace r m.threshold = .ok ())
    (room : ∀ k ∈ generatedKinds, m.store.lastId k + r.newIds k ≤ i64Max) :
    m.migrate r = (.ok ⟨m.store.hasContact r.personId, assemble (r.extraction m.store.lastId)⟩,
      { m with store := ((m.store.withoutContact r.personId).appendRows
        (r.extraction m.store.lastId).rows).raise r.newIds }) := by
  have saves : (migration r).Saves r.personId r.saves m.store :=
    migration_saves reachable.consistent reachable.linksOwned
  have free : firstFull m.store.lastId r.saves = none :=
    firstFull_eq_none_of_room fun save mem => by
      rw [countP_saves]
      exact room save.table (table_mem_generatedKinds mem)
  rw [Work.Saves, free] at saves
  obtain ⟨M, s', ran, -⟩ := saves
  obtain ⟨rfl, rfl, -⟩ := migration_ok reachable.consistent ran
  exact migrate_of_run checked unlocked ran

/-- From a reachable migrator, removing a contact whose lock is free removes it when it exists and
fails otherwise; either way the store is the store without it. -/
theorem Reachable.remove_eq {m : Migrator} (reachable : m.Reachable) (c : Int)
    (unlocked : m.isLocked c = false) :
    m.remove c = (if m.store.hasContact c then .ok () else .error (.contactNotFound c),
      { m with store := m.store.withoutContact c }) := by
  have guarded := removeExisting_run c reachable.consistent reachable.linksOwned
  cases present : m.store.hasContact c
  · have ran : (removal c).runOn m.store = (.error (.contactNotFound c), m.store) := by
      unfold removal
      simp [Work.runOn_bind, guarded, present, Tables.withoutContact_of_absent reachable.consistent present,
        Work.runOn_throw]
    rw [Migrator.remove, Migrator.transact_eq]
    rw [if_neg (by simp [unlocked]), Work.runOn_atomically, ran,
      Tables.withoutContact_of_absent reachable.consistent present]
    rfl
  · have ran := removal_of_found (present ▸ guarded)
    rw [Migrator.remove, transact_of_run unlocked ran, if_pos rfl]

end Migrator

end Migration

/-! ## Two migrations in either order -/

/-- Swapping, in each table, the block of ids one migration took with the block the next one took
renames the rows saved in one order into the rows saved in the other; the rows that were there
before keep their ids. -/
theorem rename_blockSwap {base : Rows} {last : ElementKind → Int}
    (below : ∀ k i, base.Names k i → i ≤ last k) (r₁ r₂ : ContactRecord) :
    (base ++ ((r₁.extraction last).rows ++ (r₂.extraction fun k => last k + r₁.newIds k).rows)).rename
        (fun k i => blockSwap (last k) (r₁.newIds k) (r₂.newIds k) i) =
      base ++ ((r₁.extraction fun k => last k + r₂.newIds k).rows ++ (r₂.extraction last).rows) := by
  have kept : base.rename (fun k i => blockSwap (last k) (r₁.newIds k) (r₂.newIds k) i) = base :=
    base.rename_eq_self fun k i named => blockSwap_of_le (below k i named)
  -- the first block moves up past the second, the second down to where the first began
  have movedUp : (r₁.extraction last).rows.rename
      (fun k i => blockSwap (last k) (r₁.newIds k) (r₂.newIds k) i) =
        (r₁.extraction fun k => last k + r₂.newIds k).rows := by
    rw [extraction_rows_shift]
    refine Rows.rename_congr _ fun k i named => ?_
    obtain ⟨after, within⟩ := extraction_names r₁ last named
    exact blockSwap_of_first after within
  have movedDown : (r₂.extraction fun k => last k + r₁.newIds k).rows.rename
      (fun k i => blockSwap (last k) (r₁.newIds k) (r₂.newIds k) i) = (r₂.extraction last).rows := by
    have back : last = fun k => (last k + r₁.newIds k) + -(r₁.newIds k : Int) := by
      funext k
      omega
    conv_rhs => rw [back, extraction_rows_shift]
    refine Rows.rename_congr _ fun k i named => ?_
    obtain ⟨after, within⟩ := extraction_names r₂ _ named
    exact blockSwap_of_second after (by omega)
  rw [Rows.rename_append, Rows.rename_append, kept, movedUp, movedDown]

namespace Migration.Migrator

/-- From a reachable migrator without locks, two records of different contacts that the id space
check accepts and for whose rows every table has room are migrated one after the other. The
second replaces its contact if it existed before the first, and takes its ids after the first's;
the store ends without either contact's earlier rows and with both records' rows. -/
theorem Reachable.migrate_pair {m : Migrator} {r₁ r₂ : ContactRecord} (reachable : m.Reachable)
    (lockless : m.locks = none) (different : r₁.personId ≠ r₂.personId)
    (checked₁ : checkIdSpace r₁ m.threshold = .ok ()) (checked₂ : checkIdSpace r₂ m.threshold = .ok ())
    (room : ∀ k ∈ generatedKinds, m.store.lastId k + r₁.newIds k + r₂.newIds k ≤ i64Max) :
    (m.migrate r₁).1 = .ok ⟨m.store.hasContact r₁.personId, assemble (r₁.extraction m.store.lastId)⟩ ∧
      ((m.migrate r₁).2.migrate r₂).1 = .ok ⟨m.store.hasContact r₂.personId,
        assemble (r₂.extraction fun k => m.store.lastId k + r₁.newIds k)⟩ ∧
      ((m.migrate r₁).2.migrate r₂).2.store =
        (((m.store.withoutContact r₂.personId).withoutContact r₁.personId).appendRows
          ((r₁.extraction m.store.lastId).rows ++
            (r₂.extraction fun k => m.store.lastId k + r₁.newIds k).rows)).raise
          (r₁.newIds + r₂.newIds) := by
  have first := reachable.migrate_eq (by simp [Migrator.isLocked, lockless]) checked₁
    fun k generated => by
      have := room k generated
      omega
  have reachable₁ : (m.migrate r₁).2.Reachable := .migrate r₁ reachable
  rw [first] at reachable₁ ⊢
  have lastIds : (((m.store.withoutContact r₁.personId).appendRows
      (r₁.extraction m.store.lastId).rows).raise r₁.newIds).lastId =
        fun k => m.store.lastId k + r₁.newIds k := by
    funext k
    simp
  have second := reachable₁.migrate_eq (by simp [Migrator.isLocked, lockless]) checked₂
    fun k generated => by
      dsimp only
      rw [lastIds]
      exact room k generated
  dsimp only at second ⊢
  rw [second]
  dsimp only
  refine ⟨rfl, ?_, ?_⟩
  · rw [Tables.hasContact_after_migration _ _ _ _ (Ne.symm different), lastIds]
  · -- the first record's rows stay, and the second's are appended after them
    rw [Tables.withoutContact_after_migration reachable.consistent r₁ different, lastIds,
      Tables.raise_appendRows, Tables.raise_raise, Tables.appendRows_appendRows]

/-- From a reachable migrator without locks, removing a contact and migrating a record of another
contact give the same outcomes and the same migrator in either order. -/
theorem Reachable.remove_migrate_comm {m : Migrator} {r : ContactRecord} {c : Int}
    (reachable : m.Reachable) (lockless : m.locks = none) (other : c ≠ r.personId)
    (checked : checkIdSpace r m.threshold = .ok ())
    (room : ∀ k ∈ generatedKinds, m.store.lastId k + r.newIds k ≤ i64Max) :
    ((m.remove c).2.migrate r).1 = (m.migrate r).1 ∧ ((m.migrate r).2.remove c).1 = (m.remove c).1 ∧
      ((m.remove c).2.migrate r).2 = ((m.migrate r).2.remove c).2 := by
  have removedFirst : (m.remove c).2.Reachable := .remove c reachable
  have migratedFirst : (m.migrate r).2.Reachable := .migrate r reachable
  have removed := reachable.remove_eq c (by simp [Migrator.isLocked, lockless])
  have migrated := reachable.migrate_eq (by simp [Migrator.isLocked, lockless]) checked room
  rw [removed] at removedFirst ⊢
  rw [migrated] at migratedFirst ⊢
  dsimp only at removedFirst migratedFirst ⊢
  rw [removedFirst.migrate_eq (by simp [Migrator.isLocked, lockless]) checked (by simpa using room),
    migratedFirst.remove_eq c (by simp [Migrator.isLocked, lockless])]
  dsimp only
  -- a removal leaves every table's last id where it was
  have sameLastIds : (m.store.withoutContact c).lastId = m.store.lastId := rfl
  refine ⟨?_, ?_, ?_⟩
  · simp [Tables.hasContact_withoutContact, Ne.symm other, sameLastIds]
  · rw [Tables.hasContact_after_migration _ _ _ _ other]
  · rw [Tables.withoutContact_after_migration reachable.consistent r (Ne.symm other), sameLastIds]

end Migration.Migrator

/-! ## Reports without their new ids -/

namespace Migration

/-- An id pair with its new id erased. -/
def IdPair.erase (p : IdPair) : IdPair := { p with destinationId := 0 }

/-- A report with every new id erased: what it says of the record alone. -/
def Report.erase (R : Report) : Report :=
  { R with
    contact := R.contact.erase
    phoneNumbers := R.phoneNumbers.map IdPair.erase
    addresses := R.addresses.map fun a => ⟨a.address.erase, a.phones.map IdPair.erase⟩
    emails := R.emails.map IdPair.erase
    identities := R.identities.map IdPair.erase
    restrictions := R.restrictions.map IdPair.erase
    employments := R.employments.map IdPair.erase
    relationships := R.relationships.map fun x =>
      ⟨x.relationship.erase, x.restrictions.map IdPair.erase⟩ }

/-- Two reports that mirror one record are the same once their new ids are erased. -/
theorem Report.Mirrors.erase_eq {R R' : Report} {r : ContactRecord} (mirrors : R.Mirrors r)
    (mirrors' : R'.Mirrors r) : R.erase = R'.erase := by
  -- an erased pair is its kind and source id
  have erased : ∀ p : IdPair, p.erase = ⟨p.source.1, p.source.2, 0⟩ := fun _ => rfl
  have flat : ∀ {ps qs : List IdPair}, ps.map IdPair.source = qs.map IdPair.source →
      ps.map IdPair.erase = qs.map IdPair.erase := by
    intro ps qs same
    have := congrArg (List.map fun s : ElementKind × Int => (⟨s.1, s.2, 0⟩ : IdPair)) same
    simpa only [List.map_map, Function.comp_def, ← erased] using this
  have addresses : R.addresses.map (fun a => (⟨a.address.erase, a.phones.map IdPair.erase⟩ :
      AddressReport)) = R'.addresses.map fun a => ⟨a.address.erase, a.phones.map IdPair.erase⟩ := by
    have := congrArg (List.map fun p : (ElementKind × Int) × List (ElementKind × Int) =>
      (⟨⟨p.1.1, p.1.2, 0⟩, p.2.map fun s => ⟨s.1, s.2, 0⟩⟩ : AddressReport))
      (mirrors.addresses.trans mirrors'.addresses.symm)
    simpa only [List.map_map, Function.comp_def, ← erased] using this
  have relationships : R.relationships.map (fun x => (⟨x.relationship.erase,
      x.restrictions.map IdPair.erase⟩ : RelationshipReport)) =
        R'.relationships.map fun x => ⟨x.relationship.erase, x.restrictions.map IdPair.erase⟩ := by
    have := congrArg (List.map fun p : (ElementKind × Int) × List (ElementKind × Int) =>
      (⟨⟨p.1.1, p.1.2, 0⟩, p.2.map fun s => ⟨s.1, s.2, 0⟩⟩ : RelationshipReport))
      (mirrors.relationships.trans mirrors'.relationships.symm)
    simpa only [List.map_map, Function.comp_def, ← erased] using this
  simp only [Report.erase, mirrors.contact, mirrors'.contact, mirrors.lastName, mirrors'.lastName,
    mirrors.dateOfBirth, mirrors'.dateOfBirth, addresses, relationships,
    flat (mirrors.phoneNumbers.trans mirrors'.phoneNumbers.symm),
    flat (mirrors.emails.trans mirrors'.emails.symm),
    flat (mirrors.identities.trans mirrors'.identities.symm),
    flat (mirrors.restrictions.trans mirrors'.restrictions.symm),
    flat (mirrors.employments.trans mirrors'.employments.symm)]

/-! ## Migrations of different contacts commute -/

/-- From a reachable migrator without locks, take two records of different contacts that the id
space check accepts, with room in every table for both. Migrating them in either order succeeds
twice. The two stores have the same sequences, and each table holds the same rows in both once
the generated ids of the first order are renamed by a bijection of each table's ids, which every
reference follows. Each record replaces its contact alike in both orders and has the same report
once new ids are erased. A removal of any contact but the second record's and the migration of
that record give the same outcomes and the same migrator in either order. -/
theorem migrations_of_different_contacts_commute {m : Migrator} {r₁ r₂ : ContactRecord}
    (reachable : m.Reachable) (lockless : m.locks = none) (different : r₁.personId ≠ r₂.personId)
    (checked₁ : checkIdSpace r₁ m.threshold = .ok ()) (checked₂ : checkIdSpace r₂ m.threshold = .ok ())
    (room : ∀ k ∈ generatedKinds, m.store.lastId k + r₁.newIds k + r₂.newIds k ≤ i64Max) :
    ∃ (M₁ M₂ M₁' M₂' : Migrated) (ρ : ElementKind → Equiv.Perm Int),
      (m.migrate r₁).1 = .ok M₁ ∧ ((m.migrate r₁).2.migrate r₂).1 = .ok M₂ ∧
      (m.migrate r₂).1 = .ok M₂' ∧ ((m.migrate r₂).2.migrate r₁).1 = .ok M₁' ∧
      ((m.migrate r₁).2.migrate r₂).2.store.sequence =
        ((m.migrate r₂).2.migrate r₁).2.store.sequence ∧
      (((m.migrate r₁).2.migrate r₂).2.store.rows.rename fun k i => ρ k i).Perm
        ((m.migrate r₂).2.migrate r₁).2.store.rows ∧
      M₁.replaced = M₁'.replaced ∧ M₂.replaced = M₂'.replaced ∧
      M₁.report.erase = M₁'.report.erase ∧ M₂.report.erase = M₂'.report.erase ∧
      ∀ c, c ≠ r₂.personId →
        ((m.remove c).2.migrate r₂).1 = (m.migrate r₂).1 ∧
          ((m.migrate r₂).2.remove c).1 = (m.remove c).1 ∧
          ((m.remove c).2.migrate r₂).2 = ((m.migrate r₂).2.remove c).2 := by
  have room' : ∀ k ∈ generatedKinds, m.store.lastId k + r₂.newIds k + r₁.newIds k ≤ i64Max :=
    fun k generated => by
      have := room k generated
      omega
  obtain ⟨ok₁, ok₂, ordered⟩ := reachable.migrate_pair lockless different checked₁ checked₂ room
  obtain ⟨ok₂', ok₁', reversed⟩ :=
    reachable.migrate_pair lockless (Ne.symm different) checked₂ checked₁ room'
  -- the rows the store kept are those of neither contact, all numbered below the last ids
  have below : ∀ k i, ((m.store.withoutContact r₂.personId).withoutContact r₁.personId).rows.Names k i →
      i ≤ m.store.lastId k := fun k i named =>
    Tables.names_le_lastId reachable.consistent reachable.linksOwned
      (Tables.names_withoutContact _ (Tables.names_withoutContact _ named))
  refine ⟨_, _, _, _, fun k => blockSwap (m.store.lastId k) (r₁.newIds k) (r₂.newIds k),
    ok₁, ok₂, ok₂', ok₁', ?sequence, ?rows, rfl, rfl, ?first, ?second, ?removal⟩
  case sequence =>
    rw [ordered, reversed, add_comm r₁.newIds]
    rfl
  case rows =>
    rw [ordered, reversed, Tables.rows_raise, Tables.rows_appendRows, Tables.rows_raise,
      Tables.rows_appendRows, rename_blockSwap below, Tables.withoutContact_comm]
    exact Rows.perm_append_swap _ _ _
  case first =>
    exact (migration_mirrors (Migrator.migrate_of_ok ok₁).2.2.1).erase_eq
      (migration_mirrors (Migrator.migrate_of_ok ok₁').2.2.1)
  case second =>
    exact (migration_mirrors (Migrator.migrate_of_ok ok₂).2.2.1).erase_eq
      (migration_mirrors (Migrator.migrate_of_ok ok₂').2.2.1)
  case removal =>
    intro c other
    exact reachable.remove_migrate_comm lockless other checked₂ fun k generated => by
      have := room k generated
      omega

/-- Person 7, with an address phone and a restricted relationship, and person 1, with one phone,
migrated into a fresh store with threshold 100 in either order. -/
theorem nested_and_one_phone_records_commute :
    freshMigrator.Reachable ∧ freshMigrator.locks = none ∧
      nestedRecord.personId ≠ onePhoneRecord.personId ∧
      checkIdSpace nestedRecord freshMigrator.threshold = .ok () ∧
      checkIdSpace onePhoneRecord freshMigrator.threshold = .ok () ∧
      (∀ k ∈ generatedKinds,
        freshMigrator.store.lastId k + nestedRecord.newIds k + onePhoneRecord.newIds k ≤ i64Max) ∧
      ∃ (M₁ M₂ M₁' M₂' : Migrated) (ρ : ElementKind → Equiv.Perm Int),
        (freshMigrator.migrate nestedRecord).1 = .ok M₁ ∧
        ((freshMigrator.migrate nestedRecord).2.migrate onePhoneRecord).1 = .ok M₂ ∧
        (freshMigrator.migrate onePhoneRecord).1 = .ok M₂' ∧
        ((freshMigrator.migrate onePhoneRecord).2.migrate nestedRecord).1 = .ok M₁' ∧
        ((freshMigrator.migrate nestedRecord).2.migrate onePhoneRecord).2.store.sequence =
          ((freshMigrator.migrate onePhoneRecord).2.migrate nestedRecord).2.store.sequence ∧
        (((freshMigrator.migrate nestedRecord).2.migrate onePhoneRecord).2.store.rows.rename
            fun k i => ρ k i).Perm
          ((freshMigrator.migrate onePhoneRecord).2.migrate nestedRecord).2.store.rows ∧
        M₁.replaced = M₁'.replaced ∧ M₂.replaced = M₂'.replaced ∧
        M₁.report.erase = M₁'.report.erase ∧ M₂.report.erase = M₂'.report.erase ∧
        ∀ c, c ≠ onePhoneRecord.personId →
          ((freshMigrator.remove c).2.migrate onePhoneRecord).1 =
              (freshMigrator.migrate onePhoneRecord).1 ∧
            ((freshMigrator.migrate onePhoneRecord).2.remove c).1 = (freshMigrator.remove c).1 ∧
            ((freshMigrator.remove c).2.migrate onePhoneRecord).2 =
              ((freshMigrator.migrate onePhoneRecord).2.remove c).2 := by
  have fresh : Tables.fresh? 100 = some (({} : Tables).seed 99) := by cbv
  have reachable : freshMigrator.Reachable := .fresh none fresh
  have different : nestedRecord.personId ≠ onePhoneRecord.personId := by decide
  have checked₁ : checkIdSpace nestedRecord freshMigrator.threshold = .ok () := by cbv
  have checked₂ : checkIdSpace onePhoneRecord freshMigrator.threshold = .ok () := by cbv
  have room : ∀ k ∈ generatedKinds,
      freshMigrator.store.lastId k + nestedRecord.newIds k + onePhoneRecord.newIds k ≤ i64Max := by
    decide
  exact ⟨reachable, rfl, different, checked₁, checked₂, room,
    migrations_of_different_contacts_commute reachable rfl different checked₁ checked₂ room⟩

end Migration

end ContactMigration
