import ContactMigration.Proofs.Independence

/-!
# Removing a contact

On a reachable store and with the contact's lock free, a removal either finds no such contact,
fails with `contact_not_found` and changes nothing, or deletes the contact with every row that
belongs to it and nothing else. The id sequences stay where they were, so no table gives an id
it gave before; a second removal of the same contact then finds nothing.

Main statement: `removal_deletes_whole_contact`.
-/

namespace ContactMigration

open Store Migration

namespace Store.Tables

theorem contact?_eq_none_of_absent {s : Tables} {c : Int} (absent : s.hasContact c = false) :
    s.contact? c = none := by
  simp only [hasContact, List.any_eq_false, beq_iff_eq] at absent
  simpa [contact?, List.find?_eq_none] using absent

theorem aggregate?_eq_none_of_absent {s : Tables} {c : Int} (absent : s.hasContact c = false) :
    s.aggregate? c = none := by
  simp [aggregate?, contact?_eq_none_of_absent absent]

/-- Removing a contact from a consistent store leaves the next id of every table as it was: the
sequence stays, and it lies at or above every id the table held. -/
theorem nextId_withoutContact {s : Tables} (consistent : s.Consistent) (c : Int) {k : ElementKind}
    (generated : k ∈ generatedKinds) :
    nextId ((s.withoutContact c).sequence k) ((s.withoutContact c).ids k) =
      nextId (s.sequence k) (s.ids k) := by
  have before := (consistent.numbered k generated).2
  have after := ((withoutContact_consistent c consistent).numbered k generated).2
  rw [nextId_of_below before, nextId_of_below after]
  rfl

end Store.Tables

namespace Migration

/-- With the contact's lock free, removing a contact from a reachable store fails with
`contact_not_found` and changes nothing exactly when there is no such contact. Otherwise it
succeeds and leaves the store without the contact: it no longer exists and has no aggregate, no
row of any table names it or one of its relationships, every other contact's aggregate is as it
was, and the sequences stand where they were, so every table's next id lies above each id it
held. Removing the contact again then fails with `contact_not_found` and changes nothing. -/
theorem removal_deletes_whole_contact {m : Migrator} (reachable : m.Reachable) (c : Int)
    (unlocked : m.isLocked c = false) :
    (m.remove c = (.error (.contactNotFound c), m) ↔ m.store.hasContact c = false) ∧
    (m.store.hasContact c = true →
      (m.remove c).1 = .ok () ∧
      (m.remove c).2 = { m with store := m.store.withoutContact c } ∧
      (m.remove c).2.store.hasContact c = false ∧
      (m.remove c).2.store.aggregate? c = none ∧
      (m.remove c).2.store.isReferenced c = false ∧
      (∀ x ∈ (m.remove c).2.store.relationshipRestrictions,
        x.relationshipId ∉ m.store.relationshipIdsOf c) ∧
      (∀ c' ≠ c, (m.remove c).2.store.aggregate? c' = m.store.aggregate? c') ∧
      (m.remove c).2.store.sequence = m.store.sequence ∧
      (∀ k ∈ generatedKinds, ∀ n,
        nextId ((m.remove c).2.store.sequence k) ((m.remove c).2.store.ids k) = .ok n →
          ∀ i ∈ m.store.ids k, i < n) ∧
      (m.remove c).2.remove c = (.error (.contactNotFound c), (m.remove c).2)) := by
  have consistent := reachable.consistent
  have removed := Migrator.Reachable.remove_eq reachable c unlocked
  constructor
  · -- an absent contact owns no row, so the store without it is the store itself
    cases present : m.store.hasContact c
    · simp only [removed, present, Tables.withoutContact_of_absent consistent present]
      simp
    · simp [removed, present]
  · intro present
    have gone : (m.store.withoutContact c).hasContact c = false := by
      simp [Tables.hasContact_withoutContact]
    have again :=
      Migrator.Reachable.remove_eq (reachable.remove c) c (by rw [removed]; exact unlocked)
    simp only [removed, present, if_true] at again ⊢
    refine ⟨trivial, trivial, gone, Tables.aggregate?_eq_none_of_absent gone, ?_, ?_,
      fun c' other => Tables.aggregate?_withoutContact other consistent, rfl,
      fun k generated n next => ?_, ?_⟩
    · simp [Tables.isReferenced_withoutContact]
    · intro x mem
      simpa using (List.mem_filter.mp mem).2
    · rw [Tables.nextId_withoutContact consistent c generated] at next
      exact lt_of_nextId_eq_ok next
    · -- the second removal runs on the store without the contact, which owns nothing there
      simp only [again, gone, Bool.false_eq_true, if_false]
      rw [Tables.withoutContact_of_absent (Tables.withoutContact_consistent c consistent) gone]

/-- Person 7, migrated into a fresh store, is removed whole; a second removal finds nothing. -/
theorem nested_record_removed_whole :
    let m := (freshMigrator.migrate nestedRecord).2
    m.store.hasContact 7 = true ∧ (m.remove 7).1 = .ok () ∧
      (m.remove 7).2.store.aggregate? 7 = none ∧
      (m.remove 7).2.store.isReferenced 7 = false ∧
      (m.remove 7).2.remove 7 = (.error (.contactNotFound 7), (m.remove 7).2) := by
  have fresh : Tables.fresh? 100 = some (({} : Tables).seed 99) := by cbv
  have reachable : (freshMigrator.migrate nestedRecord).2.Reachable :=
    .migrate nestedRecord (.fresh none fresh)
  have unlocked : (freshMigrator.migrate nestedRecord).2.isLocked 7 = false := by cbv
  have present : (freshMigrator.migrate nestedRecord).2.store.hasContact 7 = true := by cbv
  obtain ⟨-, removes⟩ := removal_deletes_whole_contact reachable 7 unlocked
  obtain ⟨succeeded, -, -, noAggregate, unreferenced, -, -, -, -, again⟩ := removes present
  exact ⟨present, succeeded, noAggregate, unreferenced, again⟩

end Migration

end ContactMigration
