import ContactMigration.Migration.Migrator
import ContactMigration.Proofs.Work

/-!
# The lock a transaction takes

A migration or a removal takes its contact's lock before its transaction and gives it back when
the transaction ends, after the commit or on the early return of a failure. A lock that `hold`
takes was free, so the contact is held once and giving the lock back takes it out again: the
locks are as they were before the transaction (`release_hold`).

Main statement: `transact_eq`. A transaction is refused with `migration_in_progress` while its
lock is held, and otherwise runs its work as one transaction, keeping the store it leaves and
nothing else of the lock it took.
-/

namespace ContactMigration.Migration.Migrator

open Store

variable {m locked : Migrator} {contactId : Int}

theorem hold_of_isLocked (held : m.isLocked contactId = true) :
    m.hold contactId = .error (.inProgress contactId) := by
  obtain ⟨store, threshold, _ | locks⟩ := m
  · simp [isLocked] at held
  · simp_all [isLocked, hold]

/-- A free lock is taken: the contact joins the locks held, when the migrator takes locks. -/
theorem hold_of_unlocked (free : m.isLocked contactId = false) :
    m.hold contactId = .ok { m with locks := m.locks.map (contactId :: ·) } := by
  obtain ⟨store, threshold, _ | locks⟩ := m
  · rfl
  · simp_all [isLocked, hold]

/-- Giving back the lock `hold` just took, whatever the store has become meanwhile, answers that
a lock was held exactly when the migrator takes locks, and leaves the locks as they were. -/
theorem release_hold (taken : m.hold contactId = .ok locked) (s : Tables) :
    ({ locked with store := s } : Migrator).release contactId =
      (m.locks.isSome, { m with store := s }) := by
  cases held : m.isLocked contactId
  · rw [hold_of_unlocked held, Except.ok.injEq] at taken
    subst taken
    obtain ⟨store, threshold, locks⟩ := m
    cases locks with
    | none => rfl
    | some locks =>
      -- the lock was free, so it stands once at the head and `erase` takes exactly it out
      simp [release]
  · rw [hold_of_isLocked held] at taken
    cases taken

/-- A transaction is refused while its lock is held; otherwise it runs its work as one
transaction, and the lock it took is given back however the work ends. -/
theorem transact_eq {α : Type} (w : Work α) :
    m.transact contactId w =
      if m.isLocked contactId then (.error (.inProgress contactId), m)
      else
        let (outcome, store) := (Work.atomically w).runOn m.store
        (outcome, { m with store }) := by
  cases held : m.isLocked contactId
  · have taken := hold_of_unlocked held
    rw [transact, taken, if_neg Bool.false_ne_true]
    dsimp only
    rcases (Work.atomically w).runOn m.store with ⟨outcome, store⟩
    rw [release_hold taken store]
  · rw [transact, hold_of_isLocked held, if_pos rfl]

end ContactMigration.Migration.Migrator
