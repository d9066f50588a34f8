import ContactMigration.Proofs.Sequences

/-!
# Per-contact locks

A session whose migrator takes locks interleaves requests with locks taken and given back on
behalf of others. Which locks are held after a history is said without the migrator: a contact's
lock is held when the history's last lock step on that contact is a hold (`HeldAfter`). The
migrator's own lock list follows it step by step (`Migrator.isLocked_perform`), since a migration
or a removal gives back its own lock however it ends.

Main statement: `contact_locks_refuse_exactly_when_held`. Holding a lock, migrating a record that
passes the id space check and removing a contact each fail with `migration_in_progress` exactly
when the contact's lock is held, and then change nothing; a record outside the id space is
refused for that first. Every other outcome is that of the migrator without locks.
-/

namespace ContactMigration.Migration

open Store Work

/-- One step of a session whose migrator takes locks: a request, or a lock taken or given back
on behalf of someone else. -/
inductive Step where
  | request (q : Request)
  | hold (contactId : Int)
  | release (contactId : Int)

/-- What a step does to the lock of contact `c`: takes it, gives it back, or nothing. -/
def Step.lockOn (c : Int) : Step → Option Bool
  | .request _ => none
  | .hold c' => if c' = c then some true else none
  | .release c' => if c' = c then some false else none

/-- Whether a history leaves the lock of contact `c` held: its last lock step on `c` is a hold. -/
def HeldAfter (steps : List Step) (c : Int) : Prop :=
  (steps.filterMap (·.lockOn c)).getLast? = some true

namespace Migrator

/-- The migrator after a step; a hold that is refused changes nothing. -/
def perform (m : Migrator) : Step → Migrator
  | .request q => m.serve q
  | .hold c =>
    match m.hold c with
    | .ok m' => m'
    | .error _ => m
  | .release c => (m.release c).2

/-- The migrator after a history of steps. -/
def performAll (m : Migrator) : List Step → Migrator
  | [] => m
  | s :: rest => (m.perform s).performAll rest

/-- The migrator takes locks, and holds each at most once. -/
def TakesLocks (m : Migrator) : Prop :=
  ∃ held, m.locks = some held ∧ held.Nodup

theorem isLocked_of_locks {m : Migrator} {held : List Int} (locks : m.locks = some held)
    (c : Int) : m.isLocked c = true ↔ c ∈ held := by
  simp [isLocked, locks]

theorem isLocked_eq_false_of_free {m : Migrator} {held : List Int} (locks : m.locks = some held)
    {c : Int} (free : c ∉ held) : m.isLocked c = false :=
  Bool.eq_false_iff.mpr fun locked => free ((isLocked_of_locks locks c).mp locked)

/-! ## Requests give back their own lock -/

/-- A transaction leaves the locks as it found them: refused, it took nothing, and otherwise it
gave back the lock it took, whether its work succeeded or failed. -/
theorem transact_locks {α : Type} (m : Migrator) (contactId : Int) (w : Work α) :
    (m.transact contactId w).2.locks = m.locks := by
  rw [transact_eq]
  split
  · rfl
  · rcases (Work.atomically w).runOn m.store with ⟨outcome, store⟩
    rfl

theorem migrate_locks (m : Migrator) (r : ContactRecord) : (m.migrate r).2.locks = m.locks := by
  unfold Migrator.migrate
  split
  · rfl
  · exact transact_locks _ _ _

theorem remove_locks (m : Migrator) (c : Int) : (m.remove c).2.locks = m.locks :=
  transact_locks _ _ _

theorem serve_locks (m : Migrator) : ∀ q, (m.serve q).locks = m.locks
  | .migrate r => migrate_locks m r
  | .remove c => remove_locks m c

/-- A transaction on a held lock is refused before any work. -/
theorem transact_of_locked {α : Type} {m : Migrator} {contactId : Int} (w : Work α)
    (locked : m.isLocked contactId = true) :
    m.transact contactId w = (.error (.inProgress contactId), m) := by
  rw [transact_eq, if_pos locked]

/-- On a free lock a transaction runs as it would on the migrator without locks. -/
theorem transact_of_unlocked {α : Type} {m : Migrator} {contactId : Int} (w : Work α)
    (unlocked : m.isLocked contactId = false) :
    m.transact contactId w =
      ((({ m with locks := none } : Migrator).transact contactId w).1,
        { (({ m with locks := none } : Migrator).transact contactId w).2 with
          locks := m.locks }) := by
  have free : ({ m with locks := none } : Migrator).isLocked contactId = false := rfl
  rw [transact_eq, transact_eq, if_neg (by simp [unlocked]), if_neg (by simp [free])]

theorem migrate_of_unlocked {m : Migrator} {r : ContactRecord}
    (unlocked : m.isLocked r.personId = false) :
    m.migrate r =
      ((({ m with locks := none } : Migrator).migrate r).1,
        { (({ m with locks := none } : Migrator).migrate r).2 with locks := m.locks }) := by
  have sameThreshold : ({ m with locks := none } : Migrator).threshold = m.threshold := rfl
  unfold Migrator.migrate
  rw [sameThreshold]
  rcases checkIdSpace r m.threshold with e | ⟨⟩
  · rfl
  · exact transact_of_unlocked _ unlocked

/-- A transaction fails with `migration_in_progress` exactly when its lock is held, provided its
work never fails so. -/
theorem transact_inProgress_iff {α : Type} {P : MigrationError → Prop} {m : Migrator}
    {contactId : Int} {w : Work α} (raises : Raises P w) (other : ¬ P (.inProgress contactId)) :
    (m.transact contactId w).1 = .error (.inProgress contactId) ↔ m.isLocked contactId = true := by
  constructor
  · intro failed
    rcases (transact_of_error raises failed).2 with locked | wrapped
    · cases locked' : m.isLocked contactId
      · -- unlocked, the failure came from the work, which never fails so
        rw [transact_eq, if_neg (by simp [locked'])] at failed
        rcases ran : (atomically w).runOn m.store with ⟨_ | _, store⟩ <;>
          simp only [ran, reduceCtorEq, Except.error.injEq] at failed
        exact absurd (failed ▸ Raises.atomically raises ran) other
      · rfl
    · exact absurd wrapped other
  · intro locked
    rw [transact_of_locked w locked]

theorem inProgress_not_wrapped (c : Int) : ¬ (MigrationError.inProgress c).IsWrapped := by
  simp [MigrationError.IsWrapped, MigrationError.code]

/-! ## Steps on the lock list -/

theorem hold_of_held {m : Migrator} {held : List Int} (locks : m.locks = some held) {c : Int}
    (mem : c ∈ held) : m.hold c = .error (.inProgress c) := by
  simp [hold, locks, mem]

theorem hold_of_free {m : Migrator} {held : List Int} (locks : m.locks = some held) {c : Int}
    (free : c ∉ held) : m.hold c = .ok { m with locks := some (c :: held) } := by
  simp [hold, locks, free]

/-- One step moves the lock of each contact as the step's own lock step says, and keeps each
lock held at most once. -/
theorem isLocked_perform {m : Migrator} (takes : m.TakesLocks) (s : Step) :
    (m.perform s).TakesLocks ∧
      ∀ c, (m.perform s).isLocked c = (s.lockOn c).getD (m.isLocked c) := by
  obtain ⟨held, locks, nodup⟩ := takes
  cases s with
  | request q =>
    have same := serve_locks m q
    exact ⟨⟨held, same.trans locks, nodup⟩, fun c => by simp [perform, Step.lockOn, isLocked, same]⟩
  | hold c' =>
    by_cases mem : c' ∈ held
    · -- refused: the lock was held already, so holding it again says nothing new
      refine ⟨⟨held, by simp [perform, hold_of_held locks mem, locks], nodup⟩, fun c => ?_⟩
      simp only [perform, hold_of_held locks mem, Step.lockOn]
      by_cases same : c' = c
      · subst same
        simp [(isLocked_of_locks locks c').mpr mem]
      · simp [same]
    · have taken : (m.perform (.hold c')).locks = some (c' :: held) := by
        simp [perform, hold_of_free locks mem]
      refine ⟨⟨c' :: held, taken, List.nodup_cons.mpr ⟨mem, nodup⟩⟩, fun c => ?_⟩
      have now := isLocked_of_locks taken c
      by_cases same : c' = c
      · subst same
        simpa [Step.lockOn] using now
      · have before := isLocked_of_locks locks c
        simp only [Step.lockOn, same, if_false, Option.getD_none]
        rw [Bool.eq_iff_iff, now, before, List.mem_cons]
        exact ⟨fun taken => taken.elim (fun h => absurd h.symm same) id, .inr⟩
  | release c' =>
    by_cases mem : c' ∈ held
    · have given : (m.perform (.release c')).locks = some (held.erase c') := by
        simp [perform, release, locks, mem]
      refine ⟨⟨held.erase c', given, nodup.erase c'⟩, fun c => ?_⟩
      have now := isLocked_of_locks given c
      rw [nodup.mem_erase_iff] at now
      by_cases same : c' = c
      · subst same
        simp only [Step.lockOn, if_true, Option.getD_some]
        simpa using now
      · have before := isLocked_of_locks locks c
        simp only [Step.lockOn, same, if_false, Option.getD_none]
        rw [Bool.eq_iff_iff, now, before]
        exact ⟨And.right, fun h => ⟨Ne.symm same, h⟩⟩
    · -- nothing to give back
      have kept : m.perform (.release c') = m := by simp [perform, release, locks, mem]
      refine ⟨⟨held, by rw [kept, locks], nodup⟩, fun c => ?_⟩
      rw [kept]
      by_cases same : c' = c
      · subst same
        simp [Step.lockOn, isLocked_eq_false_of_free locks mem]
      · simp [Step.lockOn, same]

/-- After a history, the lock of each contact is held as the history's last lock step on it
says, or as it was before when there is none. -/
theorem isLocked_performAll {m : Migrator} (takes : m.TakesLocks) (steps : List Step) :
    (m.performAll steps).TakesLocks ∧ ∀ c,
      (m.performAll steps).isLocked c =
        ((steps.filterMap (·.lockOn c)).getLast?).getD (m.isLocked c) := by
  induction steps generalizing m with
  | nil => exact ⟨takes, fun c => rfl⟩
  | cons s rest ih =>
    obtain ⟨takesNext, stepped⟩ := isLocked_perform takes s
    obtain ⟨takesAll, ran⟩ := ih takesNext
    refine ⟨takesAll, fun c => ?_⟩
    rw [performAll, ran c, stepped c, List.filterMap_cons]
    cases s.lockOn c <;> simp [List.getLast?_cons]

end Migrator

/-- In a session whose migrator starts with no lock held, whatever history of requests, holds and
releases came before, let `H` be the contacts whose lock the history left held. Then holding a
contact's lock fails with `migration_in_progress` exactly when the contact is in `H`, and
otherwise adds it to `H`. A migration of a record that passes the id space check fails with
`migration_in_progress` exactly when the record's contact is in `H`, and then leaves the
migrator as it was; a record that fails the check is refused for that, held lock or not. A
removal fails with `migration_in_progress` exactly when the contact is in `H`, whether or not it
exists, and then changes nothing. On a contact outside `H` a migration or a removal ends as it
would on the migrator without locks. A migration or a removal takes its contact's lock for its
transaction, and giving back a lock so taken answers that it was held and leaves `H` as it was,
whatever the transaction did to the store; so migrations and removals, successful or not, leave
`H` as it was. Holding or giving back one contact's lock leaves every other contact's lock as it
was. -/
theorem contact_locks_refuse_exactly_when_held (m₀ : Migrator) (start : m₀.locks = some [])
    (steps : List Step) :
    let m := m₀.performAll steps
    ∃ H : List Int, m.locks = some H ∧ (∀ c, c ∈ H ↔ HeldAfter steps c) ∧
      (∀ c, m.hold c = .error (.inProgress c) ↔ c ∈ H) ∧
      (∀ c, c ∉ H → m.hold c = .ok { m with locks := some (c :: H) }) ∧
      (∀ c, c ∉ H → ∀ s, ({ m with locks := some (c :: H), store := s } : Migrator).release c =
        (true, { m with store := s })) ∧
      (∀ r, checkIdSpace r m.threshold = .ok () →
        ((m.migrate r).1 = .error (.inProgress r.personId) ↔ r.personId ∈ H) ∧
        (r.personId ∈ H → m.migrate r = (.error (.inProgress r.personId), m))) ∧
      (∀ r e, checkIdSpace r m.threshold = .error e → m.migrate r = (.error e, m)) ∧
      (∀ c, ((m.remove c).1 = .error (.inProgress c) ↔ c ∈ H) ∧
        (c ∈ H → m.remove c = (.error (.inProgress c), m))) ∧
      (∀ r, r.personId ∉ H →
        (m.migrate r).1 = (({ m with locks := none } : Migrator).migrate r).1 ∧
        (m.migrate r).2 =
          { (({ m with locks := none } : Migrator).migrate r).2 with locks := m.locks }) ∧
      (∀ c, c ∉ H →
        (m.remove c).1 = (({ m with locks := none } : Migrator).remove c).1 ∧
        (m.remove c).2 =
          { (({ m with locks := none } : Migrator).remove c).2 with locks := m.locks }) ∧
      (∀ r, (m.migrate r).2.locks = m.locks) ∧ (∀ c, (m.remove c).2.locks = m.locks) ∧
      (∀ c c', c ≠ c' → (m.perform (.hold c)).isLocked c' = m.isLocked c' ∧
        (m.perform (.release c)).isLocked c' = m.isLocked c') := by
  intro m
  have takes₀ : m₀.TakesLocks := ⟨[], start, List.nodup_nil⟩
  obtain ⟨⟨H, locks, nodup⟩, ran⟩ := Migrator.isLocked_performAll takes₀ steps
  have locked : ∀ c, m.isLocked c = true ↔ c ∈ H := Migrator.isLocked_of_locks locks
  have unlocked : ∀ c, c ∉ H → m.isLocked c = false := fun _ free =>
    Migrator.isLocked_eq_false_of_free locks free
  have stepped (s : Step) : ∀ c, (m.perform s).isLocked c = (s.lockOn c).getD (m.isLocked c) :=
    (Migrator.isLocked_perform ⟨H, locks, nodup⟩ s).2
  refine ⟨H, locks, fun c => ?_, fun c => ?_, fun c => Migrator.hold_of_free locks,
    fun c free s => ?_, fun r checked => ⟨?_, fun mem => ?_⟩,
    fun r e refused => by simp [Migrator.migrate, refused],
    fun c => ⟨?_, fun mem => Migrator.transact_of_locked _ ((locked c).mpr mem)⟩,
    fun r free => ?_, fun c free => ?_, Migrator.migrate_locks m, Migrator.remove_locks m,
    fun c c' other => ⟨?_, ?_⟩⟩
  · -- the history's last lock step on `c`, the start holding nothing
    rw [← locked c, ran c]
    have nothing : m₀.isLocked c = false := by simp [Migrator.isLocked, start]
    rw [nothing, HeldAfter]
    cases (steps.filterMap (·.lockOn c)).getLast? with
    | none => simp
    | some b => cases b <;> simp
  · constructor
    · intro refused
      by_contra free
      rw [Migrator.hold_of_free locks free] at refused
      cases refused
    · exact Migrator.hold_of_held locks
  · -- the lock a request takes on a free contact, given back after its transaction
    rw [Migrator.release_hold (Migrator.hold_of_free locks free) s, locks, Option.isSome_some]
  · simp only [Migrator.migrate, checked]
    rw [Migrator.transact_inProgress_iff (migration_raises r) (Migrator.inProgress_not_wrapped _),
      locked]
  · simp only [Migrator.migrate, checked]
    exact Migrator.transact_of_locked _ ((locked _).mpr mem)
  · rw [Migrator.remove, Migrator.transact_inProgress_iff (removal_raises c), locked]
    rintro (wrapped | notFound)
    · exact Migrator.inProgress_not_wrapped c wrapped
    · cases notFound
  · rw [Migrator.migrate_of_unlocked (unlocked _ free)]
    exact ⟨rfl, rfl⟩
  · rw [Migrator.remove, Migrator.remove, Migrator.transact_of_unlocked _ (unlocked _ free)]
    exact ⟨rfl, rfl⟩
  · rw [stepped (.hold c) c']
    simp [Step.lockOn, other]
  · rw [stepped (.release c) c']
    simp [Step.lockOn, other]

/-- A session that holds the lock of person 7 and then gives it back. -/
theorem held_then_given_back_locks :
    ({ freshMigrator with locks := some [] } : Migrator).locks = some [] ∧
      let m := ({ freshMigrator with locks := some [] } : Migrator).performAll
        [.hold 7, .request (.migrate nestedRecord), .release 7]
      ∃ H : List Int, m.locks = some H ∧
        (∀ c, c ∈ H ↔ HeldAfter [.hold 7, .request (.migrate nestedRecord), .release 7] c) ∧
        ∀ c, ((m.remove c).1 = .error (.inProgress c) ↔ c ∈ H) := by
  refine ⟨rfl, ?_⟩
  obtain ⟨H, locks, held, -, -, -, -, -, removes, -⟩ :=
    contact_locks_refuse_exactly_when_held ({ freshMigrator with locks := some [] } : Migrator) rfl
      [.hold 7, .request (.migrate nestedRecord), .release 7]
  exact ⟨H, locks, held, fun c => (removes c).1⟩

end ContactMigration.Migration
