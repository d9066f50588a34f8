import ContactMigration.Proofs.Readback

/-!
# Reachable migrators

A migrator is reachable when it comes from a fresh store through migrations, removals, and locks
taken and given back on behalf of others. Every reachable store is consistent
(`Migrator.Reachable.consistent`), which is what the statements about successful migrations
assume.
-/

namespace ContactMigration

open Store Migration Work

namespace Migration

/-- The migrators that a fresh store reaches by the requests of the migrator's interface. -/
inductive Migrator.Reachable : Migrator → Prop
  | fresh {threshold : Int} {store : Tables} (locks : Option (List Int)) :
      Tables.fresh? threshold = some store → Reachable ⟨store, threshold, locks⟩
  | migrate {m : Migrator} (r : ContactRecord) : Reachable m → Reachable (m.migrate r).2
  | remove {m : Migrator} (contactId : Int) : Reachable m → Reachable (m.remove contactId).2
  | hold {m m' : Migrator} (contactId : Int) : Reachable m → m.hold contactId = .ok m' →
      Reachable m'
  | release {m : Migrator} (contactId : Int) : Reachable m → Reachable (m.release contactId).2

/-- A store with no rows is consistent, whatever its sequences. -/
theorem fresh_consistent {threshold : Int} {s : Tables} (fresh : Tables.fresh? threshold = some s) :
    s.Consistent := by
  unfold Tables.fresh? at fresh
  split at fresh
  · simp at fresh
  · simp only [Option.some.injEq] at fresh
    subst fresh
    refine ⟨⟨fun c referenced => ?_, fun x mem => ?_⟩, fun kind _ => ?_⟩
    · simp [Tables.seed, Tables.isReferenced] at referenced
    · simp [Tables.seed] at mem
    · cases kind <;> simp [Tables.seed, Tables.ids]

theorem removal_ok {contactId : Int} {s s' : Tables} {u : Unit} (consistent : s.Consistent)
    (ran : (removal contactId).runOn s = (.ok u, s')) :
    s.hasContact contactId = true ∧ s' = s.withoutContact contactId := by
  obtain ⟨found, s₁, guarded, rest⟩ := runOn_bind_eq_ok.mp ran
  obtain ⟨rfl, rfl⟩ := removeExisting_ok_of_consistent consistent guarded
  cases present : s.hasContact contactId
  · simp [present, runOn_throw] at rest
  · simp only [present, if_true, runOn_pure, Prod.mk.injEq] at rest
    exact ⟨rfl, rest.2.symm⟩

namespace Migrator

/-- A transaction that succeeds ran its work on the store, unlocked, and kept what it wrote. -/
theorem transact_of_ok {α : Type} {m : Migrator} {contactId : Int} {w : Work α} {a : α}
    (succeeded : (m.transact contactId w).1 = .ok a) :
    m.isLocked contactId = false ∧ w.runOn m.store = (.ok a, (m.transact contactId w).2.store) ∧
      (m.transact contactId w).2 = { m with store := (m.transact contactId w).2.store } := by
  rw [transact_eq] at succeeded ⊢
  by_cases locked : m.isLocked contactId = true
  · rw [if_pos locked] at succeeded
    simp at succeeded
  · rw [if_neg locked] at succeeded ⊢
    rcases ran : (atomically w).runOn m.store with ⟨_ | b, store⟩ <;>
      simp only [ran, Except.ok.injEq, reduceCtorEq] at succeeded ⊢
    subst succeeded
    exact ⟨by simpa using locked, runOn_atomically_eq_ok.mp ran, trivial⟩

/-- A migration that succeeds passed the id space check and ran on the store as one transaction,
leaving the threshold and the locks as they were. -/
theorem migrate_of_ok {m : Migrator} {r : ContactRecord} {M : Migrated}
    (succeeded : (m.migrate r).1 = .ok M) :
    checkIdSpace r m.threshold = .ok () ∧ m.isLocked r.personId = false ∧
      (migration r).runOn m.store = (.ok M, (m.migrate r).2.store) ∧
      (m.migrate r).2 = { m with store := (m.migrate r).2.store } := by
  rcases checked : checkIdSpace r m.threshold with refusal | ⟨⟩
  · simp [Migrator.migrate, checked] at succeeded
  · simp only [Migrator.migrate, checked] at succeeded ⊢
    exact ⟨trivial, transact_of_ok succeeded⟩

/-- A transaction whose work keeps an invariant of the store keeps it, whether it succeeds or
not. -/
theorem transact_keeps {α : Type} {inv : Tables → Prop} {m : Migrator} {contactId : Int}
    {w : Work α} (keeps : Triple inv w fun _ s => inv s) (holds : inv m.store) :
    inv (m.transact contactId w).2.store := by
  rw [transact_eq]
  split
  · exact holds
  · rcases ran : (atomically w).runOn m.store with ⟨_ | a, store⟩
    · rwa [runOn_atomically_of_error ran]
    · exact keeps holds (runOn_atomically_eq_ok.mp ran)

theorem hold_store {m m' : Migrator} {contactId : Int} (held : m.hold contactId = .ok m') :
    m'.store = m.store := by
  unfold hold at held
  split at held
  · split at held <;> simp only [reduceCtorEq, Except.ok.injEq] at held
    rw [← held]
  · simp only [Except.ok.injEq] at held
    rw [← held]

theorem release_store (m : Migrator) (contactId : Int) : (m.release contactId).2.store = m.store := by
  unfold release
  split
  · split <;> rfl
  · rfl

/-- Every reachable store is consistent: migrations and removals keep consistency, and locks do
not touch the store. -/
theorem Reachable.consistent {m : Migrator} (reachable : m.Reachable) : m.store.Consistent := by
  induction reachable with
  | fresh locks fresh => exact fresh_consistent fresh
  | migrate r _ ih =>
    unfold Migrator.migrate
    split
    · exact ih
    · exact transact_keeps (fun _ _ _ consistent ran => (migration_ok consistent ran).2.2) ih
  | remove contactId _ ih =>
    exact transact_keeps (fun _ _ _ consistent ran => by
      rw [(removal_ok consistent ran).2]
      exact Tables.withoutContact_consistent contactId consistent) ih
  | hold contactId _ held ih => rwa [hold_store held]
  | release contactId _ ih => rwa [release_store]

end Migrator

end Migration

end ContactMigration
