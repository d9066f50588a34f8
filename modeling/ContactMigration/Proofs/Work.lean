import Mathlib
import ContactMigration.Migration.Work

/-!
# Running work on the store

`Work.runOn` gives the outcome of a computation on the store together with the store after it.
This module says what each building block of work does under `runOn`, so that later proofs read a
migration step by step without opening the monad: a bound computation runs its first part and,
when that succeeds, its continuation from the store it left; a statement either changes the store
or, refused, leaves it as it was and reports a failure wrapped with the contact and element kind;
a transaction that fails hands back the store it started from (`runOn_atomically_of_error`).

Two kinds of statements about work are closed under sequencing and `List.mapM`: a `Work.Triple`
says what holds of the value and the store after every successful run that starts in a given kind
of store, and `Work.Raises` says what holds of every failure.
-/

namespace ContactMigration.Migration

open Store

section Store

variable {β : Type} {insert : Tables → β → Except StoreError (β × Tables)} {s s' : Tables}
  {row v : β}

theorem Port.ofStore_eq_ok :
    Port.ofStore insert s row = .ok (v, s') ↔ insert s row = .ok (v, s') := by
  unfold Port.ofStore
  cases insert s row <;> simp [Except.mapError]

theorem Port.ofStore_eq_error {e : MigrationError} :
    Port.ofStore insert s row = .error e ↔
      ∃ cause, insert s row = .error cause ∧ e = .store cause := by
  unfold Port.ofStore
  cases insert s row <;> simp [Except.mapError, eq_comm]

end Store

namespace Work

variable {α β : Type}

/-! ## The building blocks -/

@[simp]
theorem runOn_pure (a : α) (s : Tables) : (pure a : Work α).runOn s = (.ok a, s) := rfl

@[simp]
theorem runOn_get (s : Tables) : (get : Work Tables).runOn s = (.ok s, s) := rfl

@[simp]
theorem runOn_set (s s' : Tables) : (set s' : Work PUnit).runOn s = (.ok ⟨⟩, s') := rfl

@[simp]
theorem runOn_throw (e : MigrationError) (s : Tables) :
    (throw e : Work α).runOn s = (.error e, s) := rfl

theorem runOn_bind (x : Work α) (f : α → Work β) (s : Tables) :
    (x >>= f).runOn s =
      match x.runOn s with
      | (.ok a, s') => (f a).runOn s'
      | (.error e, s') => (.error e, s') := by
  show (ExceptT.bind x f).run.run s = _
  simp only [ExceptT.bind, ExceptT.run, ExceptT.mk, runOn, StateT.run, bind, StateT.bind]
  rcases x s with ⟨_ | _, s'⟩ <;> simp [ExceptT.bindCont]
  rfl

theorem runOn_map (f : α → β) (x : Work α) (s : Tables) :
    (f <$> x).runOn s =
      match x.runOn s with
      | (.ok a, s') => (.ok (f a), s')
      | (.error e, s') => (.error e, s') := by
  rw [map_eq_pure_bind, runOn_bind]
  rcases x.runOn s with ⟨_ | _, _⟩ <;> rfl

theorem runOn_bind_of_ok {x : Work α} {s s' : Tables} {a : α} (f : α → Work β)
    (ran : x.runOn s = (.ok a, s')) : (x >>= f).runOn s = (f a).runOn s' := by
  rw [runOn_bind, ran]

/-- A sequenced computation succeeds exactly when its first part succeeds and its continuation
succeeds from the store the first part left. -/
theorem runOn_bind_eq_ok {x : Work α} {f : α → Work β} {s s'' : Tables} {b : β} :
    (x >>= f).runOn s = (.ok b, s'') ↔
      ∃ a s', x.runOn s = (.ok a, s') ∧ (f a).runOn s' = (.ok b, s'') := by
  rw [runOn_bind]
  constructor
  · intro ran
    rcases first : x.runOn s with ⟨_ | a, s'⟩
    · simp [first] at ran
    · exact ⟨a, s', rfl, by simpa [first] using ran⟩
  · rintro ⟨a, s', first, rest⟩
    simp [first, rest]

theorem runOn_attempt {γ : Type} (contactId : Int) (kind : ElementKind)
    (statement : Tables → Except MigrationError (γ × Tables)) (s : Tables) :
    (attempt contactId kind statement).runOn s =
      match statement s with
      | .ok (value, s') => (.ok value, s')
      | .error e => (.error (e.during contactId kind), s) := by
  unfold attempt
  rw [runOn_bind]
  rcases h : statement s with e | ⟨value, s'⟩ <;> simp [h, runOn_map]

theorem runOn_attempt_eq_ok {γ : Type} {contactId : Int} {kind : ElementKind}
    {statement : Tables → Except MigrationError (γ × Tables)} {s s' : Tables} {value : γ} :
    (attempt contactId kind statement).runOn s = (.ok value, s') ↔
      statement s = .ok (value, s') := by
  rw [runOn_attempt]
  rcases statement s with _ | ⟨_, _⟩ <;> simp

theorem runOn_step {γ : Type} (contactId : Int) (kind : ElementKind)
    (statement : Tables → Except StoreError (γ × Tables)) (s : Tables) :
    (step contactId kind statement).runOn s =
      match statement s with
      | .ok (value, s') => (.ok value, s')
      | .error e => (.error ((MigrationError.store e).during contactId kind), s) := by
  rw [step, runOn_attempt]
  rcases statement s with e | ⟨value, s'⟩ <;> rfl

theorem runOn_step_eq_ok {γ : Type} {contactId : Int} {kind : ElementKind}
    {statement : Tables → Except StoreError (γ × Tables)} {s s' : Tables} {value : γ} :
    (step contactId kind statement).runOn s = (.ok value, s') ↔ statement s = .ok (value, s') := by
  rw [runOn_step]
  rcases statement s with _ | ⟨_, _⟩ <;> simp

theorem runOn_change (contactId : Int) (kind : ElementKind)
    (statement : Tables → Except StoreError Tables) (s : Tables) :
    (change contactId kind statement).runOn s =
      match statement s with
      | .ok s' => (.ok ⟨⟩, s')
      | .error e => (.error ((MigrationError.store e).during contactId kind), s) := by
  rcases h : statement s with e | s' <;> simp [change, runOn_step, h]

theorem runOn_atomically (w : Work α) (s : Tables) :
    (atomically w).runOn s =
      match w.runOn s with
      | (.ok a, s') => (.ok a, s')
      | (.error e, _) => (.error e, s) := by
  have lifted : runOn (liftM (ExceptT.run w)) s = (.ok (w.runOn s).1, (w.runOn s).2) := rfl
  unfold atomically
  rw [runOn_bind, runOn_get]
  simp only
  rw [runOn_bind, lifted]
  rcases w.runOn s with ⟨_ | _, _⟩ <;> simp [runOn_bind]

/-- A transaction that fails leaves the store as it found it, whatever its work had written
before the failure. -/
theorem runOn_atomically_of_error {w : Work α} {s s' : Tables} {e : MigrationError}
    (ran : (atomically w).runOn s = (.error e, s')) : s' = s := by
  rw [runOn_atomically] at ran
  rcases h : w.runOn s with ⟨_ | _, _⟩ <;> simp [h] at ran
  exact ran.2.symm

theorem runOn_atomically_eq_ok {w : Work α} {s s' : Tables} {a : α} :
    (atomically w).runOn s = (.ok a, s') ↔ w.runOn s = (.ok a, s') := by
  rw [runOn_atomically]
  rcases w.runOn s with ⟨_ | _, _⟩ <;> simp

theorem runOn_mapM_nil (f : α → Work β) (s : Tables) :
    (([] : List α).mapM f).runOn s = (.ok [], s) :=
  rfl

theorem runOn_mapM_cons (f : α → Work β) (x : α) (xs : List α) (s : Tables) :
    ((x :: xs).mapM f).runOn s =
      (do let y ← f x; let ys ← xs.mapM f; pure (y :: ys) : Work (List β)).runOn s := by
  rw [List.mapM_cons]

/-- A loop succeeds on a list exactly when the first item's work succeeds and the loop succeeds on
the rest from the store it left. -/
theorem runOn_mapM_cons_eq_ok {f : α → Work β} {x : α} {xs : List α} {s s'' : Tables}
    {ys : List β} :
    ((x :: xs).mapM f).runOn s = (.ok ys, s'') ↔
      ∃ y rest s', (f x).runOn s = (.ok y, s') ∧ (xs.mapM f).runOn s' = (.ok rest, s'') ∧
        ys = y :: rest := by
  simp only [runOn_mapM_cons, runOn_bind_eq_ok, runOn_pure, Prod.mk.injEq, Except.ok.injEq]
  constructor
  · rintro ⟨y, s', first, rest, s'', loop, rfl, rfl⟩
    exact ⟨y, rest, s', first, loop, rfl⟩
  · rintro ⟨y, rest, s', first, loop, rfl⟩
    exact ⟨y, s', first, rest, _, loop, rfl, rfl⟩

/-! ## What holds after a successful run -/

/-- Every successful run of `w` from a store satisfying `pre` gives a value and ends in a store
that satisfy `post`. -/
def Triple (pre : Tables → Prop) (w : Work α) (post : α → Tables → Prop) : Prop :=
  ∀ ⦃s a s'⦄, pre s → w.runOn s = (.ok a, s') → post a s'

namespace Triple

variable {pre : Tables → Prop} {post : α → Tables → Prop}

protected theorem pure (a : α) (establish : ∀ s, pre s → post a s) :
    Triple pre (pure a) post := by
  intro s b s' holds ran
  simp only [runOn_pure, Prod.mk.injEq, Except.ok.injEq] at ran
  obtain ⟨rfl, rfl⟩ := ran
  exact establish s holds

protected theorem get {post : Tables → Tables → Prop} (establish : ∀ s, pre s → post s s) :
    Triple pre get post := by
  intro s b s' holds ran
  simp only [runOn_get, Prod.mk.injEq, Except.ok.injEq] at ran
  obtain ⟨rfl, rfl⟩ := ran
  exact establish s holds

protected theorem bind {mid : α → Tables → Prop} {post : β → Tables → Prop} {x : Work α}
    {f : α → Work β} (first : Triple pre x mid) (rest : ∀ a, Triple (mid a) (f a) post) :
    Triple pre (x >>= f) post := by
  intro s b s'' holds ran
  obtain ⟨a, s', ranFirst, ranRest⟩ := runOn_bind_eq_ok.mp ran
  exact rest a (first holds ranFirst) ranRest

theorem mono {pre' : Tables → Prop} {post' : α → Tables → Prop} {w : Work α}
    (triple : Triple pre w post) (weaker : ∀ s, pre' s → pre s)
    (stronger : ∀ a s, post a s → post' a s) : Triple pre' w post' :=
  fun _ _ _ holds ran => stronger _ _ (triple (weaker _ holds) ran)

protected theorem attempt {γ : Type} {post : γ → Tables → Prop} {contactId : Int}
    {kind : ElementKind} {statement : Tables → Except MigrationError (γ × Tables)}
    (accepted : ∀ s v s', pre s → statement s = .ok (v, s') → post v s') :
    Triple pre (attempt contactId kind statement) post :=
  fun s _ _ holds ran => accepted s _ _ holds (runOn_attempt_eq_ok.mp ran)

protected theorem step {γ : Type} {post : γ → Tables → Prop} {contactId : Int}
    {kind : ElementKind} {statement : Tables → Except StoreError (γ × Tables)}
    (accepted : ∀ s v s', pre s → statement s = .ok (v, s') → post v s') :
    Triple pre (step contactId kind statement) post :=
  fun s _ _ holds ran => accepted s _ _ holds (runOn_step_eq_ok.mp ran)

/-- A loop over a list keeps an invariant of the store when every item's work does, and each
value it returns is related to its item as that item's work promises. -/
protected theorem mapM {inv : Tables → Prop} (related : α → β → Prop) {f : α → Work β} :
    ∀ (xs : List α), (∀ x ∈ xs, Triple inv (f x) fun y s => inv s ∧ related x y) →
      Triple inv (xs.mapM f) fun ys s => inv s ∧ List.Forall₂ related xs ys
  | [], _ => by
    intro s ys s' holds ran
    simp only [runOn_mapM_nil, Prod.mk.injEq, Except.ok.injEq] at ran
    obtain ⟨rfl, rfl⟩ := ran
    exact ⟨holds, .nil⟩
  | x :: xs, each => by
    rw [show (x :: xs).mapM f = (do let y ← f x; let ys ← xs.mapM f; pure (y :: ys)) from
      List.mapM_cons]
    refine Triple.bind (each x List.mem_cons_self) fun y => ?_
    refine Triple.bind (?_ : Triple _ (xs.mapM f)
      fun ys s => (inv s ∧ related x y) ∧ List.Forall₂ related xs ys)
      fun ys => Triple.pure _ fun s holds => ⟨holds.1.1, .cons holds.1.2 holds.2⟩
    intro s ys s' holds ran
    have after := Triple.mapM related xs (fun z mem => each z (List.mem_cons_of_mem x mem)) holds.1 ran
    exact ⟨⟨after.1, holds.2⟩, after.2⟩

end Triple

/-! ## What every failure is -/

/-- Every failed run of `w` fails with an error satisfying `P`. -/
def Raises (P : MigrationError → Prop) (w : Work α) : Prop :=
  ∀ ⦃s e s'⦄, w.runOn s = (.error e, s') → P e

namespace Raises

variable {P : MigrationError → Prop}

protected theorem pure (a : α) : Raises P (pure a) := by
  intro s e s' ran
  simp at ran

protected theorem get : Raises P get := by
  intro s e s' ran
  simp at ran

protected theorem throw {e : MigrationError} (holds : P e) : Raises P (throw e : Work α) := by
  intro s e' s' ran
  simp only [runOn_throw, Prod.mk.injEq, Except.error.injEq] at ran
  exact ran.1 ▸ holds

protected theorem bind {x : Work α} {f : α → Work β} (first : Raises P x)
    (rest : ∀ a, Raises P (f a)) : Raises P (x >>= f) := by
  intro s e s'' ran
  rw [runOn_bind] at ran
  rcases ranFirst : x.runOn s with ⟨e' | a, s'⟩ <;> rw [ranFirst] at ran
  · simp only [Prod.mk.injEq, Except.error.injEq] at ran
    exact ran.1 ▸ first ranFirst
  · exact rest a ran

protected theorem attempt {γ : Type} {contactId : Int} {kind : ElementKind}
    {statement : Tables → Except MigrationError (γ × Tables)}
    (wrapped : ∀ e : MigrationError, P (e.during contactId kind)) :
    Raises P (attempt contactId kind statement) := by
  intro s e s' ran
  rw [runOn_attempt] at ran
  split at ran
  · simp at ran
  · simp only [Prod.mk.injEq, Except.error.injEq] at ran
    exact ran.1 ▸ wrapped _

protected theorem step {γ : Type} {contactId : Int} {kind : ElementKind}
    {statement : Tables → Except StoreError (γ × Tables)}
    (wrapped : ∀ e, P ((MigrationError.store e).during contactId kind)) :
    Raises P (step contactId kind statement) := by
  intro s e s' ran
  rw [runOn_step] at ran
  split at ran
  · simp at ran
  · simp only [Prod.mk.injEq, Except.error.injEq] at ran
    exact ran.1 ▸ wrapped _

protected theorem mapM {f : α → Work β} :
    ∀ (xs : List α), (∀ x ∈ xs, Raises P (f x)) → Raises P (xs.mapM f)
  | [], _ => by
    intro s e s' ran
    simp at ran
  | x :: xs, each => by
    rw [List.mapM_cons]
    exact Raises.bind (each x List.mem_cons_self) fun _ =>
      Raises.bind (Raises.mapM xs fun z mem => each z (List.mem_cons_of_mem x mem)) fun _ =>
        Raises.pure _

protected theorem atomically {w : Work α} (inner : Raises P w) : Raises P (atomically w) := by
  intro s e s' ran
  rw [runOn_atomically] at ran
  rcases ranInner : w.runOn s with ⟨_ | _, _⟩ <;> rw [ranInner] at ran
  · simp only [Prod.mk.injEq, Except.error.injEq] at ran
    exact ran.1 ▸ inner ranInner
  · simp at ran

end Raises

end Work

end ContactMigration.Migration
