import ContactMigration.Proofs.Work
import ContactMigration.Migration.Extract

/-!
# Loops that save item after item

A loop over a list runs each item's work from the store the item before it left. `Stepwise step
xs s ys s'` says that `step` takes each of `xs` in turn to the value of `ys` at the same place,
the first from store `s` and the last ending in `s'`. The successful runs of a loop are exactly
the stepwise runs of its items' work (`runOn_mapM_eq_ok`); a loop fails exactly when some item
fails after every item before it succeeded, and it then reports that item's failure and leaves
the store that item left (`runOn_mapM_eq_error`). Nothing after the failing item runs.

A stage that saves one row per item asks its port to take the rows one after another
(`Accepts`). It succeeds exactly when the port takes them all, reporting each saved row with its
item's source id, and otherwise stops at the first row the port refuses, whose error it reports
wrapped once with the contact and the element kind. The store is such a port, failing with its
own refusals (`Port.ofStore`); a port may fail with any error, a migration failure included.

Main statement: `extractEach_saves_until_refused`.
-/

namespace ContactMigration.Migration

open Store Work

/-- `step` takes each of `xs` in turn to the value of `ys` at the same place, each from the store
the one before it left: the first from `s`, the last ending in `s'`. -/
inductive Stepwise {α β : Type} (step : α → Tables → β → Tables → Prop) :
    List α → Tables → List β → Tables → Prop
  | nil (s : Tables) : Stepwise step [] s [] s
  | cons {x : α} {xs : List α} {y : β} {ys : List β} {s s₁ s' : Tables} :
      step x s y s₁ → Stepwise step xs s₁ ys s' → Stepwise step (x :: xs) s (y :: ys) s'

namespace Stepwise

variable {α β γ : Type} {step step' : α → Tables → β → Tables → Prop}

@[simp]
theorem nil_iff {ys : List β} {s s' : Tables} : Stepwise step [] s ys s' ↔ ys = [] ∧ s' = s := by
  constructor
  · rintro ⟨⟩
    exact ⟨rfl, rfl⟩
  · rintro ⟨rfl, rfl⟩
    exact .nil _

theorem cons_iff {x : α} {xs : List α} {ys : List β} {s s' : Tables} :
    Stepwise step (x :: xs) s ys s' ↔
      ∃ y rest s₁, ys = y :: rest ∧ step x s y s₁ ∧ Stepwise step xs s₁ rest s' := by
  constructor
  · rintro (_ | ⟨first, later⟩)
    exact ⟨_, _, _, rfl, first, later⟩
  · rintro ⟨y, rest, s₁, rfl, first, later⟩
    exact .cons first later

theorem imp (weaker : ∀ x s y s', step x s y s' → step' x s y s') :
    ∀ {xs : List α} {s : Tables} {ys : List β} {s' : Tables},
      Stepwise step xs s ys s' → Stepwise step' xs s ys s'
  | _, _, _, _, .nil s => .nil s
  | _, _, _, _, .cons first later => .cons (weaker _ _ _ _ first) (imp weaker later)

theorem congr (same : ∀ x s y s', step x s y s' ↔ step' x s y s') {xs : List α} {s : Tables}
    {ys : List β} {s' : Tables} : Stepwise step xs s ys s' ↔ Stepwise step' xs s ys s' :=
  ⟨imp fun _ _ _ _ => (same _ _ _ _).mp, imp fun _ _ _ _ => (same _ _ _ _).mpr⟩

theorem length_eq {xs : List α} {s : Tables} {ys : List β} {s' : Tables}
    (run : Stepwise step xs s ys s') : ys.length = xs.length := by
  induction run with
  | nil => rfl
  | cons _ _ ih => simp [ih]

/-- Steps taken over the images of items are steps taken over the items. -/
theorem map_left (g : γ → α) {xs : List γ} :
    ∀ {s : Tables} {ys : List β} {s' : Tables},
      Stepwise step (xs.map g) s ys s' ↔ Stepwise (fun x => step (g x)) xs s ys s' := by
  induction xs with
  | nil => simp
  | cons x xs ih => simp only [List.map_cons, cons_iff, ih, implies_true]

/-- Each value built from its item and what a step gave for it: the steps' values paired back with
the items. -/
theorem zipWith_iff (build : α → γ → β) (step : α → Tables → γ → Tables → Prop) :
    ∀ {xs : List α} {s : Tables} {ys : List β} {s' : Tables},
      Stepwise (fun x s y s' => ∃ z, step x s z s' ∧ y = build x z) xs s ys s' ↔
        ∃ zs, Stepwise step xs s zs s' ∧ ys = List.zipWith build xs zs
  | [], s, ys, s' => by
    constructor
    · rintro ⟨⟩
      exact ⟨[], .nil s, rfl⟩
    · rintro ⟨zs, run, rfl⟩
      obtain ⟨rfl, rfl⟩ := nil_iff.mp run
      exact .nil _
  | x :: xs, s, ys, s' => by
    constructor
    · rintro (_ | ⟨⟨z, first, rfl⟩, later⟩)
      obtain ⟨zs, run, rfl⟩ := (zipWith_iff build step).mp later
      exact ⟨z :: zs, .cons first run, rfl⟩
    · rintro ⟨zs, run, rfl⟩
      obtain ⟨z, zs, s₁, rfl, first, later⟩ := cons_iff.mp run
      exact .cons ⟨z, first, rfl⟩ ((zipWith_iff build step).mpr ⟨zs, later, rfl⟩)

end Stepwise

/-! ## Loops -/

section Loops

variable {α β : Type} {f : α → Work β}

/-- The work of one item that succeeds from `s` with value `y`, ending in `s'`. -/
def Succeeds (f : α → Work β) (x : α) (s : Tables) (y : β) (s' : Tables) : Prop :=
  (f x).runOn s = (.ok y, s')

/-- A loop succeeds exactly when every item's work succeeds, each from the store the one before
it left. -/
theorem runOn_mapM_eq_ok :
    ∀ {xs : List α} {s : Tables} {ys : List β} {s' : Tables},
      (xs.mapM f).runOn s = (.ok ys, s') ↔ Stepwise (Succeeds f) xs s ys s'
  | [], s, ys, s' => by
    rw [runOn_mapM_nil, Stepwise.nil_iff]
    constructor
    · intro ran
      simp only [Prod.mk.injEq, Except.ok.injEq] at ran
      exact ⟨ran.1.symm, ran.2.symm⟩
    · rintro ⟨rfl, rfl⟩
      rfl
  | x :: xs, s, ys, s' => by
    rw [runOn_mapM_cons_eq_ok, Stepwise.cons_iff]
    constructor
    · rintro ⟨y, rest, s₁, first, loop, rfl⟩
      exact ⟨y, rest, s₁, rfl, first, runOn_mapM_eq_ok.mp loop⟩
    · rintro ⟨y, rest, s₁, rfl, first, later⟩
      exact ⟨y, rest, s₁, first, runOn_mapM_eq_ok.mpr later, rfl⟩

/-- A loop on a list fails exactly when its first item's work fails, or succeeds and the loop
fails on the rest from the store it left. -/
theorem runOn_mapM_cons_eq_error {x : α} {xs : List α} {s s' : Tables} {e : MigrationError} :
    ((x :: xs).mapM f).runOn s = (.error e, s') ↔
      (f x).runOn s = (.error e, s') ∨
        ∃ y s₁, (f x).runOn s = (.ok y, s₁) ∧ (xs.mapM f).runOn s₁ = (.error e, s') := by
  rw [runOn_mapM_cons, runOn_bind]
  rcases first : (f x).runOn s with ⟨e' | y, s₁⟩
  · simp
  · dsimp only
    rw [runOn_bind]
    rcases rest : (xs.mapM f).runOn s₁ with ⟨e'' | ys, s₂⟩ <;> simp [rest]

/-- A loop fails exactly at an item whose work fails after the work of every item before it
succeeded: it reports that failure and leaves the store the failing item left. -/
theorem runOn_mapM_eq_error :
    ∀ {xs : List α} {s s' : Tables} {e : MigrationError},
      (xs.mapM f).runOn s = (.error e, s') ↔
        ∃ done x rest ys s₁, xs = done ++ x :: rest ∧ Stepwise (Succeeds f) done s ys s₁ ∧
          (f x).runOn s₁ = (.error e, s')
  | [], s, s', e => by
    simp
  | x :: xs, s, s', e => by
    rw [runOn_mapM_cons_eq_error]
    constructor
    · rintro (failed | ⟨y, s₁, first, loop⟩)
      · exact ⟨[], x, xs, [], s, rfl, .nil s, failed⟩
      · obtain ⟨done, x', rest, ys, s₂, rfl, before, failed⟩ := runOn_mapM_eq_error.mp loop
        exact ⟨x :: done, x', rest, y :: ys, s₂, rfl, .cons first before, failed⟩
    · rintro ⟨done, x', rest, ys, s₁, split, before, failed⟩
      cases done with
      | nil =>
        obtain ⟨rfl, rfl⟩ := List.cons.inj split
        obtain ⟨-, rfl⟩ := Stepwise.nil_iff.mp before
        exact .inl failed
      | cons d done =>
        obtain ⟨rfl, rfl⟩ := List.cons.inj split
        obtain ⟨y, ys', s₂, rfl, first, later⟩ := Stepwise.cons_iff.mp before
        exact .inr ⟨y, s₂, first, runOn_mapM_eq_error.mpr ⟨done, x', rest, ys', s₁, rfl, later, failed⟩⟩

/-- A loop whose items' successes are described by `ok` succeeds exactly by items described by
`ok`, one after another. -/
theorem runOn_mapM_eq_ok_of {ok : α → Tables → β → Tables → Prop}
    (succeeds : ∀ x s y s', Succeeds f x s y s' ↔ ok x s y s') {xs : List α} {s : Tables}
    {ys : List β} {s' : Tables} :
    (xs.mapM f).runOn s = (.ok ys, s') ↔ Stepwise ok xs s ys s' :=
  runOn_mapM_eq_ok.trans (Stepwise.congr succeeds)

/-- A loop whose items' successes and failures are described by `ok` and `refused` fails exactly
at an item described by `refused`, every item before it described by `ok`. -/
theorem runOn_mapM_eq_error_of {ok : α → Tables → β → Tables → Prop}
    {refused : α → Tables → MigrationError → Tables → Prop}
    (succeeds : ∀ x s y s', Succeeds f x s y s' ↔ ok x s y s')
    (fails : ∀ x s e s', (f x).runOn s = (.error e, s') ↔ refused x s e s') {xs : List α}
    {s s' : Tables} {e : MigrationError} :
    (xs.mapM f).runOn s = (.error e, s') ↔
      ∃ done x rest ys s₁, xs = done ++ x :: rest ∧ Stepwise ok done s ys s₁ ∧ refused x s₁ e s' := by
  rw [runOn_mapM_eq_error]
  simp only [Stepwise.congr succeeds, fails]

end Loops

/-! ## Saving rows one after another -/

section Saving

variable {α β ε : Type}

/-- `save` takes `rows` one after another from `s`, giving back the saved rows `saved` and ending
in `s'`. -/
def Accepts (save : Tables → β → Except ε (β × Tables)) (rows : List β) (s : Tables)
    (saved : List β) (s' : Tables) : Prop :=
  Stepwise (fun row s v s' => save s row = .ok (v, s')) rows s saved s'

/-- The store as a port takes exactly the rows the store takes. -/
theorem accepts_ofStore {insert : Tables → β → Except StoreError (β × Tables)}
    {rows saved : List β} {s s' : Tables} :
    Accepts (Port.ofStore insert) rows s saved s' ↔ Accepts insert rows s saved s' :=
  Stepwise.congr fun _ _ _ _ => Port.ofStore_eq_ok

/-- The work of one item of a stage saving one row per item (`extractEach`): the item's row saved
through `save`, then reported with the item's source id. -/
def saveItem (contactId : Int) (kind : ElementKind) (save : Port β) (sourceId : α → Int)
    (row : α → β) (item : α) : Work (Correlated β) :=
  Work.attempt contactId kind (save · (row item)) >>= fun entity => pure ⟨sourceId item, entity⟩

theorem extractEach_eq_mapM (contactId : Int) (kind : ElementKind) (save : Port β)
    (sourceId : α → Int) (row : α → β) (items : List α) :
    extractEach contactId kind save sourceId row items =
      items.mapM (saveItem contactId kind save sourceId row) :=
  rfl

variable {contactId : Int} {kind : ElementKind} {save : Port β} {sourceId : α → Int} {row : α → β}

theorem runOn_saveItem (item : α) (s : Tables) :
    (saveItem contactId kind save sourceId row item).runOn s =
      match save s (row item) with
      | .ok (saved, s') => (.ok ⟨sourceId item, saved⟩, s')
      | .error e => (.error (e.during contactId kind), s) := by
  rw [saveItem, runOn_bind, runOn_attempt]
  rcases save s (row item) with e | ⟨saved, s'⟩ <;> rfl

theorem saveItem_eq_ok {item : α} {s s' : Tables} {c : Correlated β} :
    Succeeds (saveItem contactId kind save sourceId row) item s c s' ↔
      ∃ saved, save s (row item) = .ok (saved, s') ∧ c = ⟨sourceId item, saved⟩ := by
  unfold Succeeds
  rw [runOn_saveItem]
  rcases save s (row item) with e | ⟨saved, s₁⟩
  · simp
  · simp only [Prod.mk.injEq, Except.ok.injEq]
    constructor
    · rintro ⟨rfl, rfl⟩
      exact ⟨saved, ⟨rfl, rfl⟩, rfl⟩
    · rintro ⟨_, ⟨rfl, rfl⟩, rfl⟩
      exact ⟨rfl, rfl⟩

theorem saveItem_eq_error {item : α} {s s' : Tables} {err : MigrationError} :
    (saveItem contactId kind save sourceId row item).runOn s = (.error err, s') ↔
      ∃ e, save s (row item) = .error e ∧ err = e.during contactId kind ∧ s' = s := by
  rw [runOn_saveItem]
  rcases save s (row item) with e | ⟨saved, s₁⟩
  · simp only [Prod.mk.injEq, Except.error.injEq]
    constructor
    · rintro ⟨rfl, rfl⟩
      exact ⟨e, rfl, rfl, rfl⟩
    · rintro ⟨_, ⟨⟩, rfl, rfl⟩
      exact ⟨rfl, rfl⟩
  · simp

/-- Items saved one row each succeed one after another exactly when the port takes their rows
one after another, each reported with its item's source id. -/
theorem saveItem_stepwise {items : List α} {s s' : Tables} {out : List (Correlated β)} :
    Stepwise (Succeeds (saveItem contactId kind save sourceId row)) items s out s' ↔
      ∃ saved, Accepts save (items.map row) s saved s' ∧
        out = List.zipWith (fun item v => ⟨sourceId item, v⟩) items saved := by
  calc _ ↔ Stepwise (fun item s c s' => ∃ v, save s (row item) = .ok (v, s') ∧
          c = ⟨sourceId item, v⟩) items s out s' :=
        Stepwise.congr fun _ _ _ _ => saveItem_eq_ok
    _ ↔ ∃ saved, Stepwise (fun item s v s' => save s (row item) = .ok (v, s')) items s saved s' ∧
          out = List.zipWith (fun item v => ⟨sourceId item, v⟩) items saved :=
        Stepwise.zipWith_iff _ _
    _ ↔ _ := by simp only [Accepts, Stepwise.map_left]

/-- A stage saving one row per item fails exactly at the first row the port refuses, after it
took the rows of every item before it. -/
theorem saveItem_mapM_eq_error {items : List α} {s s' : Tables} {err : MigrationError} :
    (items.mapM (saveItem contactId kind save sourceId row)).runOn s = (.error err, s') ↔
      ∃ done item rest saved e, items = done ++ item :: rest ∧
        Accepts save (done.map row) s saved s' ∧ save s' (row item) = .error e ∧
        err = e.during contactId kind := by
  rw [runOn_mapM_eq_error]
  constructor
  · rintro ⟨done, item, rest, ys, s₁, rfl, before, failed⟩
    obtain ⟨e, refused, rfl, rfl⟩ := saveItem_eq_error.mp failed
    obtain ⟨saved, accepted, -⟩ := saveItem_stepwise.mp before
    exact ⟨done, item, rest, saved, e, rfl, accepted, refused, rfl⟩
  · rintro ⟨done, item, rest, saved, e, rfl, accepted, refused, rfl⟩
    exact ⟨done, item, rest, List.zipWith (fun item v => ⟨sourceId item, v⟩) done saved, s', rfl,
      saveItem_stepwise.mpr ⟨saved, accepted, rfl⟩, saveItem_eq_error.mpr ⟨e, refused, rfl, rfl⟩⟩

/-- Through the store's port, a stage saving one row per item fails exactly at the first row the
store refuses, reporting the store's error wrapped with the contact and the kind. -/
theorem saveItem_mapM_ofStore_eq_error {insert : Tables → β → Except StoreError (β × Tables)}
    {items : List α} {s s' : Tables} {err : MigrationError} :
    (items.mapM (saveItem contactId kind (Port.ofStore insert) sourceId row)).runOn s =
        (.error err, s') ↔
      ∃ done item rest saved e, items = done ++ item :: rest ∧
        Accepts insert (done.map row) s saved s' ∧ insert s' (row item) = .error e ∧
        err = (MigrationError.store e).during contactId kind := by
  simp only [saveItem_mapM_eq_error, accepts_ofStore, Port.ofStore_eq_error]
  constructor
  · rintro ⟨done, item, rest, saved, _, split, accepted, ⟨e, refused, rfl⟩, rfl⟩
    exact ⟨done, item, rest, saved, e, split, accepted, refused, rfl⟩
  · rintro ⟨done, item, rest, saved, e, split, accepted, refused, rfl⟩
    exact ⟨done, item, rest, saved, _, split, accepted, ⟨e, refused, rfl⟩, rfl⟩

/-- A stage saving one row per item succeeds exactly when the port takes the items' rows one
after another; it reports each saved row with its item's source id, in order. -/
theorem extractEach_eq_ok {items : List α} {s s' : Tables} {out : List (Correlated β)} :
    (extractEach contactId kind save sourceId row items).runOn s = (.ok out, s') ↔
      ∃ saved, Accepts save (items.map row) s saved s' ∧
        out = List.zipWith (fun item v => ⟨sourceId item, v⟩) items saved := by
  rw [extractEach_eq_mapM, runOn_mapM_eq_ok]
  exact saveItem_stepwise

/-- A stage saving one row per item fails exactly at the first row the port refuses, after it
took the rows of every item before: it reports the port's error wrapped with the contact and the
kind, and leaves the store as the rows before left it. -/
theorem extractEach_eq_error {items : List α} {s s' : Tables} {err : MigrationError} :
    (extractEach contactId kind save sourceId row items).runOn s = (.error err, s') ↔
      ∃ done item rest saved e, items = done ++ item :: rest ∧
        Accepts save (done.map row) s saved s' ∧ save s' (row item) = .error e ∧
        err = e.during contactId kind := by
  rw [extractEach_eq_mapM]
  exact saveItem_mapM_eq_error

end Saving

/-- A failure is wrapped with a contact and a kind unless it is a migration failure already, which
keeps the context it was given first. -/
theorem MigrationError.during_eq (contactId : Int) (kind : ElementKind) (e : MigrationError) :
    e.during contactId kind =
      if e.code = "migration_failed" then e else .failed contactId kind e := by
  cases e <;> simp [MigrationError.during, MigrationError.code]

/-- For every port, a stage saving one row per item asks the port to take the items' rows one
after another. When the port takes them all, the stage reports one entry per item, in order, with
the item's source id and the row as saved. When the port refuses an item's row, whatever its error
(the store's refusal, a failure of its own such as an I/O error, or a migration failure already
wrapped), the stage has saved exactly the rows of the items before it, nothing after, and reports
the error wrapped with the contact and the kind, a migration failure staying as it is. -/
theorem extractEach_saves_until_refused {α β : Type} (contactId : Int) (kind : ElementKind)
    (save : Port β) (sourceId : α → Int) (row : α → β) (items : List α) (s s' : Tables) :
    (∀ out, (extractEach contactId kind save sourceId row items).runOn s = (.ok out, s') ↔
      ∃ saved, Accepts save (items.map row) s saved s' ∧
        out = List.zipWith (fun item v => ⟨sourceId item, v⟩) items saved) ∧
    (∀ err, (extractEach contactId kind save sourceId row items).runOn s = (.error err, s') ↔
      ∃ done item rest saved e, items = done ++ item :: rest ∧
        Accepts save (done.map row) s saved s' ∧ save s' (row item) = .error e ∧
        err = e.during contactId kind) ∧
    ∀ e : MigrationError, e.during contactId kind =
      if e.code = "migration_failed" then e else .failed contactId kind e :=
  ⟨fun _ => extractEach_eq_ok, fun _ => extractEach_eq_error, MigrationError.during_eq contactId kind⟩

/-- A port that refuses its second row with an I/O error: the error is wrapped with the contact
and the kind. -/
example :
    ((extractEach 7 .phone (fun s (n : Int) => if n = 2 then .error (.io "write refused")
      else .ok (n, s)) id id [1, 2, 3]).runOn {}).1 =
      .error (.failed 7 .phone (.io "write refused")) := rfl

/-- A port whose refusal is wrapped already: it keeps the contact and kind it was given first. -/
example :
    ((extractEach 7 .phone (fun _ (_ : Int) => .error (.failed 3 .address (.store .full))) id id
      [1]).runOn {}).1 = .error (.failed 3 .address (.store .full)) := rfl

end ContactMigration.Migration
