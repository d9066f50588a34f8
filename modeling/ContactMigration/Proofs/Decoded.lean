import ContactMigration.Proofs.Records

/-!
# What reading a record gives

A record read from JSON, as text or as a value, is one that writing reads back: no identifier
is above the largest 64-bit signed integer, its dates and times are of the calendar, and the same
holds of every item in its collections.

The parsers of dates and of dates and times only give what the calendar has. A form's reading
keeps any property of drafts that its blank draft has, that every field's update keeps and that
setting an audit block keeps (`Form.Keeps`). Each form keeps the validity that writing asks of
its records (`Phone.Valid` and the like), and `ContactRecord.form_keeps` says so of a whole
record.
-/

namespace ContactMigration.Calendar

open Text

theorem Date.valid_of_ofYmd? {y : Int} {m d : Nat} {date : Date}
    (made : Date.ofYmd? y m d = some date) : date.Valid := by
  have same : date = ⟨y, m, d⟩ := by
    unfold Date.ofYmd? at made
    split at made
    · exact (Option.some.inj made).symm
    · cases made
  subst same
  exact made

theorem Date.parse_valid {text : String} {d : Date} (parsed : Date.parse text = .ok d) :
    d.Valid := by
  simp only [Date.parse, bind_eq_ok, Prod.exists] at parsed
  obtain ⟨y, m, day, s, -, -, -, made⟩ := parsed
  split at made
  · rename_i date found
    cases made
    exact Date.valid_of_ofYmd? found
  · cases made

theorem field_bounds {most low high v : Nat} {s rest : List Char}
    (read : field most low high s = .ok (v, rest)) : low ≤ v ∧ v ≤ high := by
  simp only [field, bind_eq_ok, Prod.exists] at read
  obtain ⟨value, rest', -, checked⟩ := read
  split at checked
  · rename_i inRange
    cases checked
    simpa using inRange
  · cases checked

/-- Digits read onto a value below `10 ^ taken` give a value below `10` to the digits taken. -/
theorem takeDigits_lt {value taken allowance : Nat} {s : List Char} {v t : Nat} {rest : List Char}
    (read : takeDigits value taken allowance s = .ok (v, t, rest)) (below : value < 10 ^ taken) :
    v < 10 ^ t ∧ t ≤ taken + allowance := by
  induction allowance generalizing value taken s with
  | zero =>
    simp only [takeDigits, Except.ok.injEq, Prod.mk.injEq] at read
    obtain ⟨rfl, rfl, -⟩ := read
    omega
  | succ allowance ih =>
    cases s with
    | nil =>
      simp only [takeDigits] at read
      split at read
      · cases read
      · simp only [Except.ok.injEq, Prod.mk.injEq] at read
        obtain ⟨rfl, rfl, -⟩ := read
        omega
    | cons c s =>
      simp only [takeDigits] at read
      split at read
      · rename_i d found
        have small : d < 10 := by
          rw [digitValue_eq] at found
          split at found
          · rename_i digit
            cases found
            have := (isDigit_iff c).mp digit
            omega
          · cases found
        split at read
        · cases read
        · -- one more digit keeps the value below the next power of ten
          have next : value * 10 + d < 10 ^ (taken + 1) := by
            rw [pow_succ]
            omega
          have bound := ih read next
          omega
      · split at read
        · cases read
        · simp only [Except.ok.injEq, Prod.mk.injEq] at read
          obtain ⟨rfl, rfl, -⟩ := read
          omega

theorem fraction_lt {s rest : List Char} {nano : Nat} (read : fraction s = .ok (nano, rest)) :
    nano < 10 ^ 9 := by
  simp only [fraction, bind_eq_ok, Prod.exists] at read
  obtain ⟨value, taken, rest', digits, done⟩ := read
  simp only [pure, Except.pure, Except.ok.injEq, Prod.mk.injEq] at done
  obtain ⟨rfl, -⟩ := done
  obtain ⟨below, few⟩ := takeDigits_lt digits (by simp)
  calc value * Nat.pow 10 (9 - taken) < 10 ^ taken * 10 ^ (9 - taken) := by
        rw [show Nat.pow 10 (9 - taken) = 10 ^ (9 - taken) from rfl]
        exact Nat.mul_lt_mul_of_pos_right below (by positivity)
    _ = 10 ^ 9 := by rw [← pow_add]; congr 1; omega

theorem DateTime.parse_valid {text : String} {t : DateTime} (parsed : DateTime.parse text = .ok t) :
    t.Valid := by
  simp only [DateTime.parse, bind_eq_ok, Prod.exists] at parsed
  obtain ⟨y, mo, day, s, -, s1, -, hour, s2, hourRead, s3, -, minute, s4, minuteRead, s5, -,
    second, s6, secondRead, tail⟩ := parsed
  -- the fraction, when there is one, is below a second
  have finished : ∃ nano date, nano < 10 ^ 9 ∧ Date.ofYmd? y mo day = some date ∧
      t = ⟨date, hour, minute, second, nano⟩ := by
    split at tail
    · obtain ⟨⟨nano, s7⟩, fractionRead, rest⟩ := bind_eq_ok.mp tail
      obtain ⟨-, -, made⟩ := bind_eq_ok.mp rest
      split at made
      · rename_i date found
        cases made
        exact ⟨nano, date, fraction_lt fractionRead, found, rfl⟩
      · cases made
    · obtain ⟨start, none, rest⟩ := bind_eq_ok.mp tail
      cases none
      obtain ⟨-, -, made⟩ := bind_eq_ok.mp rest
      split at made
      · rename_i date found
        cases made
        exact ⟨0, date, by norm_num, found, rfl⟩
      · cases made
  obtain ⟨nano, date, small, found, rfl⟩ := finished
  have hourBounds := field_bounds hourRead
  have minuteBounds := field_bounds minuteRead
  have secondBounds := field_bounds secondRead
  exact ⟨Date.valid_of_ofYmd? found, by dsimp only; omega, by dsimp only; omega,
    by dsimp only; omega, small⟩

end ContactMigration.Calendar

namespace ContactMigration.Record

open Json Calendar

theorem auditTime_valid {j : Json} {v : Option DateTime} (read : auditTime j = .ok v) :
    ∀ t ∈ v, t.Valid := by
  intro t mem
  unfold auditTime at read
  split at read
  · cases read
    cases mem
  · split at read
    · rename_i parsed
      cases read
      cases mem
      exact DateTime.parse_valid parsed
    · cases read
  · cases read

/-- The audit block read from any members keeps the calendar. -/
theorem readAudit_valid : ∀ {l : List (String × Json)} {b : Audit} {seen : List String}
    {a : Audit}, readAudit b seen l = .ok a → b.Valid → a.Valid
  | [], b, seen, a, read, valid => by
    cases read
    exact valid
  | (key, value) :: rest, b, seen, a, read, valid => by
    rw [readAudit] at read
    by_cases named : auditNames.contains key = true
    · by_cases again : seen.contains key = true
      · simp only [named, again, Bool.not_true, Bool.false_eq_true, if_false, if_true] at read
        cases read
      · simp only [named, again, Bool.not_true, Bool.false_eq_true, if_false] at read
        -- one audit field is set; the other dates stay as they were
        split_ifs at read
        · obtain ⟨b', step, rest'⟩ := bind_eq_ok.mp read
          obtain ⟨v, -, rfl⟩ := map_eq_ok.mp step
          exact readAudit_valid rest' ⟨valid.create, valid.modify⟩
        · obtain ⟨b', step, rest'⟩ := bind_eq_ok.mp read
          obtain ⟨v, time, rfl⟩ := map_eq_ok.mp step
          exact readAudit_valid rest' ⟨auditTime_valid time, valid.modify⟩
        · obtain ⟨b', step, rest'⟩ := bind_eq_ok.mp read
          obtain ⟨v, -, rfl⟩ := map_eq_ok.mp step
          exact readAudit_valid rest' ⟨valid.create, valid.modify⟩
        · obtain ⟨b', step, rest'⟩ := bind_eq_ok.mp read
          obtain ⟨v, time, rfl⟩ := map_eq_ok.mp step
          exact readAudit_valid rest' ⟨valid.create, auditTime_valid time⟩
    · simp only [named, Bool.not_false, if_true] at read
      exact readAudit_valid read valid

theorem readI64_le {d : Doc} {n : Int} (read : readI64 d = .ok n) : n ≤ i64Max := by
  unfold readI64 at read
  split at read
  · split_ifs at read with fits
    · cases read
      exact fits
  · cases read

theorem mapError_eq_ok {ε ε' β : Type} {f : ε → ε'} {e : Except ε β} {b : β} :
    e.mapError f = .ok b ↔ e = .ok b := by
  cases e <;> simp [Except.mapError]

theorem readDate_valid {d : Doc} {v : Option Date} (read : readDate d = .ok v) :
    ∀ x ∈ v, x.Valid := by
  intro x mem
  unfold readDate readOption at read
  split at read
  · cases read
    cases mem
  · obtain ⟨y, converted, rfl⟩ := map_eq_ok.mp read
    cases mem
    unfold readConverted at converted
    split at converted
    · split at converted
      · rename_i parsed
        cases converted
        exact Date.parse_valid (mapError_eq_ok.mp parsed)
      · cases converted
    · cases converted

theorem readEach_all {β : Type} {read : Reader β} {P : β → Prop}
    (each : ∀ d x, read d = .ok x → P x) {items : Items} {xs : List β}
    (readAll : readEach read items = .ok xs) : ∀ x ∈ xs, P x := by
  fun_induction readEach read items generalizing xs with
  | case1 =>
    cases readAll
    simp
  | case2 => cases readAll
  | case3 item rest ih =>
    obtain ⟨x, first, later⟩ := bind_eq_ok.mp readAll
    obtain ⟨ys, others, done⟩ := bind_eq_ok.mp later
    cases done
    intro y mem
    rcases List.mem_cons.mp mem with rfl | mem
    · exact each _ _ first
    · exact ih others y mem

theorem readList_all {β : Type} {read : Reader β} {P : β → Prop}
    (each : ∀ d x, read d = .ok x → P x) {d : Doc} {xs : List β}
    (readAll : readList read d = .ok xs) : ∀ x ∈ xs, P x := by
  unfold readList at readAll
  split at readAll
  · exact readEach_all each readAll
  · cases readAll

theorem Audit.valid_empty : ({} : Audit).Valid := ⟨by simp, by simp⟩

namespace Form

variable {α : Type} {F : Form α} {P : α → Prop}

/-- A property of drafts that the blank draft has, that every field's update keeps, and that
setting an audit block of the calendar keeps. -/
structure Keeps (F : Form α) (P : α → Prop) : Prop where
  blank : P F.blank
  fields : ∀ f ∈ F.fields, ∀ d u, f.read d = .ok u → ∀ x, P x → P (u x)
  audit : ∀ a x, a.Valid → P x → P (F.setAudit a x)

theorem Keeps.readMembers (keeps : F.Keeps P) {members : Members} {draft : α}
    {seen : List String} {kept : List (String × Json)} {r : α}
    (read : F.readMembers members draft seen kept = .ok r) (holds : P draft) : P r := by
  fun_induction F.readMembers members draft seen kept with
  | case1 => cases read
  | case2 stop draft seen kept audit _ found =>
    cases read
    exact keeps.audit _ _ (readAudit_valid found Audit.valid_empty) holds
  | case3 => cases read
  | case4 => cases read
  | case5 => cases read
  | case6 key keyStop value rest draft seen kept f field _ ih =>
    obtain ⟨u, update, later⟩ := bind_eq_ok.mp read
    exact ih u later (keeps.fields f (field?_name field).1 _ _ update _ holds)
  | case7 key keyStop value rest draft seen kept _ ih =>
    obtain ⟨j, -, later⟩ := bind_eq_ok.mp read
    exact ih j later holds

theorem Keeps.read (keeps : F.Keeps P) {d : Doc} {r : α} (read : F.read d = .ok r) : P r := by
  unfold Form.read at read
  split at read
  · exact keeps.readMembers read keeps.blank
  · cases read

theorem Keeps.readList (keeps : F.Keeps P) {d : Doc} {xs : List α}
    (read : readList F.read d = .ok xs) : ∀ x ∈ xs, P x :=
  readList_all (fun _ _ => keeps.read) read

/-- A field keeps `P` when every value its reader gives sets drafts that keep `P`. -/
theorem keeps_of_sets {β : Type} {reader : Reader β} {set : β → α → α} {Q : β → Prop}
    (sound : ∀ {d v}, reader d = .ok v → Q v) (sets : ∀ v x, Q v → P x → P (set v x)) :
    ∀ d u, set <$> reader d = .ok u → ∀ x, P x → P (u x) := by
  intro d u read x holds
  obtain ⟨v, readV, rfl⟩ := map_eq_ok.mp read
  exact sets v x (sound readV) holds

theorem keeps_of_frame {β : Type} {reader : Reader β} {set : β → α → α}
    (frame : ∀ v x, P x → P (set v x)) :
    ∀ d u, set <$> reader d = .ok u → ∀ x, P x → P (u x) :=
  keeps_of_sets (fun _ => trivial) fun v x _ => frame v x

/-- A list field keeps `P` when setting any items of the list's form keeps it. -/
theorem keeps_of_items {β : Type} {G : Form β} {Q : β → Prop} (items : G.Keeps Q)
    {set : List β → α → α} (sets : ∀ v x, (∀ y ∈ v, Q y) → P x → P (set v x)) :
    ∀ d u, set <$> readList G.read d = .ok u → ∀ x, P x → P (u x) :=
  keeps_of_sets items.readList sets

end Form

theorem Phone.form_keeps : Phone.form.Keeps (Phone.Valid (· ≤ i64Max)) where
  blank := ⟨by decide, Audit.valid_empty⟩
  fields := by
    simp only [Phone.form, Field.needed, Field.optional, List.forall_mem_cons, List.not_mem_nil,
      IsEmpty.forall_iff, implies_true, and_true]
    refine ⟨Form.keeps_of_sets readI64_le fun _ _ fits valid => { valid with phoneId := fits },
      ?_, ?_, ?_⟩
    all_goals exact Form.keeps_of_frame fun _ _ valid => { valid with }
  audit _ _ audit valid := { valid with audit }

theorem Email.form_keeps : Email.form.Keeps (Email.Valid (· ≤ i64Max)) where
  blank := ⟨by decide, Audit.valid_empty⟩
  fields := by
    simp only [Email.form, Field.needed, List.forall_mem_cons, List.not_mem_nil,
      IsEmpty.forall_iff, implies_true, and_true]
    refine ⟨Form.keeps_of_sets readI64_le fun _ _ fits valid => { valid with emailAddressId := fits },
      ?_⟩
    all_goals exact Form.keeps_of_frame fun _ _ valid => { valid with }
  audit _ _ audit valid := { valid with audit }

theorem Identifier.form_keeps : Identifier.form.Keeps (Identifier.Valid (· ≤ i64Max)) where
  blank := ⟨by decide, Audit.valid_empty⟩
  fields := by
    simp only [Identifier.form, Field.needed, Field.optional, List.forall_mem_cons, List.not_mem_nil,
      IsEmpty.forall_iff, implies_true, and_true]
    refine ⟨Form.keeps_of_sets readI64_le fun _ _ fits valid => { valid with sequence := fits },
      ?_,
      ?_,
      ?_⟩
    all_goals exact Form.keeps_of_frame fun _ _ valid => { valid with }
  audit _ _ audit valid := { valid with audit }

theorem Employment.form_keeps : Employment.form.Keeps (Employment.Valid (· ≤ i64Max)) where
  blank := ⟨by decide, by decide, Audit.valid_empty⟩
  fields := by
    simp only [Employment.form, Field.needed, Field.optional, List.forall_mem_cons, List.not_mem_nil,
      IsEmpty.forall_iff, implies_true, and_true]
    refine ⟨Form.keeps_of_sets readI64_le fun _ _ fits valid => { valid with sequence := fits },
      Form.keeps_of_sets readI64_le fun _ _ fits valid => { valid with corporateId := fits },
      ?_⟩
    all_goals exact Form.keeps_of_frame fun _ _ valid => { valid with }
  audit _ _ audit valid := { valid with audit }

theorem Restriction.form_keeps : Restriction.form.Keeps (Restriction.Valid (· ≤ i64Max)) where
  blank := ⟨by decide, nofun, nofun, Audit.valid_empty⟩
  fields := by
    simp only [Restriction.form, Field.needed, Field.optional, List.forall_mem_cons, List.not_mem_nil,
      IsEmpty.forall_iff, implies_true, and_true]
    refine ⟨Form.keeps_of_sets readI64_le fun _ _ fits valid => { valid with id := fits },
      ?_,
      ?_,
      Form.keeps_of_sets readDate_valid fun _ _ dates valid => { valid with effectiveDate := dates },
      Form.keeps_of_sets readDate_valid fun _ _ dates valid => { valid with expiryDate := dates },
      ?_⟩
    all_goals exact Form.keeps_of_frame fun _ _ valid => { valid with }
  audit _ _ audit valid := { valid with audit }

theorem RelationshipRestriction.form_keeps : RelationshipRestriction.form.Keeps (RelationshipRestriction.Valid (· ≤ i64Max)) where
  blank := ⟨by decide, nofun, nofun, Audit.valid_empty⟩
  fields := by
    simp only [RelationshipRestriction.form, Field.needed, Field.optional, List.forall_mem_cons, List.not_mem_nil,
      IsEmpty.forall_iff, implies_true, and_true]
    refine ⟨Form.keeps_of_sets readI64_le fun _ _ fits valid => { valid with id := fits },
      ?_,
      ?_,
      Form.keeps_of_sets readDate_valid fun _ _ dates valid => { valid with startDate := dates },
      Form.keeps_of_sets readDate_valid fun _ _ dates valid => { valid with expiryDate := dates },
      ?_⟩
    all_goals exact Form.keeps_of_frame fun _ _ valid => { valid with }
  audit _ _ audit valid := { valid with audit }

theorem Address.form_keeps : Address.form.Keeps (Address.Valid (· ≤ i64Max)) where
  blank := ⟨by decide, nofun, nofun, List.forall_mem_nil _, Audit.valid_empty⟩
  fields := by
    simp only [Address.form, Field.needed, Field.optional, List.forall_mem_cons, List.not_mem_nil,
      IsEmpty.forall_iff, implies_true, and_true]
    refine ⟨Form.keeps_of_sets readI64_le fun _ _ fits valid => { valid with addressId := fits },
      ?_,
      ?_,
      ?_,
      ?_,
      ?_,
      ?_,
      ?_,
      ?_,
      ?_,
      ?_,
      ?_,
      ?_,
      ?_,
      Form.keeps_of_sets readDate_valid fun _ _ dates valid => { valid with startDate := dates },
      Form.keeps_of_sets readDate_valid fun _ _ dates valid => { valid with endDate := dates },
      ?_,
      Form.keeps_of_items Phone.form_keeps
        fun _ _ items valid => { valid with phoneNumbers := items }⟩
    all_goals exact Form.keeps_of_frame fun _ _ valid => { valid with }
  audit _ _ audit valid := { valid with audit }

theorem Relationship.form_keeps : Relationship.form.Keeps (Relationship.Valid (· ≤ i64Max)) where
  blank := ⟨by decide, nofun, List.forall_mem_nil _, Audit.valid_empty⟩
  fields := by
    simp only [Relationship.form, Field.needed, Field.optional, List.forall_mem_cons, List.not_mem_nil,
      IsEmpty.forall_iff, implies_true, and_true]
    refine ⟨Form.keeps_of_sets readI64_le fun _ _ fits valid => { valid with id := fits },
      ?_,
      ?_,
      ?_,
      ?_,
      ?_,
      Form.keeps_of_sets readDate_valid fun _ _ dates valid => { valid with expiryDate := dates },
      ?_,
      ?_,
      ?_,
      ?_,
      Form.keeps_of_items RelationshipRestriction.form_keeps
        fun _ _ items valid => { valid with restrictions := items }⟩
    all_goals exact Form.keeps_of_frame fun _ _ valid => { valid with }
  audit _ _ audit valid := { valid with audit }

end ContactMigration.Record

namespace ContactMigration

open Json Calendar Record

theorem ContactRecord.form_keeps : ContactRecord.form.Keeps (ContactRecord.Valid (· ≤ i64Max)) where
  blank := ⟨by decide, nofun, nofun, Audit.valid_empty, List.forall_mem_nil _,
    List.forall_mem_nil _, List.forall_mem_nil _, List.forall_mem_nil _, List.forall_mem_nil _,
    List.forall_mem_nil _, List.forall_mem_nil _⟩
  fields := by
    simp only [ContactRecord.form, Field.needed, Field.optional, List.forall_mem_cons,
      List.not_mem_nil, IsEmpty.forall_iff, implies_true, and_true]
    refine ⟨Form.keeps_of_sets readI64_le fun _ _ fits valid => { valid with personId := fits },
      ?_, ?_, ?_, ?_,
      Form.keeps_of_sets readDate_valid fun _ _ dates valid => { valid with dateOfBirth := dates },
      ?_, ?_, ?_, ?_, ?_, ?_, ?_,
      Form.keeps_of_sets readDate_valid fun _ _ dates valid => { valid with deceasedDate := dates },
      Form.keeps_of_items Phone.form_keeps
        fun _ _ items valid => { valid with phoneNumbers := items },
      Form.keeps_of_items Address.form_keeps
        fun _ _ items valid => { valid with addresses := items },
      Form.keeps_of_items Email.form_keeps
        fun _ _ items valid => { valid with emailAddresses := items },
      Form.keeps_of_items Identifier.form_keeps
        fun _ _ items valid => { valid with identifiers := items },
      Form.keeps_of_items Restriction.form_keeps
        fun _ _ items valid => { valid with restrictions := items },
      Form.keeps_of_items Employment.form_keeps
        fun _ _ items valid => { valid with employments := items },
      Form.keeps_of_items Relationship.form_keeps
        fun _ _ items valid => { valid with contacts := items }⟩
    all_goals exact Form.keeps_of_frame fun _ _ valid => { valid with }
  audit _ _ audit valid := { valid with audit }

end ContactMigration
