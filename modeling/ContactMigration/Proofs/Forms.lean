import ContactMigration.Proofs.Documents
import ContactMigration.Proofs.CalendarText
import ContactMigration.Record.Form
import ContactMigration.Record.Encode

/-!
# Reading a record through its form

A form reads an object's members in document order, updating a draft for each field and keeping
the others aside for the audit block. When the members hold what was written for a record, the
order does not matter: the fields' updates commute, so reading them in any order gives what
reading them in written order gives, and the audit block's members are read back in any order
too.

`Form.Writes` gathers what a form asks of the members written for a record, and
`Form.Writes.reads` concludes that every document holding them reads back as the record, from
text as from a value.
-/

namespace ContactMigration.Record

open Json Calendar

/-! ## The audit block -/

/-- The audit block's dates and times are of the calendar. -/
structure Audit.Valid (a : Audit) : Prop where
  create : ∀ t ∈ a.createDateTime, t.Valid
  modify : ∀ t ∈ a.modifyDateTime, t.Valid

/-- The audit block after reading one member on its own; a member that does not read leaves the
block as it was. -/
def Audit.take (b : Audit) (member : String × Json) : Audit :=
  match readAudit b [] [member] with
  | .ok b' => b'
  | .error _ => b

theorem readAudit_cons {b : Audit} {seen : List String} {key : String} {value : Json}
    (rest : List (String × Json)) (named : key ∈ auditNames) (fresh : key ∉ seen)
    (succeeds : ∃ c, readAudit b [] [(key, value)] = .ok c) :
    readAudit b seen ((key, value) :: rest) = readAudit (b.take (key, value)) (key :: seen) rest := by
  obtain ⟨c, read⟩ := succeeds
  have taken : b.take (key, value) = c := by simp [Audit.take, read]
  rw [taken]
  have contains : auditNames.contains key = true := by simpa using named
  have notSeen : seen.contains key = false := by simpa using fresh
  rw [readAudit] at read ⊢
  simp only [contains, notSeen, Bool.not_true, Bool.false_eq_true, if_false, List.contains_nil]
    at read ⊢
  -- the field is read the same way whatever follows it
  split_ifs at read ⊢ <;>
  · obtain ⟨field, step, last⟩ := bind_eq_ok.mp read
    rw [readAudit, Except.ok.injEq] at last
    rw [step, ok_bind, last]

@[simp]
theorem Audit.take_createUsername (b : Audit) (s : String) :
    b.take ("createUsername", .string s) = { b with createUsername := some s } := rfl

@[simp]
theorem Audit.take_modifyUsername (b : Audit) (s : String) :
    b.take ("modifyUsername", .string s) = { b with modifyUsername := some s } := rfl

theorem Audit.take_createDateTime (b : Audit) {t : DateTime} (valid : t.Valid) :
    b.take ("createDateTime", .string t.text) = { b with createDateTime := some t } := by
  simp [Audit.take, readAudit, auditNames, auditTime, DateTime.parse_text valid, ok_bind]

theorem Audit.take_modifyDateTime (b : Audit) {t : DateTime} (valid : t.Valid) :
    b.take ("modifyDateTime", .string t.text) = { b with modifyDateTime := some t } := by
  simp [Audit.take, readAudit, auditNames, auditTime, DateTime.parse_text valid, ok_bind]

theorem mem_optionalMember {β : Type} {key : String} {write : β → Json} {v : Option β}
    {kv : String × Json} : kv ∈ optionalMember key write v ↔ ∃ x, v = some x ∧ kv = (key, write x) := by
  cases v <;> simp [optionalMember]

theorem Audit.mem_members {a : Audit} {kv : String × Json} :
    kv ∈ a.members ↔
      (∃ s, a.createUsername = some s ∧ kv = ("createUsername", .string s)) ∨
      (∃ t, a.createDateTime = some t ∧ kv = ("createDateTime", .string t.text)) ∨
      (∃ s, a.modifyUsername = some s ∧ kv = ("modifyUsername", .string s)) ∨
      (∃ t, a.modifyDateTime = some t ∧ kv = ("modifyDateTime", .string t.text)) := by
  simp only [Audit.members, textMember, dateTimeMember, List.mem_append, mem_optionalMember,
    or_assoc]

theorem keys_optionalMember_sublist {β : Type} (key : String) (write : β → Json) (v : Option β) :
    ((optionalMember key write v).map Prod.fst).Sublist [key] := by
  cases v <;> simp [optionalMember]

theorem Audit.keys_members_sublist (a : Audit) : (a.members.map Prod.fst).Sublist auditNames := by
  simp only [Audit.members, textMember, dateTimeMember, List.map_append]
  show List.Sublist _
    (["createUsername"] ++ ["createDateTime"] ++ ["modifyUsername"] ++ ["modifyDateTime"])
  exact (((keys_optionalMember_sublist _ _ _).append (keys_optionalMember_sublist _ _ _)).append
    (keys_optionalMember_sublist _ _ _)).append (keys_optionalMember_sublist _ _ _)

theorem Audit.members_take_comm {a : Audit} (valid : a.Valid) :
    ∀ x ∈ a.members, ∀ y ∈ a.members, ∀ b : Audit, (b.take x).take y = (b.take y).take x := by
  have creates := valid.create
  have modifies := valid.modify
  intro x hx y hy b
  rcases Audit.mem_members.mp hx with ⟨s, hs, rfl⟩ | ⟨t, ht, rfl⟩ | ⟨s, hs, rfl⟩ | ⟨t, ht, rfl⟩ <;>
  rcases Audit.mem_members.mp hy with ⟨s', hs', rfl⟩ | ⟨t', ht', rfl⟩ | ⟨s', hs', rfl⟩ |
    ⟨t', ht', rfl⟩ <;>
  simp_all [Audit.take_createDateTime, Audit.take_modifyDateTime]

/-- Each member of a valid audit block names an audit field and reads on its own. -/
theorem Audit.member_reads {a : Audit} (valid : a.Valid) {kv : String × Json}
    (mem : kv ∈ a.members) : kv.1 ∈ auditNames ∧ ∀ b : Audit, ∃ c, readAudit b [] [kv] = .ok c := by
  have creates := valid.create
  have modifies := valid.modify
  rcases Audit.mem_members.mp mem with ⟨s, hs, rfl⟩ | ⟨t, ht, rfl⟩ | ⟨s, hs, rfl⟩ | ⟨t, ht, rfl⟩ <;>
  simp_all [readAudit, auditNames, auditUser, auditTime, DateTime.parse_text, ok_bind]

theorem Audit.members_foldl_take {a : Audit} (valid : a.Valid) :
    a.members.foldl Audit.take {} = a := by
  have creates := valid.create
  have modifies := valid.modify
  obtain ⟨createUser, createTime, modifyUser, modifyTime⟩ := a
  cases createUser <;> cases createTime <;> cases modifyUser <;> cases modifyTime <;>
  simp_all [Audit.members, textMember, dateTimeMember, optionalMember, Audit.take_createDateTime,
    Audit.take_modifyDateTime]

/-- Audit members with distinct keys, none seen yet, that each read on their own are read one
after the other. -/
theorem readAudit_run : ∀ (l : List (String × Json)) (b : Audit) (seen : List String),
    (l.map Prod.fst).Nodup → (∀ kv ∈ l, kv.1 ∉ seen) →
    (∀ kv ∈ l, kv.1 ∈ auditNames ∧ ∀ b : Audit, ∃ c, readAudit b [] [kv] = .ok c) →
    readAudit b seen l = .ok (l.foldl Audit.take b)
  | [], _, _, _, _, _ => rfl
  | (key, value) :: rest, b, seen, nodup, fresh, each => by
    have first := each (key, value) (by simp)
    rw [readAudit_cons rest first.1 (fresh (key, value) (by simp)) (first.2 b), List.foldl_cons]
    simp only [List.map_cons, List.nodup_cons] at nodup
    apply readAudit_run rest
    · exact nodup.2
    · intro kv mem
      simp only [List.mem_cons, not_or]
      exact ⟨fun same => nodup.1 (same ▸ List.mem_map_of_mem mem),
        fresh kv (List.mem_cons_of_mem _ mem)⟩
    · exact fun kv mem => each kv (List.mem_cons_of_mem _ mem)

/-- The audit block's members read back in any order. -/
theorem readAudit_perm {a : Audit} (valid : a.Valid) {l : List (String × Json)}
    (perm : l.Perm a.members) : readAudit {} [] l = .ok a := by
  have nodup : (l.map Prod.fst).Nodup :=
    (perm.map Prod.fst).nodup_iff.mpr
      ((Audit.keys_members_sublist a).nodup (by decide))
  rw [readAudit_run l {} [] nodup (by simp)
    (fun kv mem => Audit.member_reads valid (perm.subset mem))]
  rw [perm.foldl_eq' (fun x hx y hy b => Audit.members_take_comm valid x (perm.subset hx) y
    (perm.subset hy) b), Audit.members_foldl_take valid]

theorem readDate_ofJson {v : Option Date} (valid : ∀ d ∈ v, d.Valid) :
    readDate (Doc.ofJson ((v.map fun d => Json.string d.text).getD .null)) = .ok v := by
  cases v with
  | none => rfl
  | some d =>
    simp [readDate, readOption, readConverted, Date.parse_text (valid d rfl), Except.mapError,
      Functor.map, Except.map]

/-! ## Forms -/

namespace Form

variable {α : Type}

/-- The update a member makes to a draft when it is read on its own: its field's update, and
none for a member that names no field. -/
def updateOf (F : Form α) (member : String × Json) : α → α :=
  ((F.field? member.1).bind fun f => (f.read (Doc.ofJson member.2)).toOption).getD id

theorem updateOf_pair (F : Form α) (key : String) (j : Json) :
    F.updateOf (key, j) = ((F.field? key).bind fun f => (f.read (Doc.ofJson j)).toOption).getD id :=
  rfl

/-- The updates that reading different fields make commute. -/
def Commutes (F : Form α) : Prop :=
  F.fields.Pairwise fun f g =>
    ∀ d e u w, f.read d = .ok u → g.read e = .ok w → ∀ x, u (w x) = w (u x)

variable {F : Form α}

/-- Two fields that set their values through `s₁` and `s₂` make updates that commute when the
setters do. -/
theorem commute_fields {β γ : Type} {n₁ n₂ : String} {b₁ b₂ : Bool} {r₁ : Reader β}
    {r₂ : Reader γ} {s₁ : β → α → α} {s₂ : γ → α → α}
    (sets : ∀ v w x, s₁ v (s₂ w x) = s₂ w (s₁ v x)) :
    ∀ d e u w, (⟨n₁, b₁, fun doc => s₁ <$> r₁ doc⟩ : Field α).read d = .ok u →
      (⟨n₂, b₂, fun doc => s₂ <$> r₂ doc⟩ : Field α).read e = .ok w → ∀ x, u (w x) = w (u x) := by
  intro d e u w readU readW x
  obtain ⟨v, -, rfl⟩ := map_eq_ok.mp readU
  obtain ⟨w, -, rfl⟩ := map_eq_ok.mp readW
  exact sets v w x

/-- An optional member left out makes no update when its field is at the blank value, so the
members written for an optional value update the draft as the value or `null` would. -/
theorem foldl_optionalMember {β : Type} (key : String) (write : β → Json) (v : Option β) (x : α)
    (absent : F.updateOf (key, .null) x = x) :
    (optionalMember key write v).foldl (fun x kv => F.updateOf kv x) x =
      F.updateOf (key, (v.map write).getD .null) x := by
  cases v
  · exact absent.symm
  · rfl

theorem updateOf_of_reads {kv : String × Json} {f : Field α} {u : α → α}
    (found : F.field? kv.1 = some f) (reads : Reads f.read kv.2 u) (keyed : kv.2.Keyed) :
    F.updateOf kv = u := by
  simp [updateOf, found, reads.ofJson keyed, Except.toOption]

theorem updateOf_of_none {kv : String × Json} (absent : F.field? kv.1 = none) :
    F.updateOf kv = id := by
  simp [updateOf, absent]

/-- Reading members that hold what each field reads: the draft takes each member's update in
turn, each field is marked seen and every other member is kept aside, until the object closes. -/
theorem readMembers_holds {members : Members} {kvs : List (String × Json)}
    (holds : Members.Holds members kvs) (nodup : (kvs.map Prod.fst).Nodup)
    (fields : ∀ kv ∈ kvs, ∀ f, F.field? kv.1 = some f → Reads f.read kv.2 (F.updateOf kv))
    (others : ∀ kv ∈ kvs, F.field? kv.1 = none → ∃ s, kv.2 = .string s)
    (draft : α) (seen : List String) (kept : List (String × Json))
    (fresh : ∀ kv ∈ kvs, kv.1 ∉ seen) :
    ∃ stop, F.readMembers members draft seen kept =
      F.readMembers (.close stop) (kvs.foldl (fun x kv => F.updateOf kv x) draft)
        ((kvs.filter fun kv => (F.field? kv.1).isSome).reverse.map Prod.fst ++ seen)
        ((kvs.filter fun kv => (F.field? kv.1).isNone).reverse ++ kept) := by
  -- on the members written, each document taken apart as it comes
  induction kvs generalizing members draft seen kept with
  | nil =>
    cases holds
    exact ⟨_, rfl⟩
  | cons kv kvs ih =>
    obtain ⟨key, j⟩ := kv
    cases holds with
    | @cons _ keyStop d _ members _ value holds =>
    simp only [List.map_cons, List.nodup_cons] at nodup
    have later : ∀ kv ∈ kvs, kv.1 ∉ key :: seen := by
      intro kv mem
      simp only [List.mem_cons, not_or]
      exact ⟨fun same => nodup.1 (same ▸ List.mem_map_of_mem mem),
        fresh kv (List.mem_cons_of_mem _ mem)⟩
    have fields' := fun kv mem => fields kv (List.mem_cons_of_mem _ mem)
    have others' := fun kv mem => others kv (List.mem_cons_of_mem _ mem)
    cases found : F.field? key with
    | some f =>
      -- a field: its update is made and its key is marked seen
      have read : f.read d = .ok (F.updateOf (key, j)) := fields (key, j) (by simp) f found d value
      have notSeen : key ∉ seen := fresh (key, j) (by simp)
      obtain ⟨stop, rest⟩ := ih holds nodup.2 fields' others' (F.updateOf (key, j) draft)
        (key :: seen) kept (fun kv mem => later kv mem)
      refine ⟨stop, ?_⟩
      conv_lhs => rw [readMembers, found]
      dsimp only
      rw [if_neg (by simpa using notSeen), read, ok_bind, rest]
      simp [found]
    | none =>
      -- any other member: a string, kept aside as it is
      obtain ⟨s, rfl⟩ := others (key, j) (by simp) found
      cases value
      obtain ⟨stop, rest⟩ := ih holds nodup.2 fields' others' draft seen ((key, .string s) :: kept)
        (fun kv mem seenBefore => later kv mem (List.mem_cons_of_mem _ seenBefore))
      refine ⟨stop, ?_⟩
      conv_lhs => rw [readMembers, found]
      dsimp only
      rw [show Doc.toValue (.string s _) = .ok (.string s) from rfl, ok_bind, rest]
      have none : F.field? (key, Json.string s).1 = none := found
      simp [found, updateOf_of_none none]

theorem missing?_eq_none {seen : List String}
    (given : ∀ f ∈ F.fields, f.required = true → f.name ∈ seen) : F.missing? seen = none := by
  rw [missing?, List.find?_eq_none]
  intro f mem
  simpa using given f mem

/-- The names of the fields that must be given, in form order. -/
def requiredNames (F : Form α) : List String :=
  (F.fields.filter Field.required).map Field.name

/-- Every required field is among `names` once the required names are: the list of names is
computed from the form, so a caller checks it without opening the fields' readers. -/
theorem required_given {names : List String} (given : ∀ n ∈ F.requiredNames, n ∈ names) :
    ∀ f ∈ F.fields, f.required = true → f.name ∈ names := by
  intro f mem required
  exact given f.name (List.mem_map_of_mem (List.mem_filter.mpr ⟨mem, required⟩))

theorem field?_name {key : String} {f : Field α} (found : F.field? key = some f) :
    f ∈ F.fields ∧ f.name = key := by
  have named := List.find?_some found
  exact ⟨List.mem_of_find?_eq_some found, by simpa using named⟩

theorem field?_eq_none {key : String} (absent : key ∉ F.fields.map Field.name) :
    F.field? key = none := by
  rw [field?, List.find?_eq_none]
  intro f mem named
  apply absent
  rw [List.mem_map]
  exact ⟨f, mem, by simpa using named⟩

/-- Members with distinct keys whose fields read back make updates that commute. -/
theorem Commutes.updateOf (commutes : F.Commutes) {kvs : List (String × Json)}
    (nodup : (kvs.map Prod.fst).Nodup)
    (fields : ∀ kv ∈ kvs, ∀ f, F.field? kv.1 = some f → f.read (Doc.ofJson kv.2) = .ok (F.updateOf kv)) :
    ∀ x ∈ kvs, ∀ y ∈ kvs, ∀ z : α, F.updateOf y (F.updateOf x z) = F.updateOf x (F.updateOf y z) := by
  intro x hx y hy z
  cases foundX : F.field? x.1 with
  | none => rw [updateOf_of_none foundX]; rfl
  | some f =>
    cases foundY : F.field? y.1 with
    | none => rw [updateOf_of_none foundY]; rfl
    | some g =>
      by_cases same : x = y
      · rw [same]
      -- different members name different fields, whose updates commute
      have keys : x.1 ≠ y.1 := fun equal => same (List.inj_on_of_nodup_map nodup hx hy equal)
      have symm : Std.Symm (fun f g : Field α => ∀ d e u w, f.read d = .ok u → g.read e = .ok w →
          ∀ x, u (w x) = w (u x)) :=
        ⟨fun f g commute d e u w readF readG x => (commute e d w u readG readF x).symm⟩
      have distinct : f ≠ g := by
        intro equal
        apply keys
        rw [← (field?_name foundX).2, ← (field?_name foundY).2, equal]
      exact (commutes.forall (field?_name foundX).1 (field?_name foundY).1 distinct _ _ _ _
        (fields x hx f foundX) (fields y hy g foundY) z).symm

/-- A member written for a field: its value names each key once, and its field reads it back. -/
structure Given (F : Form α) (kv : String × Json) : Prop where
  keyed : kv.2.Keyed
  field : ∃ f, F.field? kv.1 = some f ∧ ∃ u, Reads f.read kv.2 u

/-- A member whose field is made from `reader` and `set` is given when `reader` reads its value. -/
theorem member_given {β : Type} {key : String} {b : Bool} {reader : Reader β} {set : β → α → α}
    {j : Json} {v : β} (found : F.field? key = some ⟨key, b, fun doc => set <$> reader doc⟩)
    (keyed : j.Keyed) (reads : Reads reader j v) : F.Given (key, j) :=
  ⟨keyed, _, found, _, reads.map _⟩

/-- What a form asks of the members written for a record `r` with audit block `audit`: they are
`before ++ audit.members ++ after` with distinct keys; every member outside the audit block is a
field whose value reads back; the audit block names no field and its dates are of the calendar;
every required field is given; the fields' updates commute; and the updates of the members in
written order, made on the blank draft, give the record once its audit block is set. -/
structure Writes (F : Form α) (r : α) (audit : Audit) (before after : List (String × Json)) :
    Prop where
  nodup : ((before ++ audit.members ++ after).map Prod.fst).Nodup
  fields : ∀ kv ∈ before ++ after, F.Given kv
  auditFree : ∀ key ∈ auditNames, key ∉ F.fields.map Field.name
  auditValid : audit.Valid
  required : ∀ f ∈ F.fields, f.required = true → f.name ∈ (before ++ after).map Prod.fst
  commutes : F.Commutes
  result : F.setAudit audit ((before ++ after).foldl (fun x kv => F.updateOf kv x) F.blank) = r

namespace Writes

variable {r : α} {audit : Audit} {before after : List (String × Json)}

theorem mem_written {kv : String × Json} :
    kv ∈ before ++ audit.members ++ after ↔ kv ∈ before ++ after ∨ kv ∈ audit.members := by
  simp only [List.mem_append]
  tauto

theorem audit_field? (writes : F.Writes r audit before after) {kv : String × Json}
    (mem : kv ∈ audit.members) : F.field? kv.1 = none :=
  field?_eq_none (writes.auditFree _ (Audit.member_reads writes.auditValid mem).1)

theorem reads_field (writes : F.Writes r audit before after) {kv : String × Json}
    (mem : kv ∈ before ++ audit.members ++ after) (f : Field α) (found : F.field? kv.1 = some f) :
    Reads f.read kv.2 (F.updateOf kv) := by
  rcases mem_written.mp mem with written | audited
  · obtain ⟨keyed, f', found', u, reads⟩ := writes.fields kv written
    rw [found] at found'
    cases found'
    rw [updateOf_of_reads found reads keyed]
    exact reads
  · rw [writes.audit_field? audited] at found
    cases found

theorem other_string (writes : F.Writes r audit before after) {kv : String × Json}
    (mem : kv ∈ before ++ audit.members ++ after) (absent : F.field? kv.1 = none) :
    ∃ s, kv.2 = .string s := by
  rcases mem_written.mp mem with written | audited
  · obtain ⟨-, f, found, -⟩ := writes.fields kv written
    rw [found] at absent
    cases absent
  · rcases Audit.mem_members.mp audited with ⟨s, -, rfl⟩ | ⟨t, -, rfl⟩ | ⟨s, -, rfl⟩ | ⟨t, -, rfl⟩
    exacts [⟨s, rfl⟩, ⟨_, rfl⟩, ⟨s, rfl⟩, ⟨_, rfl⟩]

theorem values_keyed (writes : F.Writes r audit before after) :
    ∀ kv ∈ before ++ audit.members ++ after, kv.2.Keyed := by
  intro kv mem
  rcases mem_written.mp mem with written | audited
  · exact (writes.fields kv written).keyed
  · rcases Audit.mem_members.mp audited with ⟨s, -, rfl⟩ | ⟨t, -, rfl⟩ | ⟨s, -, rfl⟩ | ⟨t, -, rfl⟩ <;>
    exact .string

theorem keyed (writes : F.Writes r audit before after) :
    Keyed (.object (before ++ audit.members ++ after)) :=
  .object writes.nodup writes.values_keyed

/-- The members that name no field are the audit block's, in written order. -/
theorem filter_others (writes : F.Writes r audit before after) :
    (before ++ audit.members ++ after).filter (fun kv => (F.field? kv.1).isNone) =
      audit.members := by
  have fieldsOnly : ∀ kv ∈ before ++ after, F.field? kv.1 ≠ none := by
    intro kv mem
    obtain ⟨-, f, found, -⟩ := writes.fields kv mem
    simp [found]
  have noneBefore : before.filter (fun kv => (F.field? kv.1).isNone) = [] :=
    List.filter_eq_nil_iff.mpr fun kv mem => by
      simpa using fieldsOnly kv (List.mem_append_left _ mem)
  have noneAfter : after.filter (fun kv => (F.field? kv.1).isNone) = [] :=
    List.filter_eq_nil_iff.mpr fun kv mem => by
      simpa using fieldsOnly kv (List.mem_append_right _ mem)
  have allAudit : audit.members.filter (fun kv => (F.field? kv.1).isNone) = audit.members :=
    List.filter_eq_self.mpr fun kv mem => by simp [writes.audit_field? mem]
  rw [List.filter_append, List.filter_append, noneBefore, noneAfter, allAudit]
  simp

/-- The audit block's members make no update, so the updates of all members are those of the
fields. -/
theorem foldl_written (writes : F.Writes r audit before after) (x : α) :
    (before ++ audit.members ++ after).foldl (fun x kv => F.updateOf kv x) x =
      (before ++ after).foldl (fun x kv => F.updateOf kv x) x := by
  have none : ∀ (kvs : List (String × Json)), (∀ kv ∈ kvs, F.field? kv.1 = none) →
      ∀ y, kvs.foldl (fun x kv => F.updateOf kv x) y = y := by
    intro kvs absent
    induction kvs with
    | nil => exact fun _ => rfl
    | cons kv kvs ih =>
      intro y
      rw [List.foldl_cons, updateOf_of_none (absent kv (by simp))]
      exact ih (fun kv' mem => absent kv' (List.mem_cons_of_mem _ mem)) y
  rw [List.foldl_append, List.foldl_append, none _ (fun kv mem => writes.audit_field? mem),
    List.foldl_append]

/-- Every document holding the members written for a record reads back as the record, whatever
the order of its members. -/
theorem reads (writes : F.Writes r audit before after) :
    Reads F.read (.object (before ++ audit.members ++ after)) r := by
  intro d holds
  cases holds with
  | @object start members _ order held perm =>
  -- what holds of the written members holds of them in document order
  have nodup : (order.map Prod.fst).Nodup := (perm.map Prod.fst).nodup_iff.mpr writes.nodup
  have fields : ∀ kv ∈ order, ∀ f, F.field? kv.1 = some f → Reads f.read kv.2 (F.updateOf kv) :=
    fun kv mem => writes.reads_field (perm.subset mem)
  have others : ∀ kv ∈ order, F.field? kv.1 = none → ∃ s, kv.2 = .string s :=
    fun kv mem => writes.other_string (perm.subset mem)
  obtain ⟨stop, read⟩ := readMembers_holds held nodup fields others F.blank [] [] (by simp)
  rw [Form.read, read, readMembers]
  -- every required field was given, so none is missing
  rw [missing?_eq_none]
  · -- the members kept aside are the audit block's, in document order
    have kept : (order.filter fun kv => (F.field? kv.1).isNone).Perm audit.members := by
      rw [← writes.filter_others]
      exact perm.filter _
    rw [List.append_nil, List.reverse_reverse, readAudit_perm writes.auditValid kept]
    dsimp only
    -- the fields' updates commute, so their document order gives the written order's draft
    have commute := writes.commutes.updateOf nodup fun kv mem f found =>
      (fields kv mem f found).ofJson (writes.values_keyed kv (perm.subset mem))
    rw [perm.foldl_eq' commute, writes.foldl_written, writes.result]
  · intro f mem required
    obtain ⟨kv, written, named⟩ := List.mem_map.mp (writes.required f mem required)
    obtain ⟨-, g, found, -⟩ := writes.fields kv written
    have inOrder : kv ∈ order := perm.symm.subset (mem_written.mpr (.inl written))
    simp only [List.append_nil, List.mem_map, List.mem_reverse, List.mem_filter]
    exact ⟨kv, ⟨inOrder, by simp [found]⟩, named⟩

/-- The record read back, and the value written, whose objects name each key once, from members
written in any arrangement of the three parts. -/
theorem reads_keyed (writes : F.Writes r audit before after) {written : List (String × Json)}
    (split : before ++ audit.members ++ after = written) :
    Reads F.read (.object written) r ∧ Keyed (.object written) := by
  rw [← split]
  exact ⟨writes.reads, writes.keyed⟩

end Writes

end Form


end ContactMigration.Record
