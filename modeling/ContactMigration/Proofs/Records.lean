import ContactMigration.Proofs.Forms
import ContactMigration.Record.Decode

/-!
# The records read back what is written for them

Each form reads back the value written for a record of its kind, from a document that holds that
value with its members in any order: the forms' fields are the written members, the required ones
always written, optional texts and dates left out only when absent, and nested items written by
their own forms. The value's identifiers must be read as 64-bit signed integers (`fits` is what
the caller asks of them, below the 64-bit bound), and its dates and times must be of the calendar.
-/

namespace ContactMigration.Record

open Json Calendar

/-! ## Members of every form -/

theorem forall_mem_optionalMember {β : Type} {key : String} {write : β → Json} {v : Option β}
    {p : String × Json → Prop} :
    (∀ kv ∈ optionalMember key write v, p kv) ↔ ∀ x ∈ v, p (key, write x) := by
  cases v <;> simp [optionalMember]

theorem readDate_reads {d : Date} (valid : d.Valid) : Reads readDate (.string d.text) (some d) :=
  readOption_reads_string (readConverted_reads (by simp [Date.parse_text valid, Except.mapError]))

/-- Items that each read back as themselves make an array that reads back as the list. -/
theorem readList_map {β : Type} {read : Reader β} {toJson : β → Json} {xs : List β}
    (each : ∀ x ∈ xs, Reads read (toJson x) x ∧ (toJson x).Keyed) :
    Reads (readList read) (.array (xs.map toJson)) xs ∧ Keyed (.array (xs.map toJson)) := by
  constructor
  · apply readList_reads
    rw [List.forall₂_map_left_iff]
    exact List.forall₂_same.mpr fun x mem => (each x mem).1
  · apply Keyed.array
    intro j mem
    obtain ⟨x, member, rfl⟩ := List.mem_map.mp mem
    exact (each x member).2

variable {fits : Int → Prop}

/-! ## Phone numbers -/

/-- The identifier of a phone number satisfies `fits` and its audit block is of the calendar. -/
structure Phone.Valid (fits : Int → Prop) (p : Phone) : Prop where
  phoneId : fits p.phoneId
  audit : p.audit.Valid

theorem Phone.form_commutes : Phone.form.Commutes := by
  simp only [Form.Commutes, Phone.form, List.pairwise_cons, List.forall_mem_cons,
    List.not_mem_nil, IsEmpty.forall_iff, implies_true, and_true, List.Pairwise.nil]
  and_intros <;> exact Form.commute_fields fun _ _ _ => rfl

theorem Phone.reads_toJson (bounded : ∀ n, fits n → n ≤ i64Max) {p : Phone} (valid : p.Valid fits) :
    Reads Phone.form.read p.toJson p ∧ p.toJson.Keyed := by
  refine Form.Writes.reads_keyed ⟨?nodup, ?fields, ?auditFree, valid.audit, ?required,
    Phone.form_commutes, ?result⟩ (List.append_nil _)
  case nodup =>
    apply List.Sublist.nodup
    · simp only [textMember, List.map_append, List.map_cons, List.map_nil]
      apply_rules [List.Sublist.append, keys_optionalMember_sublist, Audit.keys_members_sublist,
        List.Sublist.refl]
    · decide
  case fields =>
    simp only [List.append_nil, List.forall_mem_append, List.forall_mem_cons, textMember,
      forall_mem_optionalMember, List.not_mem_nil, IsEmpty.forall_iff, implies_true, and_true]
    and_intros
    · exact Form.member_given (by rfl) .number (readI64_reads (bounded _ valid.phoneId))
    · exact Form.member_given (by rfl) .string (readString_reads _)
    · intro x _
      exact Form.member_given (by rfl) .string (readOption_reads_string (readString_reads x))
    · exact Form.member_given (by rfl) .string (readString_reads _)
  case auditFree => decide
  case required =>
    apply Form.required_given
    rw [show Phone.form.requiredNames = ["phoneId", "number", "type"] from rfl]
    simp
  case result =>
    rw [List.append_nil, List.foldl_append, List.foldl_append, textMember,
      Form.foldl_optionalMember] <;>
    simp [Form.updateOf_pair, Form.field?, Phone.form, Field.needed, Field.optional, Json.ofInt,
      readI64_number (bounded _ valid.phoneId), readOption_string_ofJson, Functor.map, Except.map,
      Except.toOption]

/-! ## Email addresses, identity documents and employments -/

/-- The identifier of an email address satisfies `fits` and its audit block is of the calendar. -/
structure Email.Valid (fits : Int → Prop) (e : Email) : Prop where
  emailAddressId : fits e.emailAddressId
  audit : e.audit.Valid

theorem Email.form_commutes : Email.form.Commutes := by
  simp only [Form.Commutes, Email.form, List.pairwise_cons, List.forall_mem_cons,
    List.not_mem_nil, IsEmpty.forall_iff, implies_true, and_true, List.Pairwise.nil]
  exact Form.commute_fields fun _ _ _ => rfl

theorem Email.reads_toJson (bounded : ∀ n, fits n → n ≤ i64Max) {e : Email} (valid : e.Valid fits) :
    Reads Email.form.read e.toJson e ∧ e.toJson.Keyed := by
  refine Form.Writes.reads_keyed ⟨?nodup, ?fields, ?auditFree, valid.audit, ?required,
    Email.form_commutes, ?result⟩ (List.append_nil _)
  case nodup =>
    apply List.Sublist.nodup
    · simp only [List.map_append, List.map_cons, List.map_nil]
      apply_rules [Audit.keys_members_sublist, List.Sublist.append, List.Sublist.refl]
    · decide
  case fields =>
    simp only [List.append_nil, List.forall_mem_cons, List.not_mem_nil, IsEmpty.forall_iff,
      implies_true, and_true]
    constructor
    · exact Form.member_given (by rfl) .number (readI64_reads (bounded _ valid.emailAddressId))
    · exact Form.member_given (by rfl) .string (readString_reads _)
  case auditFree => decide
  case required =>
    apply Form.required_given
    rw [show Email.form.requiredNames = ["emailAddressId", "email"] from rfl]
    simp
  case result =>
    simp [Form.updateOf_pair, Form.field?, Email.form, Field.needed, Json.ofInt,
      readI64_number (bounded _ valid.emailAddressId), Functor.map, Except.map, Except.toOption]

/-- The sequence number of an identity document satisfies `fits` and its audit block is of the
calendar. -/
structure Identifier.Valid (fits : Int → Prop) (i : Identifier) : Prop where
  sequence : fits i.sequence
  audit : i.audit.Valid

theorem Identifier.form_commutes : Identifier.form.Commutes := by
  simp only [Form.Commutes, Identifier.form, List.pairwise_cons, List.forall_mem_cons,
    List.not_mem_nil, IsEmpty.forall_iff, implies_true, and_true, List.Pairwise.nil]
  and_intros <;> exact Form.commute_fields fun _ _ _ => rfl

theorem Identifier.reads_toJson (bounded : ∀ n, fits n → n ≤ i64Max) {i : Identifier}
    (valid : i.Valid fits) : Reads Identifier.form.read i.toJson i ∧ i.toJson.Keyed := by
  refine Form.Writes.reads_keyed ⟨?nodup, ?fields, ?auditFree, valid.audit, ?required,
    Identifier.form_commutes, ?result⟩ (List.append_nil _)
  case nodup =>
    apply List.Sublist.nodup
    · simp only [textMember, List.map_append, List.map_cons, List.map_nil]
      apply_rules [List.Sublist.append, keys_optionalMember_sublist, Audit.keys_members_sublist,
        List.Sublist.refl]
    · decide
  case fields =>
    simp only [List.append_nil, List.forall_mem_append, List.forall_mem_cons, textMember,
      forall_mem_optionalMember, List.not_mem_nil, IsEmpty.forall_iff, implies_true, and_true]
    and_intros
    · exact Form.member_given (by rfl) .number (readI64_reads (bounded _ valid.sequence))
    · exact Form.member_given (by rfl) .string (readString_reads _)
    · exact Form.member_given (by rfl) .string (readString_reads _)
    · intro x _
      exact Form.member_given (by rfl) .string (readOption_reads_string (readString_reads x))
  case auditFree => decide
  case required =>
    apply Form.required_given
    rw [show Identifier.form.requiredNames = ["sequence", "type", "identifier"] from rfl]
    simp
  case result =>
    rw [List.append_nil, List.foldl_append, textMember, Form.foldl_optionalMember] <;>
    simp [Form.updateOf_pair, Form.field?, Identifier.form, Field.needed, Field.optional,
      Json.ofInt, readI64_number (bounded _ valid.sequence), readOption_string_ofJson,
      Functor.map, Except.map, Except.toOption]

/-- The numbers of an employment satisfy `fits` and its audit block is of the calendar. -/
structure Employment.Valid (fits : Int → Prop) (e : Employment) : Prop where
  sequence : fits e.sequence
  corporateId : fits e.corporateId
  audit : e.audit.Valid

theorem Employment.form_commutes : Employment.form.Commutes := by
  simp only [Form.Commutes, Employment.form, List.pairwise_cons, List.forall_mem_cons,
    List.not_mem_nil, IsEmpty.forall_iff, implies_true, and_true, List.Pairwise.nil]
  and_intros <;> exact Form.commute_fields fun _ _ _ => rfl

theorem Employment.reads_toJson (bounded : ∀ n, fits n → n ≤ i64Max) {e : Employment}
    (valid : e.Valid fits) : Reads Employment.form.read e.toJson e ∧ e.toJson.Keyed := by
  refine Form.Writes.reads_keyed ⟨?nodup, ?fields, ?auditFree, valid.audit, ?required,
    Employment.form_commutes, ?result⟩ (List.append_nil _)
  case nodup =>
    apply List.Sublist.nodup
    · simp only [List.map_append, List.map_cons, List.map_nil]
      apply_rules [Audit.keys_members_sublist, List.Sublist.append, List.Sublist.refl]
    · decide
  case fields =>
    simp only [List.append_nil, List.forall_mem_cons, List.not_mem_nil, IsEmpty.forall_iff,
      implies_true, and_true]
    and_intros
    · exact Form.member_given (by rfl) .number (readI64_reads (bounded _ valid.sequence))
    · exact Form.member_given (by rfl) .number (readI64_reads (bounded _ valid.corporateId))
    · exact Form.member_given (by rfl) .bool (readBool_reads _)
  case auditFree => decide
  case required =>
    apply Form.required_given
    rw [show Employment.form.requiredNames = ["sequence", "corporateId"] from rfl]
    simp
  case result =>
    simp [Form.updateOf_pair, Form.field?, Employment.form, Field.needed, Field.optional,
      Json.ofInt, readI64_number (bounded _ valid.sequence),
      readI64_number (bounded _ valid.corporateId), Functor.map, Except.map, Except.toOption]

/-! ## Restrictions -/

/-- The identifier of a restriction satisfies `fits`, and its dates and audit block are of the
calendar. -/
structure Restriction.Valid (fits : Int → Prop) (r : Restriction) : Prop where
  id : fits r.id
  effectiveDate : ∀ d ∈ r.effectiveDate, d.Valid
  expiryDate : ∀ d ∈ r.expiryDate, d.Valid
  audit : r.audit.Valid

theorem Restriction.form_commutes : Restriction.form.Commutes := by
  simp only [Form.Commutes, Restriction.form, List.pairwise_cons, List.forall_mem_cons,
    List.not_mem_nil, IsEmpty.forall_iff, implies_true, and_true, List.Pairwise.nil]
  and_intros <;> exact Form.commute_fields fun _ _ _ => rfl

theorem Restriction.reads_toJson (bounded : ∀ n, fits n → n ≤ i64Max) {r : Restriction}
    (valid : r.Valid fits) : Reads Restriction.form.read r.toJson r ∧ r.toJson.Keyed := by
  refine Form.Writes.reads_keyed ⟨?nodup, ?fields, ?auditFree, valid.audit, ?required,
    Restriction.form_commutes, ?result⟩ (List.append_nil _)
  case nodup =>
    apply List.Sublist.nodup
    · simp only [textMember, dateMember, List.map_append, List.map_cons, List.map_nil]
      apply_rules [List.Sublist.append, keys_optionalMember_sublist, Audit.keys_members_sublist,
        List.Sublist.refl]
    · decide
  case fields =>
    simp only [List.append_nil, List.forall_mem_append, List.forall_mem_cons, textMember,
      dateMember, forall_mem_optionalMember, List.not_mem_nil, IsEmpty.forall_iff, implies_true,
      and_true]
    and_intros
    · exact Form.member_given (by rfl) .number (readI64_reads (bounded _ valid.id))
    · exact Form.member_given (by rfl) .string (readString_reads _)
    · intro x _
      exact Form.member_given (by rfl) .string (readOption_reads_string (readString_reads x))
    · intro d mem
      exact Form.member_given (by rfl) .string (readDate_reads (valid.effectiveDate d mem))
    · intro d mem
      exact Form.member_given (by rfl) .string (readDate_reads (valid.expiryDate d mem))
    · intro x _
      exact Form.member_given (by rfl) .string (readOption_reads_string (readString_reads x))
  case auditFree => decide
  case required =>
    apply Form.required_given
    rw [show Restriction.form.requiredNames = ["id", "type"] from rfl]
    simp
  case result =>
    simp (disch := simp [Form.updateOf_pair, Form.field?, Restriction.form, Field.optional,
        Functor.map, Except.map, Except.toOption, readDate, readOption])
      [List.foldl_append, textMember, dateMember, Form.foldl_optionalMember, Form.updateOf_pair,
        Form.field?, Restriction.form, Field.needed, Field.optional, Json.ofInt,
        readI64_number (bounded _ valid.id), readOption_string_ofJson,
        readDate_ofJson valid.effectiveDate, readDate_ofJson valid.expiryDate, Functor.map,
        Except.map, Except.toOption]

/-- The identifier of a restriction on a relationship satisfies `fits`, and its dates and audit
block are of the calendar. -/
structure RelationshipRestriction.Valid (fits : Int → Prop) (r : RelationshipRestriction) :
    Prop where
  id : fits r.id
  startDate : ∀ d ∈ r.startDate, d.Valid
  expiryDate : ∀ d ∈ r.expiryDate, d.Valid
  audit : r.audit.Valid

theorem RelationshipRestriction.form_commutes : RelationshipRestriction.form.Commutes := by
  simp only [Form.Commutes, RelationshipRestriction.form, List.pairwise_cons,
    List.forall_mem_cons, List.not_mem_nil, IsEmpty.forall_iff, implies_true, and_true,
    List.Pairwise.nil]
  and_intros <;> exact Form.commute_fields fun _ _ _ => rfl

theorem RelationshipRestriction.reads_toJson (bounded : ∀ n, fits n → n ≤ i64Max)
    {r : RelationshipRestriction} (valid : r.Valid fits) :
    Reads RelationshipRestriction.form.read r.toJson r ∧ r.toJson.Keyed := by
  refine Form.Writes.reads_keyed ⟨?nodup, ?fields, ?auditFree, valid.audit, ?required,
    RelationshipRestriction.form_commutes, ?result⟩ (List.append_nil _)
  case nodup =>
    apply List.Sublist.nodup
    · simp only [textMember, dateMember, List.map_append, List.map_cons, List.map_nil]
      apply_rules [List.Sublist.append, keys_optionalMember_sublist, Audit.keys_members_sublist,
        List.Sublist.refl]
    · decide
  case fields =>
    simp only [List.append_nil, List.forall_mem_append, List.forall_mem_cons, textMember,
      dateMember, forall_mem_optionalMember, List.not_mem_nil, IsEmpty.forall_iff, implies_true,
      and_true]
    and_intros
    · exact Form.member_given (by rfl) .number (readI64_reads (bounded _ valid.id))
    · exact Form.member_given (by rfl) .string (readString_reads _)
    · intro x _
      exact Form.member_given (by rfl) .string (readOption_reads_string (readString_reads x))
    · intro d mem
      exact Form.member_given (by rfl) .string (readDate_reads (valid.startDate d mem))
    · intro d mem
      exact Form.member_given (by rfl) .string (readDate_reads (valid.expiryDate d mem))
    · intro x _
      exact Form.member_given (by rfl) .string (readOption_reads_string (readString_reads x))
  case auditFree => decide
  case required =>
    apply Form.required_given
    rw [show RelationshipRestriction.form.requiredNames = ["id", "type"] from rfl]
    simp
  case result =>
    simp (disch := simp [Form.updateOf_pair, Form.field?, RelationshipRestriction.form,
        Field.optional, Functor.map, Except.map, Except.toOption, readDate, readOption])
      [List.foldl_append, textMember, dateMember, Form.foldl_optionalMember, Form.updateOf_pair,
        Form.field?, RelationshipRestriction.form, Field.needed, Field.optional, Json.ofInt,
        readI64_number (bounded _ valid.id), readOption_string_ofJson,
        readDate_ofJson valid.startDate, readDate_ofJson valid.expiryDate, Functor.map,
        Except.map, Except.toOption]

/-! ## Addresses and relationships, with their own items -/

/-- The identifier of an address and of each of its phone numbers satisfy `fits`, and its dates
and audit blocks are of the calendar. -/
structure Address.Valid (fits : Int → Prop) (a : Address) : Prop where
  addressId : fits a.addressId
  startDate : ∀ d ∈ a.startDate, d.Valid
  endDate : ∀ d ∈ a.endDate, d.Valid
  phoneNumbers : ∀ p ∈ a.phoneNumbers, p.Valid fits
  audit : a.audit.Valid

theorem Address.form_commutes : Address.form.Commutes := by
  simp only [Form.Commutes, Address.form, List.pairwise_cons, List.forall_mem_cons,
    List.not_mem_nil, IsEmpty.forall_iff, implies_true, and_true, List.Pairwise.nil]
  and_intros <;> exact Form.commute_fields fun _ _ _ => rfl

theorem Address.reads_toJson (bounded : ∀ n, fits n → n ≤ i64Max) {a : Address}
    (valid : a.Valid fits) : Reads Address.form.read a.toJson a ∧ a.toJson.Keyed := by
  have phones := readList_map fun p mem => Phone.reads_toJson bounded (valid.phoneNumbers p mem)
  refine Form.Writes.reads_keyed ⟨?nodup, ?fields, ?auditFree, valid.audit, ?required,
    Address.form_commutes, ?result⟩ (List.append_nil _)
  case nodup =>
    apply List.Sublist.nodup
    · simp only [textMember, dateMember, List.map_append, List.map_cons, List.map_nil]
      apply_rules [List.Sublist.append, keys_optionalMember_sublist, Audit.keys_members_sublist,
        List.Sublist.refl]
    · decide
  case fields =>
    simp only [List.append_nil, List.forall_mem_append, List.forall_mem_cons, textMember,
      dateMember, forall_mem_optionalMember, List.not_mem_nil, IsEmpty.forall_iff, implies_true,
      and_true]
    and_intros
    · exact Form.member_given (by rfl) .number (readI64_reads (bounded _ valid.addressId))
    · intro x _
      exact Form.member_given (by rfl) .string (readOption_reads_string (readString_reads x))
    · exact Form.member_given (by rfl) .bool (readBool_reads _)
    iterate 8
      · intro x _
        exact Form.member_given (by rfl) .string (readOption_reads_string (readString_reads x))
    iterate 3
      · exact Form.member_given (by rfl) .bool (readBool_reads _)
    · intro d mem
      exact Form.member_given (by rfl) .string (readDate_reads (valid.startDate d mem))
    · intro d mem
      exact Form.member_given (by rfl) .string (readDate_reads (valid.endDate d mem))
    · intro x _
      exact Form.member_given (by rfl) .string (readOption_reads_string (readString_reads x))
    · exact Form.member_given (by rfl) phones.2 phones.1
  case auditFree => decide
  case required =>
    apply Form.required_given
    rw [show Address.form.requiredNames = ["addressId"] from rfl]
    simp
  case result =>
    simp (disch := simp [Form.updateOf_pair, Form.field?, Address.form, Field.optional,
        Functor.map, Except.map, Except.toOption, readDate, readOption])
      [List.foldl_append, textMember, dateMember, Form.foldl_optionalMember, Form.updateOf_pair,
        Form.field?, Address.form, Field.needed, Field.optional, Json.ofInt,
        readI64_number (bounded _ valid.addressId), readOption_string_ofJson,
        readDate_ofJson valid.startDate, readDate_ofJson valid.endDate,
        phones.1.ofJson phones.2, Functor.map, Except.map, Except.toOption]

/-- The identifier of a relationship and of each of its restrictions satisfy `fits`, and its
dates and audit blocks are of the calendar. -/
structure Relationship.Valid (fits : Int → Prop) (r : Relationship) : Prop where
  id : fits r.id
  expiryDate : ∀ d ∈ r.expiryDate, d.Valid
  restrictions : ∀ x ∈ r.restrictions, x.Valid fits
  audit : r.audit.Valid

theorem Relationship.form_commutes : Relationship.form.Commutes := by
  simp only [Form.Commutes, Relationship.form, List.pairwise_cons, List.forall_mem_cons,
    List.not_mem_nil, IsEmpty.forall_iff, implies_true, and_true, List.Pairwise.nil]
  and_intros <;> exact Form.commute_fields fun _ _ _ => rfl

theorem Relationship.reads_toJson (bounded : ∀ n, fits n → n ≤ i64Max) {r : Relationship}
    (valid : r.Valid fits) : Reads Relationship.form.read r.toJson r ∧ r.toJson.Keyed := by
  have restrictions := readList_map fun x mem =>
    RelationshipRestriction.reads_toJson bounded (valid.restrictions x mem)
  refine Form.Writes.reads_keyed ⟨?nodup, ?fields, ?auditFree, valid.audit, ?required,
    Relationship.form_commutes, ?result⟩ (List.append_nil _)
  case nodup =>
    apply List.Sublist.nodup
    · simp only [textMember, dateMember, List.map_append, List.map_cons, List.map_nil]
      apply_rules [List.Sublist.append, keys_optionalMember_sublist, Audit.keys_members_sublist,
        List.Sublist.refl]
    · decide
  case fields =>
    simp only [List.append_nil, List.forall_mem_append, List.forall_mem_cons, textMember,
      dateMember, forall_mem_optionalMember, List.not_mem_nil, IsEmpty.forall_iff, implies_true,
      and_true]
    and_intros
    · exact Form.member_given (by rfl) .number (readI64_reads (bounded _ valid.id))
    iterate 3
      · exact Form.member_given (by rfl) .string (readString_reads _)
    iterate 2
      · exact Form.member_given (by rfl) .bool (readBool_reads _)
    · intro d mem
      exact Form.member_given (by rfl) .string (readDate_reads (valid.expiryDate d mem))
    iterate 3
      · exact Form.member_given (by rfl) .bool (readBool_reads _)
    · intro x _
      exact Form.member_given (by rfl) .string (readOption_reads_string (readString_reads x))
    · exact Form.member_given (by rfl) restrictions.2 restrictions.1
  case auditFree => decide
  case required =>
    apply Form.required_given
    rw [show Relationship.form.requiredNames = ["id", "contactType", "relationshipType", "prisonerNumber"] from rfl]
    simp
  case result =>
    simp (disch := simp [Form.updateOf_pair, Form.field?, Relationship.form, Field.optional,
        Functor.map, Except.map, Except.toOption, readDate, readOption])
      [List.foldl_append, textMember, dateMember, Form.foldl_optionalMember, Form.updateOf_pair,
        Form.field?, Relationship.form, Field.needed, Field.optional, Json.ofInt,
        readI64_number (bounded _ valid.id), readOption_string_ofJson,
        readDate_ofJson valid.expiryDate, restrictions.1.ofJson restrictions.2, Functor.map,
        Except.map, Except.toOption]

end Record

open Json Calendar Record

/-! ## Contact records -/

/-- Every identifier within a contact record satisfies `fits`, and its dates and audit blocks are
of the calendar. -/
structure ContactRecord.Valid (fits : Int → Prop) (r : ContactRecord) : Prop where
  personId : fits r.personId
  dateOfBirth : ∀ d ∈ r.dateOfBirth, d.Valid
  deceasedDate : ∀ d ∈ r.deceasedDate, d.Valid
  audit : r.audit.Valid
  phoneNumbers : ∀ p ∈ r.phoneNumbers, p.Valid fits
  addresses : ∀ a ∈ r.addresses, a.Valid fits
  emailAddresses : ∀ e ∈ r.emailAddresses, e.Valid fits
  identifiers : ∀ i ∈ r.identifiers, i.Valid fits
  restrictions : ∀ x ∈ r.restrictions, x.Valid fits
  employments : ∀ e ∈ r.employments, e.Valid fits
  contacts : ∀ c ∈ r.contacts, c.Valid fits

theorem ContactRecord.form_commutes : ContactRecord.form.Commutes := by
  simp only [Form.Commutes, ContactRecord.form, List.pairwise_cons, List.forall_mem_cons,
    List.not_mem_nil, IsEmpty.forall_iff, implies_true, and_true, List.Pairwise.nil]
  and_intros <;> exact Form.commute_fields fun _ _ _ => rfl

theorem ContactRecord.reads_toJson {fits : Int → Prop} (bounded : ∀ n, fits n → n ≤ i64Max)
    {r : ContactRecord} (valid : r.Valid fits) :
    Reads ContactRecord.form.read r.toJson r ∧ r.toJson.Keyed := by
  have phones := readList_map fun p mem => Phone.reads_toJson bounded (valid.phoneNumbers p mem)
  have addresses := readList_map fun a mem => Address.reads_toJson bounded (valid.addresses a mem)
  have emails := readList_map fun e mem => Email.reads_toJson bounded (valid.emailAddresses e mem)
  have identifiers := readList_map fun i mem =>
    Identifier.reads_toJson bounded (valid.identifiers i mem)
  have restrictions := readList_map fun x mem =>
    Restriction.reads_toJson bounded (valid.restrictions x mem)
  have employments := readList_map fun e mem =>
    Employment.reads_toJson bounded (valid.employments e mem)
  have contacts := readList_map fun c mem => Relationship.reads_toJson bounded (valid.contacts c mem)
  refine Form.Writes.reads_keyed ⟨?nodup, ?fields, ?auditFree, valid.audit, ?required,
    ContactRecord.form_commutes, ?result⟩ rfl
  case nodup =>
    apply List.Sublist.nodup
    · simp only [textMember, dateMember, List.map_append, List.map_cons, List.map_nil]
      apply_rules [List.Sublist.append, keys_optionalMember_sublist, Audit.keys_members_sublist,
        List.Sublist.refl]
    · decide
  case fields =>
    simp only [List.forall_mem_append, List.forall_mem_cons, textMember, dateMember,
      forall_mem_optionalMember, List.not_mem_nil, IsEmpty.forall_iff, implies_true, and_true]
    and_intros
    · exact Form.member_given (by rfl) .number (readI64_reads (bounded _ valid.personId))
    · intro x _
      exact Form.member_given (by rfl) .string (readOption_reads_string (readString_reads x))
    iterate 2
      · exact Form.member_given (by rfl) .string (readString_reads _)
    · intro x _
      exact Form.member_given (by rfl) .string (readOption_reads_string (readString_reads x))
    · intro d mem
      exact Form.member_given (by rfl) .string (readDate_reads (valid.dateOfBirth d mem))
    iterate 3
      · intro x _
        exact Form.member_given (by rfl) .string (readOption_reads_string (readString_reads x))
    iterate 4
      · exact Form.member_given (by rfl) .bool (readBool_reads _)
    · intro d mem
      exact Form.member_given (by rfl) .string (readDate_reads (valid.deceasedDate d mem))
    · exact Form.member_given (by rfl) phones.2 phones.1
    · exact Form.member_given (by rfl) addresses.2 addresses.1
    · exact Form.member_given (by rfl) emails.2 emails.1
    · exact Form.member_given (by rfl) identifiers.2 identifiers.1
    · exact Form.member_given (by rfl) restrictions.2 restrictions.1
    · exact Form.member_given (by rfl) employments.2 employments.1
    · exact Form.member_given (by rfl) contacts.2 contacts.1
  case auditFree => decide
  case required =>
    apply Form.required_given
    rw [show ContactRecord.form.requiredNames = ["personId", "lastName", "firstName"] from rfl]
    simp
  case result =>
    simp (disch := simp [Form.updateOf_pair, Form.field?, ContactRecord.form, Field.optional,
        Functor.map, Except.map, Except.toOption, readDate, readOption])
      [List.foldl_append, textMember, dateMember, Form.foldl_optionalMember, Form.updateOf_pair,
        Form.field?, ContactRecord.form, Field.needed, Field.optional, Json.ofInt,
        readI64_number (bounded _ valid.personId), readOption_string_ofJson,
        readDate_ofJson valid.dateOfBirth, readDate_ofJson valid.deceasedDate,
        phones.1.ofJson phones.2, addresses.1.ofJson addresses.2, emails.1.ofJson emails.2,
        identifiers.1.ofJson identifiers.2, restrictions.1.ofJson restrictions.2,
        employments.1.ofJson employments.2, contacts.1.ofJson contacts.2, Functor.map,
        Except.map, Except.toOption]

end ContactMigration
