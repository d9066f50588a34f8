import ContactMigration.Proofs.Decoded
import ContactMigration.Proofs.JsonText

/-!
# Records read back from what is written

A contact record is written as a JSON value (`ContactRecord.toJson`) and as compact text, the
rendering of that value. A record whose identifiers are 64-bit signed integers and whose dates
and times are of the calendar reads back from both. Every record read from a value is of that
kind, so writing it out and reading it again gives the same record: the written value is the
normal form of all the values that read as one record.

Text reads back through `Plain`: a written record holds no fractions, its integers are of 64 bits
and it nests five deep at most, well within the reader's depth limit.

Main statement: `ContactRecord.round_trip`.
-/

namespace ContactMigration.Record

open Json Calendar

theorem Audit.plain_members (a : Audit) (d : Nat) : ∀ kv ∈ a.members, Plain d kv.2 := by
  intro kv mem
  rcases Audit.mem_members.mp mem with ⟨s, -, rfl⟩ | ⟨t, -, rfl⟩ | ⟨s, -, rfl⟩ | ⟨t, -, rfl⟩ <;>
  exact .string

theorem plain_array_map {β : Type} {toJson : β → Json} {xs : List β} {d : Nat}
    (each : ∀ x ∈ xs, Plain d (toJson x)) : Plain (d + 1) (.array (xs.map toJson)) := by
  apply Plain.array
  intro j mem
  obtain ⟨x, member, rfl⟩ := List.mem_map.mp mem
  exact each x member

variable {fits : Int → Prop}

theorem Phone.plain_toJson (ranged : ∀ n, fits n → i64Min ≤ n ∧ n ≤ wordMax) {p : Phone}
    (valid : p.Valid fits) : Plain 1 p.toJson := by
  have phoneId := ranged _ valid.phoneId
  apply Plain.object
  simp only [textMember, List.forall_mem_append, List.forall_mem_cons,
    forall_mem_optionalMember]
  refine ⟨?_, Audit.plain_members _ _⟩
  simp [Plain.string, Json.ofInt, Plain.int phoneId.1 phoneId.2]

theorem Email.plain_toJson (ranged : ∀ n, fits n → i64Min ≤ n ∧ n ≤ wordMax) {e : Email}
    (valid : e.Valid fits) : Plain 1 e.toJson := by
  have emailAddressId := ranged _ valid.emailAddressId
  apply Plain.object
  simp only [List.forall_mem_append, List.forall_mem_cons]
  refine ⟨?_, Audit.plain_members _ _⟩
  simp [Plain.string, Json.ofInt, Plain.int emailAddressId.1 emailAddressId.2]

theorem Identifier.plain_toJson (ranged : ∀ n, fits n → i64Min ≤ n ∧ n ≤ wordMax) {i : Identifier}
    (valid : i.Valid fits) : Plain 1 i.toJson := by
  have sequence := ranged _ valid.sequence
  apply Plain.object
  simp only [textMember, List.forall_mem_append, List.forall_mem_cons,
    forall_mem_optionalMember]
  refine ⟨?_, Audit.plain_members _ _⟩
  simp [Plain.string, Json.ofInt, Plain.int sequence.1 sequence.2]

theorem Employment.plain_toJson (ranged : ∀ n, fits n → i64Min ≤ n ∧ n ≤ wordMax) {e : Employment}
    (valid : e.Valid fits) : Plain 1 e.toJson := by
  have sequence := ranged _ valid.sequence
  have corporateId := ranged _ valid.corporateId
  apply Plain.object
  simp only [List.forall_mem_append, List.forall_mem_cons]
  refine ⟨?_, Audit.plain_members _ _⟩
  simp [Plain.bool, Json.ofInt, Plain.int sequence.1 sequence.2,
    Plain.int corporateId.1 corporateId.2]

theorem Restriction.plain_toJson (ranged : ∀ n, fits n → i64Min ≤ n ∧ n ≤ wordMax)
    {r : Restriction} (valid : r.Valid fits) : Plain 1 r.toJson := by
  have id := ranged _ valid.id
  apply Plain.object
  simp only [textMember, dateMember, List.forall_mem_append,
    List.forall_mem_cons, forall_mem_optionalMember]
  refine ⟨?_, Audit.plain_members _ _⟩
  simp [Plain.string, Json.ofInt, Plain.int id.1 id.2]

theorem RelationshipRestriction.plain_toJson (ranged : ∀ n, fits n → i64Min ≤ n ∧ n ≤ wordMax)
    {r : RelationshipRestriction} (valid : r.Valid fits) : Plain 1 r.toJson := by
  have id := ranged _ valid.id
  apply Plain.object
  simp only [textMember, dateMember, List.forall_mem_append,
    List.forall_mem_cons, forall_mem_optionalMember]
  refine ⟨?_, Audit.plain_members _ _⟩
  simp [Plain.string, Json.ofInt, Plain.int id.1 id.2]

theorem Address.plain_toJson (ranged : ∀ n, fits n → i64Min ≤ n ∧ n ≤ wordMax) {a : Address}
    (valid : a.Valid fits) : Plain 3 a.toJson := by
  have addressId := ranged _ valid.addressId
  have phones : Plain 2 (.array (a.phoneNumbers.map Phone.toJson)) :=
    plain_array_map fun p mem => (Phone.plain_toJson ranged (valid.phoneNumbers p mem))
  apply Plain.object
  simp only [textMember, dateMember, List.forall_mem_append, List.forall_mem_cons,
    forall_mem_optionalMember]
  refine ⟨?_, Audit.plain_members _ _⟩
  simp [Plain.string, Plain.bool, Json.ofInt, Plain.int addressId.1 addressId.2, phones]

theorem Relationship.plain_toJson (ranged : ∀ n, fits n → i64Min ≤ n ∧ n ≤ wordMax)
    {r : Relationship} (valid : r.Valid fits) : Plain 3 r.toJson := by
  have id := ranged _ valid.id
  have restrictions : Plain 2 (.array (r.restrictions.map RelationshipRestriction.toJson)) :=
    plain_array_map fun x mem =>
      (RelationshipRestriction.plain_toJson ranged (valid.restrictions x mem))
  apply Plain.object
  simp only [textMember, dateMember, List.forall_mem_append,
    List.forall_mem_cons, forall_mem_optionalMember]
  refine ⟨?_, Audit.plain_members _ _⟩
  simp [Plain.string, Plain.bool, Json.ofInt, Plain.int id.1 id.2, restrictions]

end Record

open Json Calendar Record

theorem ContactRecord.plain_toJson {fits : Int → Prop}
    (ranged : ∀ n, fits n → i64Min ≤ n ∧ n ≤ wordMax) {r : ContactRecord} (valid : r.Valid fits) :
    Plain 5 r.toJson := by
  have personId := ranged _ valid.personId
  -- every collection nests at most four deep
  have phones : Plain 4 (.array (r.phoneNumbers.map Phone.toJson)) := plain_array_map fun p mem =>
    (Phone.plain_toJson ranged (valid.phoneNumbers p mem)).mono (by omega)
  have addresses : Plain 4 (.array (r.addresses.map Address.toJson)) := plain_array_map fun a mem =>
    Address.plain_toJson ranged (valid.addresses a mem)
  have emails : Plain 4 (.array (r.emailAddresses.map Email.toJson)) := plain_array_map fun e mem =>
    (Email.plain_toJson ranged (valid.emailAddresses e mem)).mono (by omega)
  have identifiers : Plain 4 (.array (r.identifiers.map Identifier.toJson)) :=
    plain_array_map fun i mem => (Identifier.plain_toJson ranged (valid.identifiers i mem)).mono
      (by omega)
  have restrictions : Plain 4 (.array (r.restrictions.map Restriction.toJson)) :=
    plain_array_map fun x mem => (Restriction.plain_toJson ranged (valid.restrictions x mem)).mono
      (by omega)
  have employments : Plain 4 (.array (r.employments.map Employment.toJson)) :=
    plain_array_map fun e mem => (Employment.plain_toJson ranged (valid.employments e mem)).mono
      (by omega)
  have contacts : Plain 4 (.array (r.contacts.map Relationship.toJson)) :=
    plain_array_map fun c mem => Relationship.plain_toJson ranged (valid.contacts c mem)
  apply Plain.object
  simp only [textMember, dateMember, List.forall_mem_append,
    List.forall_mem_cons, forall_mem_optionalMember]
  refine ⟨⟨?_, Audit.plain_members _ _⟩, ?_⟩
  · simp [Plain.string, Plain.bool, Json.ofInt, Plain.int personId.1 personId.2]
  · simp [phones, addresses, emails, identifiers, restrictions, employments, contacts]

/-- A contact record whose identifiers are 64-bit signed integers and whose dates and times are
of the calendar reads back from its value and from its compact text. -/
theorem ContactRecord.reads_back {r : ContactRecord}
    (valid : r.Valid fun n => i64Min ≤ n ∧ n ≤ i64Max) :
    ContactRecord.ofJson r.toJson = .ok r ∧ ContactRecord.ofText (render r.toJson) = .ok r := by
  have bounded : ∀ n : Int, i64Min ≤ n ∧ n ≤ i64Max → n ≤ i64Max := fun _ fits => fits.2
  have ranged : ∀ n : Int, i64Min ≤ n ∧ n ≤ i64Max → i64Min ≤ n ∧ n ≤ wordMax := by
    intro n fits
    simp only [i64Max, wordMax] at fits ⊢
    omega
  obtain ⟨reads, keyed⟩ := ContactRecord.reads_toJson bounded valid
  obtain ⟨holds, trailing⟩ := Document.read_render ((ContactRecord.plain_toJson ranged valid).mono
    (by omega))
  constructor
  · exact reads.ofJson keyed
  · simp [ContactRecord.ofText, ContactRecord.read, reads _ holds, trailing]

/-- A record read from any document, text or value, reads back from the value written for it. -/
theorem ContactRecord.reads_back_of_read {d : Doc} {r : ContactRecord}
    (read : ContactRecord.read d = .ok r) : ContactRecord.ofJson r.toJson = .ok r := by
  have valid : r.Valid (· ≤ i64Max) := ContactRecord.form_keeps.read read
  obtain ⟨reads, keyed⟩ := ContactRecord.reads_toJson (fun _ fits => fits) valid
  exact reads.ofJson keyed

theorem ContactRecord.read_of_ofText {text : String} {r : ContactRecord}
    (read : ContactRecord.ofText text = .ok r) :
    ContactRecord.read (Document.read text).root = .ok r := by
  unfold ContactRecord.ofText at read
  dsimp only at read
  split at read
  · cases read
  · rename_i found
    split at read
    · cases read
    · cases read
      exact found

/-- The value written for a record that was read is a normal form: it reads as that record, and
writing what it reads gives it back. -/
theorem ContactRecord.normal_of_read {d : Doc} {r : ContactRecord}
    (read : ContactRecord.read d = .ok r) :
    ContactRecord.ofJson r.toJson = .ok r ∧
      (ContactRecord.ofJson r.toJson).map ContactRecord.toJson = .ok r.toJson := by
  have again := ContactRecord.reads_back_of_read read
  refine ⟨again, ?_⟩
  rw [again]
  rfl

theorem ContactRecord.round_trip :
    (∀ r : ContactRecord, r.Valid (fun n => i64Min ≤ n ∧ n ≤ i64Max) →
      ContactRecord.ofJson r.toJson = .ok r ∧ ContactRecord.ofText (render r.toJson) = .ok r) ∧
    (∀ (j : Json) (r : ContactRecord), ContactRecord.ofJson j = .ok r →
      ContactRecord.ofJson r.toJson = .ok r ∧
        (ContactRecord.ofJson r.toJson).map ContactRecord.toJson = .ok r.toJson) ∧
    ∀ (text : String) (r : ContactRecord), ContactRecord.ofText text = .ok r →
      ContactRecord.ofJson r.toJson = .ok r ∧
        (ContactRecord.ofJson r.toJson).map ContactRecord.toJson = .ok r.toJson := by
  refine ⟨fun r valid => ContactRecord.reads_back valid, ?_, ?_⟩
  · intro j r read
    exact ContactRecord.normal_of_read read
  · intro text r read
    exact ContactRecord.normal_of_read (ContactRecord.read_of_ofText read)

/-- A record born on a leap day, with a negative identifier and an audit block written at a
leap second. -/
def leapRecord : ContactRecord :=
  { (default : ContactRecord) with
    personId := -3, lastName := "Hopper", firstName := "Grace"
    dateOfBirth := some ⟨1904, 2, 29⟩
    audit := { createUsername := some "Z", createDateTime := some ⟨⟨2016, 12, 31⟩, 23, 59, 60, 5⟩ }
    phoneNumbers := [{ (default : Record.Phone) with phoneId := 9, number := "0117" }] }

/-- The same record as text with its members out of order, blanks, a `null` option, an unknown
member, and its flags and collections left to their defaults. -/
def looseLeapText : String :=
  "\x7b \"firstName\": \"Grace\", \"title\": null, \"note\": [1.5, \x7b\x7d],\n" ++
  " \"phoneNumbers\": [\x7b\"type\": \"\", \"number\": \"0117\", \"phoneId\": 9\x7d],\n" ++
  " \"createDateTime\": \"2016-12-31T23:59:60.000000005\", \"lastName\": \"Hopper\",\n" ++
  " \"dateOfBirth\": \"1904-02-29\", \"createUsername\": \"Z\", \"personId\": -3 \x7d"

theorem leap_record_round_trip :
    (leapRecord.Valid (fun n => i64Min ≤ n ∧ n ≤ i64Max) ∧
      ContactRecord.ofJson leapRecord.toJson = .ok leapRecord ∧
      ContactRecord.ofText (render leapRecord.toJson) = .ok leapRecord) ∧
    ContactRecord.ofText looseLeapText = .ok leapRecord ∧
      ContactRecord.ofJson leapRecord.toJson = .ok leapRecord ∧
      (ContactRecord.ofJson leapRecord.toJson).map ContactRecord.toJson = .ok leapRecord.toJson := by
  have phone : ∀ p ∈ leapRecord.phoneNumbers, p.Valid fun n => i64Min ≤ n ∧ n ≤ i64Max := by
    intro p mem
    simp only [leapRecord, List.mem_singleton] at mem
    subst mem
    exact ⟨by decide, Audit.valid_empty⟩
  have valid : leapRecord.Valid fun n => i64Min ≤ n ∧ n ≤ i64Max :=
    { personId := by decide
      dateOfBirth := by simp [leapRecord]; decide
      deceasedDate := nofun
      audit := ⟨by simp [leapRecord]; decide, nofun⟩
      phoneNumbers := phone
      addresses := List.forall_mem_nil _
      emailAddresses := List.forall_mem_nil _
      identifiers := List.forall_mem_nil _
      restrictions := List.forall_mem_nil _
      employments := List.forall_mem_nil _
      contacts := List.forall_mem_nil _ }
  -- the loose text is read by running the reader
  have decided : (ContactRecord.ofText looseLeapText).toOption = some leapRecord := by
    decide +kernel
  have read : ContactRecord.ofText looseLeapText = .ok leapRecord := by
    revert decided
    cases ContactRecord.ofText looseLeapText <;> simp [Except.toOption]
  exact ⟨⟨valid, ContactRecord.round_trip.1 _ valid⟩, read,
    ContactRecord.round_trip.2.2 _ _ read⟩

end ContactMigration
