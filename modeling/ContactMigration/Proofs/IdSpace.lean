import ContactMigration.Migration.IdSpace
import ContactMigration.Proofs.Work

/-!
# The id space check

A record is accepted when every id it brings from the system of record lies below the threshold,
and refused with the first id at or above it otherwise, in record order. `ContactRecord.IdsBelow`
says which ids these are field by field, without the list that the check walks: the person, the
phone numbers, the addresses and their phone numbers, the email addresses, the identity
documents and employments by sequence, the restrictions, and the relationships with their
restrictions. The organisation an employment names is no source id.

Main statement: `checkIdSpace_refuses_first_outside`.
-/

namespace ContactMigration

/-- Every id the record brings from the system of record lies below `t`. -/
structure ContactRecord.IdsBelow (r : ContactRecord) (t : Int) : Prop where
  person : r.personId < t
  phones : ∀ p ∈ r.phoneNumbers, p.phoneId < t
  addresses : ∀ a ∈ r.addresses, a.addressId < t ∧ ∀ p ∈ a.phoneNumbers, p.phoneId < t
  emails : ∀ e ∈ r.emailAddresses, e.emailAddressId < t
  identifiers : ∀ i ∈ r.identifiers, i.sequence < t
  restrictions : ∀ x ∈ r.restrictions, x.id < t
  employments : ∀ e ∈ r.employments, e.sequence < t
  relationships : ∀ c ∈ r.contacts, c.id < t ∧ ∀ x ∈ c.restrictions, x.id < t

theorem Record.Address.sourceIds_below (a : Record.Address) (t : Int) :
    (∀ q ∈ a.sourceIds, q.2 < t) ↔ a.addressId < t ∧ ∀ p ∈ a.phoneNumbers, p.phoneId < t := by
  simp [Record.Address.sourceIds]

theorem Record.Relationship.sourceIds_below (c : Record.Relationship) (t : Int) :
    (∀ q ∈ c.sourceIds, q.2 < t) ↔ c.id < t ∧ ∀ x ∈ c.restrictions, x.id < t := by
  simp [Record.Relationship.sourceIds]

/-- The list the check walks holds exactly the source ids. -/
theorem ContactRecord.sourceIds_below_iff (r : ContactRecord) (t : Int) :
    (∀ q ∈ r.sourceIds, q.2 < t) ↔ r.IdsBelow t := by
  simp only [ContactRecord.sourceIds, List.forall_mem_append, List.forall_mem_flatMap,
    Record.Address.sourceIds_below, Record.Relationship.sourceIds_below, List.forall_mem_map,
    List.forall_mem_singleton]
  constructor
  · rintro ⟨⟨⟨⟨⟨⟨⟨person, phones⟩, addresses⟩, emails⟩, identifiers⟩, restrictions⟩, employments⟩,
      relationships⟩
    exact ⟨person, phones, addresses, emails, identifiers, restrictions, employments,
      relationships⟩
  · rintro ⟨person, phones, addresses, emails, identifiers, restrictions, employments,
      relationships⟩
    exact ⟨⟨⟨⟨⟨⟨⟨person, phones⟩, addresses⟩, emails⟩, identifiers⟩, restrictions⟩, employments⟩,
      relationships⟩

theorem ContactRecord.firstOutside?_eq_none_iff (r : ContactRecord) (t : Int) :
    r.firstOutside? t = none ↔ r.IdsBelow t := by
  rw [ContactRecord.firstOutside?, List.find?_eq_none, ← ContactRecord.sourceIds_below_iff]
  simp

theorem ContactRecord.firstOutside?_eq_some_iff (r : ContactRecord) (t : Int) (kind : ElementKind)
    (id : Int) :
    r.firstOutside? t = some (kind, id) ↔
      ∃ before after, r.sourceIds = before ++ (kind, id) :: after ∧ (∀ q ∈ before, q.2 < t) ∧
        t ≤ id := by
  rw [ContactRecord.firstOutside?, List.find?_eq_some_iff_append]
  simp only [decide_eq_true_eq, ge_iff_le, Bool.not_eq_true', decide_eq_false_iff_not, not_le]
  constructor
  · rintro ⟨outside, before, after, split, below⟩
    exact ⟨before, after, split, below, outside⟩
  · rintro ⟨before, after, split, below, outside⟩
    exact ⟨outside, before, after, split, below⟩

/-- The id space check accepts a record exactly when all its source ids lie below the threshold;
otherwise it refuses it with the first source id, in record order, that does not, naming its
kind and the threshold. -/
theorem checkIdSpace_refuses_first_outside (r : ContactRecord) (t : Int) :
    (checkIdSpace r t = .ok () ↔ r.IdsBelow t) ∧
    ∀ e, checkIdSpace r t = .error e ↔
      ∃ before kind id after, r.sourceIds = before ++ (kind, id) :: after ∧
        (∀ q ∈ before, q.2 < t) ∧ t ≤ id ∧ e = .sourceIdOutOfRange kind id t := by
  constructor
  · rw [← ContactRecord.firstOutside?_eq_none_iff]
    unfold checkIdSpace
    split <;> simp_all
  · intro e
    unfold checkIdSpace
    split
    · rename_i kind id first
      obtain ⟨before, after, split, below, outside⟩ :=
        (ContactRecord.firstOutside?_eq_some_iff r t kind id).mp first
      constructor
      · rintro ⟨⟩
        exact ⟨before, kind, id, after, split, below, outside, rfl⟩
      · -- the first id outside is unique: both splits stop at the first id at or above `t`
        rintro ⟨before', kind', id', after', split', below', outside', rfl⟩
        have found := (ContactRecord.firstOutside?_eq_some_iff r t kind' id').mpr
          ⟨before', after', split', below', outside'⟩
        rw [first] at found
        cases found
        rfl
    · rename_i absent
      simp only [reduceCtorEq, false_iff, not_exists, not_and]
      intro before kind id after split below outside _
      have found := (ContactRecord.firstOutside?_eq_some_iff r t kind id).mpr
        ⟨before, after, split, below, outside⟩
      rw [absent] at found
      cases found

example :
    checkIdSpace { (default : ContactRecord) with
      personId := 1, phoneNumbers := [{ (default : Record.Phone) with phoneId := 500 }] } 500 =
      .error (.sourceIdOutOfRange .phone 500 500) := by
  rfl

end ContactMigration
