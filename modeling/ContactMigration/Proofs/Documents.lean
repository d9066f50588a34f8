import Mathlib
import ContactMigration.Json.Decode

/-!
# Documents that hold a value

A located document holds a JSON value when it has the same scalars, arrays of the same items and
objects with the same members, in whatever order; the places it records play no part
(`Doc.Holds`). A document read from text holds its value with the members in text order, and
the document made from a value holds it as soon as no object in it names a key twice
(`Doc.holds_ofJson`), since the members are then only sorted.

`Reads read j a` says that `read` gives `a` from every document that holds `j`. The readers of
scalars, optional values and arrays satisfy it item by item, so that a statement about a record
read from text and from a value is proved once.
-/

namespace ContactMigration.Json

mutual

/-- `d` holds `j`: the same scalars, arrays of the same items, and objects with the same members
in some order. -/
inductive Doc.Holds : Doc → Json → Prop
  | null {stop} : Doc.Holds (.null stop) .null
  | bool {b stop} : Doc.Holds (.bool b stop) (.bool b)
  | number {n stop} : Doc.Holds (.number n stop) (.number n)
  | string {s stop} : Doc.Holds (.string s stop) (.string s)
  | array {start items js} : Items.Holds items js → Doc.Holds (.array start items) (.array js)
  | object {start members kvs order} : Members.Holds members order → order.Perm kvs →
      Doc.Holds (.object start members) (.object kvs)

/-- The items hold the values, one by one and to the end. -/
inductive Items.Holds : Items → List Json → Prop
  | close : Items.Holds .close []
  | cons {d j items js} : Doc.Holds d j → Items.Holds items js →
      Items.Holds (.cons d items) (j :: js)

/-- The members hold the keys and values, one by one and to the end. -/
inductive Members.Holds : Members → List (String × Json) → Prop
  | close {stop} : Members.Holds (.close stop) []
  | cons {key keyStop d j members kvs} : Doc.Holds d j → Members.Holds members kvs →
      Members.Holds (.cons key keyStop d members) ((key, j) :: kvs)

end

/-- No object within the value names a key twice. -/
inductive Keyed : Json → Prop
  | null : Keyed .null
  | bool {b} : Keyed (.bool b)
  | number {n} : Keyed (.number n)
  | string {s} : Keyed (.string s)
  | array {js} : (∀ j ∈ js, Keyed j) → Keyed (.array js)
  | object {kvs : List (String × Json)} : (kvs.map Prod.fst).Nodup → (∀ kv ∈ kvs, Keyed kv.2) →
      Keyed (.object kvs)

/-! ## Documents made from values -/

/-- Keeping the last member of each key keeps every member when the keys are distinct. -/
theorem dedup_of_nodup {α : Type} :
    ∀ (members acc : List (String × α)), ((members ++ acc).map Prod.fst).Nodup →
      members.reverse.foldl (fun (kept : List (String × α)) member =>
        if kept.any (fun k => k.1 == member.1) then kept else member :: kept) acc =
        members ++ acc
  | [], acc, _ => rfl
  | member :: members, acc, nodup => by
    have rest : ((members ++ acc).map Prod.fst).Nodup := by
      simp only [List.cons_append, List.map_cons, List.nodup_cons] at nodup
      exact nodup.2
    have fresh : member.1 ∉ (members ++ acc).map Prod.fst := by
      simp only [List.cons_append, List.map_cons, List.nodup_cons] at nodup
      exact nodup.1
    rw [List.reverse_cons, List.foldl_append, dedup_of_nodup members acc rest]
    simp only [List.foldl_cons, List.foldl_nil]
    rw [if_neg]
    · rfl
    · simp only [List.any_eq_true, beq_iff_eq, not_exists, not_and]
      exact fun k mem same => fresh (List.mem_map.mpr ⟨k, mem, same⟩)

/-- Sorting members with distinct keys keeps every member. -/
theorem sortMembers_of_nodup {α : Type} {members : List (String × α)}
    (nodup : (members.map Prod.fst).Nodup) :
    sortMembers members = members.mergeSort (fun a b => decide (a.1 ≤ b.1)) := by
  have kept := dedup_of_nodup members [] (by simpa using nodup)
  rw [List.append_nil] at kept
  simp only [sortMembers, kept]

theorem membersOfJson_eq (kvs : List (String × Json)) :
    membersOfJson kvs = kvs.map fun kv => (kv.1, Doc.ofJson kv.2) := by
  induction kvs with
  | nil => rfl
  | cons kv kvs ih => simp [membersOfJson, ih]

theorem Items.holds_ofList : ∀ js : List Json, (∀ j ∈ js, Doc.Holds (Doc.ofJson j) j) →
    Items.Holds (Items.ofList (docsOfJson js)) js
  | [], _ => .close
  | j :: js, each =>
    .cons (each j (by simp)) (Items.holds_ofList js fun j' mem => each j' (by simp [mem]))

theorem Members.holds_ofList : ∀ kvs : List (String × Json),
    (∀ kv ∈ kvs, Doc.Holds (Doc.ofJson kv.2) kv.2) →
    Members.Holds (Members.ofList (kvs.map fun kv => (kv.1, Doc.ofJson kv.2))) kvs
  | [], _ => .close
  | (k, j) :: kvs, each =>
    .cons (each (k, j) (by simp)) (Members.holds_ofList kvs fun kv mem => each kv (by simp [mem]))

/-- A value whose objects name each key once is held by the document made from it. -/
theorem Doc.holds_ofJson {j : Json} (keyed : j.Keyed) : Doc.Holds (Doc.ofJson j) j := by
  induction keyed with
  | null => exact .null
  | bool => exact .bool
  | number => exact .number
  | string => exact .string
  | array _ items => exact .array (Items.holds_ofList _ items)
  | @object kvs nodup _ values =>
    -- the members are sorted by key alone, so the documents follow their values
    have sorted : sortMembers (membersOfJson kvs) =
        (kvs.mergeSort fun a b => decide (a.1 ≤ b.1)).map fun kv => (kv.1, Doc.ofJson kv.2) := by
      rw [membersOfJson_eq, sortMembers_of_nodup (by simpa [Function.comp_def] using nodup),
        List.map_mergeSort]
      intro a _ b _
      rfl
    rw [Doc.ofJson, sorted]
    exact .object (Members.holds_ofList _ fun kv mem =>
      values kv ((List.mergeSort_perm kvs _).subset mem)) (List.mergeSort_perm kvs _)

@[simp] theorem Doc.ofJson_null : Doc.ofJson .null = .null none := rfl

@[simp] theorem Doc.ofJson_bool (b : Bool) : Doc.ofJson (.bool b) = .bool b none := rfl

@[simp] theorem Doc.ofJson_number (n : Number) : Doc.ofJson (.number n) = .number n none := rfl

@[simp] theorem Doc.ofJson_string (s : String) : Doc.ofJson (.string s) = .string s none := rfl

/-! ## Readers -/

/-- `read` gives `a` from every document that holds `j`. -/
def Reads {α : Type} (read : Reader α) (j : Json) (a : α) : Prop :=
  ∀ d, Doc.Holds d j → read d = .ok a

theorem Reads.ofJson {α : Type} {read : Reader α} {j : Json} {a : α} (reads : Reads read j a)
    (keyed : j.Keyed) : read (Doc.ofJson j) = .ok a :=
  reads _ (Doc.holds_ofJson keyed)

theorem Reads.map {α β : Type} {read : Reader α} {j : Json} {a : α} (f : α → β)
    (reads : Reads read j a) : Reads (fun d => f <$> read d) j (f a) := by
  intro d holds
  show f <$> read d = _
  rw [reads d holds]
  rfl

@[simp]
theorem readI64_number {n : Int} (fits : n ≤ i64Max) (stop : Option Pos) :
    readI64 (.number (.int n) stop) = .ok n := by
  simp [readI64, fits]

@[simp] theorem readString_string (s : String) (stop : Option Pos) :
    readString (.string s stop) = .ok s := rfl

@[simp] theorem readBool_bool (b : Bool) (stop : Option Pos) : readBool (.bool b stop) = .ok b := rfl

@[simp] theorem readOption_null {α : Type} (read : Reader α) (stop : Option Pos) :
    readOption read (.null stop) = .ok none := rfl

theorem readOption_string_ofJson (v : Option String) :
    readOption readString (Doc.ofJson ((v.map Json.string).getD .null)) = .ok v := by
  cases v <;> rfl

theorem readI64_reads {n : Int} (fits : n ≤ i64Max) : Reads readI64 (.number (.int n)) n := by
  rintro _ ⟨⟩
  exact readI64_number fits _

theorem readString_reads (s : String) : Reads readString (.string s) s := by
  rintro _ ⟨⟩
  rfl

theorem readBool_reads (b : Bool) : Reads readBool (.bool b) b := by
  rintro _ ⟨⟩
  rfl

theorem readOption_reads_string {α : Type} {read : Reader α} {s : String} {a : α}
    (reads : Reads read (.string s) a) : Reads (readOption read) (.string s) (some a) := by
  intro d holds
  cases holds
  simp [readOption, reads _ .string]

theorem readConverted_reads {α : Type} {wanted : Expected} {convert : String → Except String α}
    {s : String} {a : α} (converted : convert s = .ok a) :
    Reads (readConverted wanted convert) (.string s) a := by
  rintro _ ⟨⟩
  simp [readConverted, converted]

theorem readEach_reads {α : Type} {read : Reader α} :
    ∀ {js : List Json} {as : List α}, List.Forall₂ (Reads read) js as →
      ∀ {items : Items}, Items.Holds items js → readEach read items = .ok as
  | _, _, .nil, _, .close => rfl
  | _, _, .cons first rest, _, .cons item items => by
    rw [readEach, first _ item, readEach_reads rest items]
    rfl

theorem readList_reads {α : Type} {read : Reader α} {js : List Json} {as : List α}
    (each : List.Forall₂ (Reads read) js as) : Reads (readList read) (.array js) as := by
  intro d holds
  cases holds with
  | array items => exact readEach_reads each items

end ContactMigration.Json
