import ContactMigration.Migration.Extract
import ContactMigration.Store.Encode

/-!
Writing saved rows with their source ids as JSON: a saved row is `{"sourceId", "entity"}`, the
rows beneath one parent are `{"parentSourceId", "children"}`, and an address phone's entity is
`{"phone", "link"}`.
-/

namespace ContactMigration.Migration

open Store

/-- A saved row and its source id as JSON, `write` writing the row. -/
def Correlated.toJson {α : Type} (write : α → Json) (c : Correlated α) : Json :=
  .object [("sourceId", Json.ofInt c.sourceId), ("entity", write c.entity)]

/-- The rows beneath one parent as JSON, `write` writing each row. -/
def Nested.toJson {α : Type} (write : α → Json) (n : Nested α) : Json :=
  .object [("parentSourceId", Json.ofInt n.parentSourceId),
    ("children", .array (n.children.map (Correlated.toJson write)))]

/-- An address phone as JSON. -/
def AddressPhone.toJson (p : AddressPhone) : Json :=
  .object [("phone", p.phone.toJson), ("link", p.link.toJson)]

end ContactMigration.Migration
