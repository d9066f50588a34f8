import ContactMigration.Shell.Tool
import ContactMigration.Migration.Report
import ContactMigration.Store.Aggregate
import ContactMigration.Json.Writer
import ContactMigration.Text.Truncate

/-!
# What the tool prints

Each result is printed in one of three formats:
- `json`: compact JSON on one line, members in a fixed order;
- `pretty`: a summary for people to read;
- `minimal`: bare lines for scripts.

A report line shows a correlation as the kind, the source id right-aligned in ten places, an
arrow and the destination id, as in `PHONE          3 -> 20000002`. A failure is printed to
standard error: as a JSON object of its code and message in the JSON format, else as
`error: ` and the message.
-/

namespace ContactMigration.Shell

open Migration Store

/-- A correlation as a report line. -/
def reportLine (p : IdPair) : String :=
  p.kind.name ++ " " ++ padLeft (toString p.sourceId) 10 ++ " -> " ++ toString p.destinationId

/-- Lines of text, each ended by a line break. -/
def lines (items : List String) : String :=
  String.join (items.map (· ++ "\n"))

/-- A migration's report; `replaced` says whether an earlier migration was replaced. -/
def reportText (format : Format) (r : Report) (replaced : Bool) : String :=
  match format with
  | .json => Json.render r.toJson ++ "\n"
  | .pretty =>
    lines <|
      [(if replaced then "Replaced" else "Migrated") ++ " contact " ++ toString r.contact.sourceId ++
        " (" ++ r.lastName ++ ")"] ++
      (r.dateOfBirth.map fun d => "  born: " ++ d.text).toList ++
      ["  phones: " ++ toString r.phoneNumbers.length,
        "  addresses: " ++ toString r.addresses.length,
        "  emails: " ++ toString r.emails.length,
        "  identities: " ++ toString r.identities.length,
        "  restrictions: " ++ toString r.restrictions.length,
        "  employments: " ++ toString r.employments.length,
        "  relationships: " ++ toString r.relationships.length] ++
      (r.entries.drop 1).map ("    " ++ reportLine ·)
  | .minimal => lines (r.entries.map reportLine)

/-- An address on one line: the parts it has, of flat, property, street, city and postcode. -/
def addressLine (a : AddressRow) : String :=
  ", ".intercalate ([a.flat, a.property, a.street, a.city, a.postcode].filterMap id)

/-- A migrated contact as read back. -/
def aggregateText (format : Format) (a : Aggregate) : String :=
  let c := a.contact
  match format with
  | .json => Json.render a.toJson ++ "\n"
  | .pretty =>
    lines <|
      ["[" ++ toString c.contactId ++ "] " ++ c.lastName ++ ", " ++ c.firstName] ++
      (c.dateOfBirth.map fun d => "  born: " ++ d.text).toList ++
      (if c.deceased then
        ["  deceased: " ++ (c.deceasedDate.map (·.text)).getD "yes"] else []) ++
      a.phones.map (fun p =>
        "  phone [" ++ toString p.id ++ "] " ++ p.phoneType ++ " " ++ p.phoneNumber) ++
      a.addresses.map (fun ad => "  address [" ++ toString ad.id ++ "] " ++ addressLine ad) ++
      a.emails.map (fun e => "  email [" ++ toString e.id ++ "] " ++ e.emailAddress) ++
      a.restrictions.map (fun r => "  restriction [" ++ toString r.id ++ "] " ++ r.restrictionType) ++
      a.relationships.map fun r =>
        "  prisoner [" ++ toString r.id ++ "] " ++ r.prisonerNumber ++ " " ++ r.relationshipType ++
          " (" ++ r.contactType ++ ")"
  | .minimal =>
    lines [padLeft (toString c.contactId) 10 ++ " " ++ padRight (Text.truncate c.lastName 20) 20 ++
      " " ++ padRight (Text.truncate c.firstName 20) 20 ++ " " ++
      padLeft (toString a.phones.length) 3 ++ " " ++ padLeft (toString a.addresses.length) 3 ++ " " ++
      padLeft (toString a.relationships.length) 3]

/-- The removal of a contact. -/
def removedText (format : Format) (contactId : Int) : String :=
  match format with
  | .json => Json.render (.object [("removed", Json.ofInt contactId)]) ++ "\n"
  | .pretty => "Removed contact " ++ toString contactId ++ "\n"
  | .minimal => toString contactId ++ "\n"

/-- A failure, for standard error. -/
def failureText (format : Format) (e : MigrationError) : String :=
  match format with
  | .json =>
    Json.render (.object [("error", .string e.code), ("message", .string e.message)]) ++ "\n"
  | _ => "error: " ++ e.message ++ "\n"

end ContactMigration.Shell
