import ContactMigration.Proofs.Reading
import ContactMigration.Settings.Config

/-!
# Layered settings

The settings a run uses are built in layers. The defaults come first; a YAML text sets the fields
it names and leaves the others at their defaults (`Config.ofYaml_agrees`), and a text of blanks
only is the defaults. A key that names no field is refused, and so is the whole text
(`Config.ofYaml_unknown`). Over the text come the environment's database, when set and not
empty, and its threshold, when set and not empty, trimmed and read as a 64-bit integer
(`Config.layeredDatabase`, `Config.layeredThreshold`); a threshold that does not read is refused.
The settings are then accepted exactly when the threshold is above 1 and the database is not
empty. Last, a run puts the command line's database over them and checks them once more, so a
database the command line names cannot stand in for an empty one the layers gave
(`Config.forRun_of_empty_database`).

Main statement: `settings_layer_environment_over_text_over_defaults`.
-/

namespace ContactMigration.Yaml

/-- The keys of a mapping's entries that are written as scalars, in order. -/
def Entries.names : Entries → List String
  | .close => []
  | .broken _ => []
  | .cons (.scalar text _ _ _) _ _ rest => text :: rest.names
  | .cons _ _ _ rest => rest.names

end ContactMigration.Yaml

namespace ContactMigration.Settings

open Yaml

namespace Config

/-- The keys a YAML text gives its settings: those of its root mapping, none for a text of blanks
only or a root that is no mapping. -/
def keysOf (y : String) : List String :=
  if (Text.trim y).isEmpty then []
  else
    match (Document.read y).root with
    | .mapping _ entries => entries.names
    | _ => []

/-- Settings `c` agree with `base` on every field whose name is not among `names`. -/
def AgreesOutside (c base : Config) (names : List String) : Prop :=
  ("database" ∈ names ∨ c.database = base.database) ∧
    ("id_threshold" ∈ names ∨ c.idThreshold = base.idThreshold) ∧
    ("busy_timeout_ms" ∈ names ∨ c.busyTimeoutMs = base.busyTimeoutMs) ∧
    ("lock_dir" ∈ names ∨ c.lockDir = base.lockDir)

theorem AgreesOutside.refl (c : Config) (names : List String) : c.AgreesOutside c names :=
  ⟨.inr rfl, .inr rfl, .inr rfl, .inr rfl⟩

theorem AgreesOutside.trans {c c₁ c₂ : Config} {xs ys : List String}
    (first : c₁.AgreesOutside c xs) (second : c₂.AgreesOutside c₁ ys) :
    c₂.AgreesOutside c (xs ++ ys) := by
  obtain ⟨d₁, t₁, b₁, l₁⟩ := first
  obtain ⟨d₂, t₂, b₂, l₂⟩ := second
  simp only [AgreesOutside, List.mem_append]
  refine ⟨?_, ?_, ?_, ?_⟩ <;> grind

/-! ## Reading the text -/

/-- Setting a known field from its node changes that field only. -/
theorem setField_agrees {c c' : Config} {key path : String} {value : Node}
    (known : key ∈ fieldNames) (set : c.setField key path value = .ok c') :
    c'.AgreesOutside c [key] := by
  simp only [fieldNames, List.mem_cons, List.not_mem_nil, or_false] at known
  unfold setField at set
  -- each known key takes its own branch of the chain of tests
  rcases known with rfl | rfl | rfl | rfl
  · rw [if_pos (by decide)] at set
    obtain ⟨v, -, rfl⟩ := map_eq_ok.mp set
    simp [AgreesOutside]
  · rw [if_neg (by decide), if_pos (by decide)] at set
    obtain ⟨v, -, rfl⟩ := map_eq_ok.mp set
    simp [AgreesOutside]
  · rw [if_neg (by decide), if_neg (by decide), if_pos (by decide)] at set
    obtain ⟨v, -, rfl⟩ := map_eq_ok.mp set
    simp [AgreesOutside]
  · rw [if_neg (by decide), if_neg (by decide), if_neg (by decide)] at set
    obtain ⟨v, -, rfl⟩ := map_eq_ok.mp set
    simp [AgreesOutside]

/-- Reading a mapping's entries onto settings sets only the fields the keys name. -/
theorem readEntries_agrees :
    ∀ {entries : Entries} {c c' : Config} {seen : List String},
      readEntries entries c seen = .ok c' → c'.AgreesOutside c entries.names
  | .close, c, c', seen, read => by
    simp only [readEntries, Except.ok.injEq] at read
    subst read
    exact AgreesOutside.refl c _
  | .broken f, _, _, _, read => by cases read
  | .cons key aliased value rest, c, c', seen, read => by
    cases key with
    | scalar text style tag mark =>
      simp only [readEntries, pure_bind] at read
      -- a known key met for the first time: its field is set, then the rest is read
      split at read
      · cases read
      split at read
      · cases read
      rename_i known _
      obtain ⟨c₁, set, later⟩ := bind_eq_ok.mp read
      have known : text ∈ fieldNames := by simpa using known
      exact (setField_agrees known set).trans (readEntries_agrees later)
    | _ => cases read

/-- Reading a mapping's entries fails when one of its keys names no field. -/
theorem readEntries_unknown {name : String} (unknown : name ∉ fieldNames) :
    ∀ {entries : Entries} (c : Config) (seen : List String), name ∈ entries.names →
      ∃ e, readEntries entries c seen = .error e
  | .close, _, _, mem => by simp [Entries.names] at mem
  | .broken _, _, _, _ => ⟨_, rfl⟩
  | .cons key aliased value rest, c, seen, mem => by
    cases key with
    | scalar text style tag mark =>
      simp only [readEntries, pure_bind]
      split
      · exact ⟨_, rfl⟩
      split
      · exact ⟨_, rfl⟩
      rename_i known _
      -- this key is known, so the unknown name is a later one
      have later : name ∈ rest.names := by
        rcases List.mem_cons.mp mem with rfl | later
        · exact absurd (by simpa using known) unknown
        · exact later
      rcases set : c.setField text (if aliased then "?" else text) value with e | c₁
      · exact ⟨e, rfl⟩
      · obtain ⟨e, failed⟩ := readEntries_unknown unknown c₁ (text :: seen) later
        exact ⟨e, failed⟩
    | _ => exact ⟨_, rfl⟩

theorem ofYaml_blank {y : String} (blank : (Text.trim y).isEmpty = true) : ofYaml y = .ok {} := by
  rw [ofYaml, if_pos blank]

/-- A text that is not blank is read through its document's root. -/
theorem ofNode_of_ofYaml {y : String} {c : Config} (filled : (Text.trim y).isEmpty = false)
    (read : ofYaml y = .ok c) : ofNode (Document.read y).root = .ok c := by
  rw [ofYaml, if_neg (by simp [filled])] at read
  dsimp only at read
  split at read
  · cases read
  rename_i c₁ node
  split at read
  · cases read
  split at read
  · cases read
  · cases read
    exact node

/-- The settings a text gives are the defaults but for the fields its keys name. -/
theorem ofYaml_agrees {y : String} {c : Config} (read : ofYaml y = .ok c) :
    c.AgreesOutside {} (keysOf y) := by
  by_cases blank : (Text.trim y).isEmpty = true
  · rw [ofYaml_blank blank] at read
    cases read
    exact AgreesOutside.refl _ _
  have node := ofNode_of_ofYaml (by simpa using blank) read
  unfold keysOf
  rw [if_neg blank]
  generalize (Document.read y).root = root at node ⊢
  cases root with
  | mapping mark entries =>
    rcases entriesRead : readEntries entries {} [] with e | c₁
    · simp [ofNode, entriesRead, Except.mapError] at node
    · simp only [ofNode, entriesRead, Except.mapError, Except.ok.injEq] at node
      subst node
      exact readEntries_agrees entriesRead
  | void mark =>
    cases node
    exact AgreesOutside.refl _ _
  | scalar text style tag mark =>
    simp only [ofNode] at node
    split at node
    · cases node
      exact AgreesOutside.refl _ _
    · cases node
  | sequence mark items => cases node
  | broken f => cases node

/-- A text one of whose keys names no field is refused. -/
theorem ofYaml_unknown {y name : String} (mem : name ∈ keysOf y) (unknown : name ∉ fieldNames) :
    ∃ p, ofYaml y = .error p := by
  unfold keysOf at mem
  split at mem
  · simp at mem
  rename_i filled
  rcases read : ofYaml y with p | c
  · exact ⟨p, rfl⟩
  have node := ofNode_of_ofYaml (by simpa using filled) read
  generalize (Document.read y).root = root at node mem
  cases root with
  | mapping mark entries =>
    obtain ⟨e, failed⟩ := readEntries_unknown unknown {} [] mem
    simp [ofNode, failed, Except.mapError] at node
  | _ => simp at mem

/-! ## The environment -/

/-- The database the environment gives over `fallback`: the database variable when it is set and
not empty, as it is written. -/
def layeredDatabase (env : String → Option String) (fallback : String) : String :=
  match env databaseVariable with
  | some db => if db = "" then fallback else db
  | none => fallback

/-- The threshold the environment gives over `fallback`: the threshold variable when it is set
and not empty, trimmed and read as a 64-bit integer, and none when it does not read. -/
def layeredThreshold (env : String → Option String) (fallback : Int) : Option Int :=
  match env thresholdVariable with
  | some raw => if raw = "" then some fallback else parseI64? (Text.trim raw)
  | none => some fallback

/-- The environment over settings `c`: the layered database, and the layered threshold unless
the threshold variable does not read, which is refused. -/
theorem withEnv_eq (c : Config) (env : String → Option String) :
    c.withEnv env =
      match layeredThreshold env c.idThreshold with
      | some th => .ok { c with database := layeredDatabase env c.database, idThreshold := th }
      | none => .error (.config (thresholdVariable ++ " must be an integer, got '" ++
          (env thresholdVariable).getD "" ++ "'")) := by
  unfold withEnv layeredThreshold layeredDatabase
  -- each variable either absent, empty, or given; a given threshold reads or not
  rcases env databaseVariable with _ | db <;> rcases env thresholdVariable with _ | raw <;>
    simp only [String.isEmpty_iff]
  · rfl
  · split_ifs
    · rfl
    · rcases parseI64? (Text.trim raw) with _ | n <;> rfl
  · split_ifs <;> rfl
  · split_ifs <;> (try rcases parseI64? (Text.trim raw) with _ | n) <;> rfl

theorem withEnv_eq_ok {c c' : Config} {env : String → Option String} :
    c.withEnv env = .ok c' ↔ ∃ th, layeredThreshold env c.idThreshold = some th ∧
      c' = { c with database := layeredDatabase env c.database, idThreshold := th } := by
  rw [withEnv_eq]
  rcases layeredThreshold env c.idThreshold with _ | th <;> simp [eq_comm]

/-- The environment refuses only a threshold that does not read, as a configuration error. -/
theorem code_of_withEnv_eq_error {c : Config} {env : String → Option String} {e : MigrationError}
    (refused : c.withEnv env = .error e) : e.code = "invalid_config" := by
  rw [withEnv_eq] at refused
  rcases layered : layeredThreshold env c.idThreshold with _ | th <;> rw [layered] at refused <;>
    cases refused
  rfl

/-! ## The checks -/

theorem validate_eq_ok {c : Config} : c.validate = .ok () ↔ 1 < c.idThreshold ∧ c.database ≠ "" := by
  unfold validate
  split_ifs with low empty
  · simp only [false_iff, not_and]
    omega
  · simp [String.isEmpty_iff.mp empty]
  · simp only [String.isEmpty_iff] at empty
    simp only [true_iff]
    exact ⟨by omega, empty⟩

theorem code_of_validate_eq_error {c : Config} {e : MigrationError} (refused : c.validate = .error e) :
    e.code = "invalid_config" := by
  unfold validate at refused
  split_ifs at refused <;> cases refused <;> rfl

/-! ## The layers together -/

/-- Settings a text gives, under the environment and the checks. -/
theorem resolve_some {y : String} {cy : Config} (read : ofYaml y = .ok cy)
    (env : String → Option String) :
    resolve (some y) env = cy.withEnv env >>= fun c => c.validate >>= fun _ => pure c := by
  simp only [resolve, read]
  rfl

theorem resolve_some_eq_ok {y : String} {cy c : Config} {env : String → Option String}
    (read : ofYaml y = .ok cy) :
    resolve (some y) env = .ok c ↔
      ∃ th, layeredThreshold env cy.idThreshold = some th ∧ 1 < th ∧
        layeredDatabase env cy.database ≠ "" ∧
        c = { cy with database := layeredDatabase env cy.database, idThreshold := th } := by
  rw [resolve_some read, bind_eq_ok]
  simp only [withEnv_eq_ok, bind_eq_ok]
  constructor
  · rintro ⟨_, ⟨th, layered, rfl⟩, ⟨⟩, checked, returned⟩
    obtain ⟨above, named⟩ := validate_eq_ok.mp checked
    exact ⟨th, layered, above, named, (Except.ok.inj returned).symm⟩
  · rintro ⟨th, layered, above, named, rfl⟩
    exact ⟨_, ⟨th, layered, rfl⟩, (), validate_eq_ok.mpr ⟨above, named⟩, rfl⟩

/-- Once a text is read, every refusal of the settings is a configuration error. -/
theorem code_of_resolve_some_eq_error {y : String} {cy : Config} {env : String → Option String}
    {e : MigrationError} (read : ofYaml y = .ok cy) (refused : resolve (some y) env = .error e) :
    e.code = "invalid_config" := by
  rw [resolve_some read] at refused
  rcases layered : cy.withEnv env with e' | c
  · rw [layered] at refused
    cases refused
    exact code_of_withEnv_eq_error layered
  · rw [layered, ok_bind] at refused
    rcases checked : c.validate with e' | ⟨⟩ <;> rw [checked] at refused <;> cases refused
    exact code_of_validate_eq_error checked

/-- A text that cannot be read refuses the settings as a YAML error. -/
theorem resolve_some_of_ofYaml_error {y : String} {p : Problem} (env : String → Option String)
    (refused : ofYaml y = .error p) : resolve (some y) env = .error (.yaml p.message) := by
  simp only [resolve, refused]
  rfl

theorem resolve_none (env : String → Option String) :
    resolve none env = ({} : Config).withEnv env >>= fun c => c.validate >>= fun _ => pure c :=
  rfl

/-- Accepted settings pass the checks. -/
theorem validate_of_resolve {yaml : Option String} {env : String → Option String} {c : Config}
    (accepted : resolve yaml env = .ok c) : c.validate = .ok () := by
  -- settings over the environment are accepted only through the checks
  have checkedLast : ∀ {base : Config}, (base.withEnv env >>= fun c => c.validate >>= fun _ =>
      pure c) = .ok c → c.validate = .ok () := by
    intro base layered
    obtain ⟨c₁, -, layered⟩ := bind_eq_ok.mp layered
    obtain ⟨⟨⟩, checked, returned⟩ := bind_eq_ok.mp layered
    cases returned
    exact checked
  rcases yaml with _ | y
  · exact checkedLast (resolve_none env ▸ accepted)
  rcases read : ofYaml y with p | cy
  · rw [resolve_some_of_ofYaml_error env read] at accepted
    cases accepted
  · exact checkedLast (resolve_some read env ▸ accepted)

/-- A run's settings: the accepted settings with the command line's database over them, checked
once more. -/
theorem forRun_eq_ok {yaml : Option String} {env : String → Option String} {d : Option String}
    {c' : Config} :
    forRun yaml env d = .ok c' ↔
      ∃ c, resolve yaml env = .ok c ∧ c' = (d.map fun db => { c with database := db }).getD c ∧
        c'.validate = .ok () := by
  -- the command line's database, when given, replaces the accepted one
  have overridden : forRun yaml env d = resolve yaml env >>= fun c =>
      (((d.map fun db => { c with database := db }).getD c).validate >>= fun _ =>
        pure ((d.map fun db => { c with database := db }).getD c)) := by
    cases d <;> rfl
  rw [overridden, bind_eq_ok]
  simp only [bind_eq_ok]
  constructor
  · rintro ⟨c, accepted, ⟨⟩, checked, returned⟩
    cases returned
    exact ⟨c, accepted, rfl, checked⟩
  · rintro ⟨c, accepted, rfl, checked⟩
    exact ⟨c, accepted, (), checked, rfl⟩

/-- Settings refused before the command line is read stay refused, whatever database it names. -/
theorem forRun_of_resolve_error {yaml : Option String} {env : String → Option String}
    {e : MigrationError} (refused : resolve yaml env = .error e) (d : Option String) :
    forRun yaml env d = .error e := by
  unfold forRun
  rw [refused]
  rfl

/-- The command line's database cannot stand in for an empty one: a text whose database, under the
environment, is empty is refused as a configuration error before the command line's database is
put over it, whatever that names. -/
theorem forRun_of_empty_database {y : String} {cy : Config} {env : String → Option String}
    (read : ofYaml y = .ok cy) (empty : layeredDatabase env cy.database = "") (d : Option String) :
    ∃ e, forRun (some y) env d = .error e ∧ e.code = "invalid_config" := by
  rcases resolved : resolve (some y) env with e | c
  · exact ⟨e, forRun_of_resolve_error resolved d, code_of_resolve_some_eq_error read resolved⟩
  · -- accepted settings have a database that is not empty
    obtain ⟨-, -, -, named, -⟩ := (resolve_some_eq_ok read).mp resolved
    exact absurd empty named

/-- A threshold variable that is set and not empty but blank or no integer gives no threshold. -/
theorem layeredThreshold_eq_none {env : String → Option String} {raw : String} (t : Int)
    (given : env thresholdVariable = some raw) (filled : raw ≠ "")
    (unread : (Text.trim raw).isEmpty = true ∨ parseI64? (Text.trim raw) = none) :
    layeredThreshold env t = none := by
  have noInteger : parseI64? (Text.trim raw) = none :=
    unread.elim (fun blank => by rw [String.isEmpty_iff.mp blank]; rfl) id
  simp [layeredThreshold, given, filled, noInteger]

end Config

/-- A computation whose value, as an option, is `a` succeeded with `a`. -/
theorem Except.eq_ok_of_toOption_eq_some {ε α : Type} {x : Except ε α} {a : α}
    (h : x.toOption = some a) : x = .ok a := by
  cases x <;> simp_all [Except.toOption]

open Config in
/-- For every YAML text `y`, environment and database on the command line: a text of blanks
only gives the defaults, and a text with a key that names no setting is refused as a YAML error.
A text that is read sets the fields it names and leaves the others at their defaults. The
environment's database, when set and not empty, and its threshold, when set and not empty,
trimmed and read as a 64-bit integer, go over the text's; the settings are then accepted exactly
when the threshold is above 1 and the database is not empty, and every refusal is a
configuration error, among them a threshold variable that is blank or no integer. A run puts the
command line's database over the accepted settings and checks them again, so it goes ahead only
when the settings pass the checks both before and after. -/
theorem settings_layer_environment_over_text_over_defaults (y : String)
    (env : String → Option String) (d : Option String) :
    ((Text.trim y).isEmpty = true → ofYaml y = .ok {}) ∧
    (∀ name ∈ keysOf y, name ∉ fieldNames →
      ∃ e, resolve (some y) env = .error e ∧ e.code = "yaml_error") ∧
    (∀ cy, ofYaml y = .ok cy →
      cy.AgreesOutside {} (keysOf y) ∧
      (∀ c, resolve (some y) env = .ok c ↔
        ∃ th, layeredThreshold env cy.idThreshold = some th ∧ 1 < th ∧
          layeredDatabase env cy.database ≠ "" ∧
          c = { cy with database := layeredDatabase env cy.database, idThreshold := th }) ∧
      (∀ e, resolve (some y) env = .error e → e.code = "invalid_config") ∧
      (∀ raw, env thresholdVariable = some raw → raw ≠ "" →
        (Text.trim raw).isEmpty = true ∨ parseI64? (Text.trim raw) = none →
        ∃ e, resolve (some y) env = .error e ∧ e.code = "invalid_config")) ∧
    (∀ c', forRun (some y) env d = .ok c' ↔
      ∃ c, resolve (some y) env = .ok c ∧ c.validate = .ok () ∧
        c' = (d.map fun db => { c with database := db }).getD c ∧ c'.validate = .ok ()) := by
  refine ⟨ofYaml_blank, fun name mem unknown => ?_, fun cy read => ⟨ofYaml_agrees read,
    fun _ => resolve_some_eq_ok read, fun _ => code_of_resolve_some_eq_error read,
    fun raw given filled unread => ?_⟩, fun c' => ?_⟩
  · obtain ⟨p, refused⟩ := ofYaml_unknown mem unknown
    exact ⟨_, resolve_some_of_ofYaml_error env refused, rfl⟩
  · -- no threshold is given, so the settings cannot be accepted
    rcases resolved : resolve (some y) env with e | c
    · exact ⟨e, rfl, code_of_resolve_some_eq_error read resolved⟩
    · obtain ⟨th, layered, -⟩ := (resolve_some_eq_ok read).mp resolved
      rw [layeredThreshold_eq_none _ given filled unread] at layered
      cases layered
  · rw [forRun_eq_ok]
    constructor
    · rintro ⟨c, accepted, rfl, checked⟩
      exact ⟨c, accepted, validate_of_resolve accepted, rfl, checked⟩
    · rintro ⟨c, accepted, -, rfl, checked⟩
      exact ⟨c, accepted, rfl, checked⟩

open Config in
/-- Blanks give the defaults; a misspelt key is refused; the environment's database and trimmed
threshold go over a text's threshold; and a database on the command line cannot stand in for an
empty one from the text. -/
theorem settings_layered_over_sample_texts :
    ofYaml "  \n" = .ok {} ∧
      (∃ e, resolve (some "databse: x.db\n") (fun _ => none) = .error e ∧ e.code = "yaml_error") ∧
      resolve (some "id_threshold: 100\n")
          (fun k => if k = databaseVariable then some "env.db"
            else if k = thresholdVariable then some " 500 " else none) =
        .ok { database := "env.db", idThreshold := 500 } ∧
      ∀ c, forRun (some "database: \"\"\n") (fun _ => none) (some "other.db") ≠ .ok c := by
  have blank := (settings_layer_environment_over_text_over_defaults "  \n" (fun _ => none) none).1
  have misspelt := (settings_layer_environment_over_text_over_defaults "databse: x.db\n"
    (fun _ => none) none).2.1 "databse" (by decide +kernel) (by decide)
  have thresholdText : ofYaml "id_threshold: 100\n" = .ok { idThreshold := 100 } :=
    Except.eq_ok_of_toOption_eq_some (by decide +kernel)
  have layered := ((settings_layer_environment_over_text_over_defaults "id_threshold: 100\n"
    (fun k => if k = databaseVariable then some "env.db"
      else if k = thresholdVariable then some " 500 " else none) none).2.2.1 _ thresholdText).2.1
  have emptyText : ofYaml "database: \"\"\n" = .ok { database := "" } :=
    Except.eq_ok_of_toOption_eq_some (by decide +kernel)
  have run := settings_layer_environment_over_text_over_defaults "database: \"\"\n"
    (fun _ => none) (some "other.db")
  refine ⟨blank (by decide), misspelt, (layered _).mpr ⟨500, by decide +kernel, by decide,
    by decide, rfl⟩, fun c ran => ?_⟩
  obtain ⟨c₁, accepted, -⟩ := (run.2.2.2 c).mp ran
  obtain ⟨th, -, -, named, -⟩ := (run.2.2.1 _ emptyText).2.1 c₁ |>.mp accepted
  exact named rfl

end ContactMigration.Settings
