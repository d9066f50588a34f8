import ContactMigration.Yaml.Token

/-!
# YAML nodes

The node tree of one YAML document, each node with the place it starts at. Aliases are
already replaced by the nodes they name.

The tree may be cut short. When reading the document fails, the nodes read before the fault are
kept, and the fault stands where the next node or entry would have been. A reader of the tree
meets the fault only if it goes that far. So a fault in the text never hides an error that
comes earlier in it.
-/

namespace ContactMigration.Yaml

mutual

/-- A node of a YAML document. -/
inductive Node where
  | scalar (text : String) (style : Style) (tag : Option String) (mark : Mark)
  | sequence (mark : Mark) (items : Items)
  | mapping (mark : Mark) (entries : Entries)
  /-- The stream holds no document at all. -/
  | void (mark : Mark)
  /-- Reading stopped here. -/
  | broken (fault : Fault)
  deriving Inhabited

/-- The items of a sequence. -/
inductive Items where
  | close
  | broken (fault : Fault)
  | cons (item : Node) (rest : Items)
  deriving Inhabited

/-- The entries of a mapping. -/
inductive Entries where
  | close
  | broken (fault : Fault)
  /-- An entry; `aliased` says whether the key is written as an alias. -/
  | cons (key : Node) (aliased : Bool) (value : Node) (rest : Entries)
  deriving Inhabited

end

/-- The place a node starts at; a broken node has the place of its fault. -/
def Node.mark : Node → Mark
  | .scalar _ _ _ m => m
  | .sequence m _ => m
  | .mapping m _ => m
  | .void m => m
  | .broken f => f.place

/-- An empty plain scalar at a place, standing for a node the text leaves out. -/
def Node.empty (m : Mark) : Node := .scalar "" .plain none m

/-- The first YAML document of a stream. -/
structure Document where
  root : Node
  /-- A fault after the root but within the document. -/
  trailing : Option Fault := none
  /-- Whether anything but the end of the stream follows the document. -/
  more : Bool := false
  deriving Inhabited

end ContactMigration.Yaml
