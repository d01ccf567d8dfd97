import VersionedApi.Yaml.TokenStream

/-!
# Nodes of a YAML text

The tokens of a text are put together to nodes.  Where the text is at fault the
fault takes the place of the node or of the end of the collection that it cuts
off, so that a reader who stops earlier never meets it.
-/

namespace VersionedApi.Yaml

open VersionedApi.Source

structure Properties where
  tag : Option TagText
  /-- The number under which aliases refer to the node. -/
  anchor : Option Nat
  deriving Repr, DecidableEq, Inhabited

/-- A node, or what is left of it. -/
inductive Node where
  | scalar (properties : Properties) (text : String) (style : ScalarStyle)
  | sequence (properties : Properties) (items : List Node) (ending : Option Fault)
  | mapping (properties : Properties) (entries : List (Node × Node)) (ending : Option Fault)
  /-- The node with that number, wherever it is. -/
  | aliasOf (anchor : Nat)
  | cut (fault : Fault)
  deriving Inhabited

namespace Node

def empty : Node :=
  scalar ⟨none, none⟩ "" .plain

/-- How much of a node there is. -/
structure Extent where
  /-- How many scalars, aliases and starts and ends of collections it consists of. -/
  events : Nat
  isComplete : Bool
  deriving Repr, DecidableEq

def Extent.append (first second : Extent) : Extent :=
  ⟨first.events + second.events, first.isComplete && second.isComplete⟩

/-- The extent of a collection, whose end is reached unless something in it is cut off. -/
def Extent.enclosed (inner : Extent) (ending : Option Fault) : Extent :=
  if inner.isComplete && ending.isNone then ⟨inner.events + 2, true⟩
  else ⟨inner.events + 1, false⟩

mutual

def extent : Node → Extent
  | scalar _ _ _ => ⟨1, true⟩
  | sequence _ items ending => (itemsExtent items).enclosed ending
  | mapping _ entries ending => (entriesExtent entries).enclosed ending
  | aliasOf _ => ⟨1, true⟩
  | cut _ => ⟨0, false⟩

def itemsExtent : List Node → Extent
  | [] => ⟨0, true⟩
  | item :: rest => (extent item).append (itemsExtent rest)

def entriesExtent : List (Node × Node) → Extent
  | [] => ⟨0, true⟩
  | (key, value) :: rest => ((extent key).append (extent value)).append (entriesExtent rest)

end

mutual

/-- The nodes that aliases refer to, in the order of the text. -/
def anchored : Node → List (Nat × Node)
  | node@(scalar properties _ _) => (properties.anchor.map (·, node)).toList
  | node@(sequence properties items _) =>
    (properties.anchor.map (·, node)).toList ++ anchoredItems items
  | node@(mapping properties entries _) =>
    (properties.anchor.map (·, node)).toList ++ anchoredEntries entries
  | aliasOf _ => []
  | cut _ => []

def anchoredItems : List Node → List (Nat × Node)
  | [] => []
  | item :: rest => anchored item ++ anchoredItems rest

def anchoredEntries : List (Node × Node) → List (Nat × Node)
  | [] => []
  | (key, value) :: rest => anchored key ++ anchored value ++ anchoredEntries rest

end

end Node

end VersionedApi.Yaml
