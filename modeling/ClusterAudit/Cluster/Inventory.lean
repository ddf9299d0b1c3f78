-- SUMMARY: A cluster that is held in memory.
import ClusterAudit.Query

/-!
# Inventories

An inventory is a cluster written down: its objects, and the queries that fail
in it. It answers as a control plane would, without one.
-/

namespace ClusterAudit

/-! ## Selectors -/

/-- One term of a selector: a label that is there, or that has a value. -/
structure SelectorTerm where
  key : String
  value : Option String
deriving DecidableEq, Repr

def SelectorTerm.ofChars (cs : List Char) : SelectorTerm :=
  let key := cs.takeWhile (· != '=')
  ⟨String.ofList key,
    if cs.contains '=' then some (String.ofList (cs.drop (key.length + 1))) else none⟩

/-- Whether an object with these metadata is picked. -/
def SelectorTerm.picks (term : SelectorTerm) (m : Metadata) : Bool :=
  match m.label? term.key, term.value with
  | none, _ => false
  | some _, none => true
  | some found, some value => found == value

def commaParts (cs : List Char) : List (List Char) :=
  cs.foldr
    (fun c parts =>
      if c = ',' then [] :: parts
      else
        match parts with
        | part :: rest => (c :: part) :: rest
        | [] => [[c]])
    [[]]

/-- Whether every term of a selector picks an object. -/
def selects (selector : String) (m : Metadata) : Bool :=
  (commaParts selector.toList).all fun part => (SelectorTerm.ofChars part).picks m

/-! ## Inventories -/

/-- A cluster written down. -/
structure Inventory where
  version : Except QueryFault ServerVersion := .ok {}
  nodes : Except QueryFault (List Node) := .ok []
  /-- The names of the namespaces. -/
  namespaces : List String := []
  /-- The namespaces that cannot be looked up. -/
  namespaceFaults : List (String × QueryFault) := []
  pods : Except QueryFault (List Pod) := .ok []
  /-- The namespaces whose pods cannot be listed; `*` stands for all namespaces. -/
  podFaults : List (String × QueryFault) := []
  definitions : Except QueryFault (List Named) := .ok []
  customObjects : Except QueryFault (List CustomObject) := .ok []
  drivers : Except QueryFault (List Named) := .ok []
  storageClasses : Except QueryFault (List StorageClass) := .ok []
  secrets : Except QueryFault (List Secret) := .ok []

namespace Inventory

/-- The fault that is written down under a name. -/
def fault? (faults : List (String × QueryFault)) (name : String) : Option QueryFault :=
  (faults.find? (·.1 == name)).map (·.2)

/-- Whether a pod belongs to a namespace and is picked by a selector, as far as they are given. -/
def picksPod (ns selector : Option String) (p : Pod) : Bool :=
  (match ns with
    | some ns => p.metadata.ns == some ns
    | none => true)
    && match selector with
      | some selector => selects selector p.metadata
      | none => true

/-- The pods of a namespace that a selector picks. -/
def podsIn (inventory : Inventory) (ns selector : Option String) : Except QueryFault (List Pod) :=
  match fault? inventory.podFaults (ns.getD "*") with
  | some fault => .error fault
  | none => inventory.pods.map (·.filter (picksPod ns selector))

def namespaceNamed (inventory : Inventory) (name : String) : Except QueryFault (Option Named) :=
  match fault? inventory.namespaceFaults name with
  | some fault => .error fault
  | none => .ok (if inventory.namespaces.contains name then some {} else none)

def secretNamed (inventory : Inventory) (ns name : String) : Except QueryFault (Option Secret) :=
  inventory.secrets.map
    (·.find? fun s => s.metadata.ns == some ns && s.metadata.name == some name)

/-- The cluster that is written down. -/
def cluster (inventory : Inventory) : Cluster
  | .version => inventory.version
  | .nodes => inventory.nodes
  | .namespaceNamed name => inventory.namespaceNamed name
  | .pods ns selector => inventory.podsIn ns selector
  | .definitions => inventory.definitions
  | .customObjects _ => inventory.customObjects
  | .drivers => inventory.drivers
  | .storageClasses => inventory.storageClasses
  | .secret ns name => inventory.secretNamed ns name

end Inventory

end ClusterAudit
