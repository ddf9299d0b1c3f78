-- SUMMARY: Kubernetes objects out of JSON.
import ClusterAudit.Resource.Schema
import ClusterAudit.Resource.Object

/-!
# Decoding objects

An object is first checked against its shape and then taken apart. Taking apart
never fails: what is missing or null is left out or empty.
-/

namespace ClusterAudit.Resource

open ClusterAudit.Json

/-! ## Taking apart -/

def text? (value : Json) (name : String) : Option String :=
  match value.member? name with
  | some (.string s) => some s
  | _ => none

/-- The text of a member, empty if there is none. -/
def textOf (value : Json) (name : String) : String := (text? value name).getD ""

/-- The integer of a member, zero if there is none. -/
def integerOf (value : Json) (name : String) : Int :=
  match value.member? name with
  | some (.number n) => n.integer?.getD 0
  | _ => 0

def itemsOf (value : Json) (name : String) : List Json :=
  match value.member? name with
  | some (.array items) => items
  | _ => []

def object? (value : Json) (name : String) : Option Json :=
  match value.member? name with
  | some (.object members) => some (.object members)
  | _ => none

/-- The members of a member that have a text. -/
def textsOf (value : Json) (name : String) : List (String × String) :=
  match value.member? name with
  | some (.object members) =>
    members.filterMap fun
      | (key, .string s) => some (key, s)
      | _ => none
  | _ => []

/-- What an object tells about itself. -/
def metadata (value : Json) : Metadata :=
  match object? value "metadata" with
  | some m =>
    { name := text? m "name", ns := text? m "namespace", labels := textsOf m "labels"
      annotations := textsOf m "annotations" }
  | none => {}

/-! ## Objects -/

def containerState (value : Json) : ContainerState :=
  { waiting := (object? value "waiting").map fun w => ⟨text? w "reason"⟩
    terminated := (object? value "terminated").map fun t =>
      ⟨integerOf t "exitCode", text? t "reason"⟩ }

def containerStatus (value : Json) : ContainerStatus := ⟨(object? value "state").map containerState⟩

def podStatus (value : Json) : PodStatus :=
  { phase := text? value "phase"
    reason := text? value "reason"
    initContainers := (itemsOf value "initContainerStatuses").map containerStatus
    containers := (itemsOf value "containerStatuses").map containerStatus }

def pod (value : Json) : Pod := ⟨metadata value, (object? value "status").map podStatus⟩

def nodeCondition (value : Json) : NodeCondition := ⟨textOf value "type", textOf value "status"⟩

def nodeInfo (value : Json) : NodeInfo :=
  ⟨textOf value "kubeletVersion", textOf value "osImage", textOf value "kernelVersion"⟩

def nodeStatus (value : Json) : NodeStatus :=
  ⟨(itemsOf value "conditions").map nodeCondition, (object? value "nodeInfo").map nodeInfo⟩

def node (value : Json) : Node := ⟨metadata value, (object? value "status").map nodeStatus⟩

/-- An object of which only the name matters. -/
def named (value : Json) : Named := ⟨metadata value⟩

def storageClass (value : Json) : StorageClass := ⟨metadata value, textOf value "provisioner"⟩

def secretEntry : String × Json → String × Utf8.Bytes
  | (key, .string s) => (key, ((decodeBytes s).toOption).getD [])
  | (key, _) => (key, [])

/-- A secret, its entries out of their encoding. -/
def secret (value : Json) : Secret :=
  match value.member? "data" with
  | some (.object members) => ⟨metadata value, members.map secretEntry⟩
  | _ => ⟨metadata value, []⟩

/-- An object of a kind that the cluster defines itself. -/
def custom (value : Json) : CustomObject := ⟨metadata value, value.member? "status"⟩

def serverVersion (value : Json) : ServerVersion :=
  ⟨textOf value "gitVersion", textOf value "platform", textOf value "major", textOf value "minor"⟩

/-! ## Documents -/

/-- A kind of document: its shape, and what is made of a value of that shape. -/
structure Document (α : Type) where
  shape : Shape
  take : Json → α

namespace Document

def pod : Document Pod := ⟨.resource "Pod", Resource.pod⟩
def node : Document Node := ⟨.resource "Node", Resource.node⟩
def namespaceObject : Document Named := ⟨.resource "Namespace", named⟩
def definition : Document Named := ⟨.resource "CustomResourceDefinition", named⟩
def driver : Document Named := ⟨.resource "CSIDriver", named⟩
def storageClass : Document StorageClass := ⟨.resource "StorageClass", Resource.storageClass⟩
def secret : Document Secret := ⟨.resource "Secret", Resource.secret⟩
def custom : Document CustomObject := ⟨customObject, Resource.custom⟩
def version : Document ServerVersion := ⟨.resource "Info", serverVersion⟩

def list {α : Type} (document : Document α) : Document (List α) :=
  ⟨listOf document.shape, fun value => (itemsOf value "items").map document.take⟩

def read {α : Type} (document : Document α) (text : List Char) : Except DecodeFault α :=
  (document.shape.parse schema text).map document.take

/-- Takes a document out of a value. -/
def ofJson {α : Type} (document : Document α) (value : Json) : Except DecodeFault α :=
  (document.shape.fit schema value).map document.take

end Document

end ClusterAudit.Resource
