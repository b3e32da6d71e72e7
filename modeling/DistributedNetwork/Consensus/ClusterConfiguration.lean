import DistributedNetwork.Consensus.Storage
import DistributedNetwork.Library.Json

/-!
# The cluster configuration as JSON

The serializer appends every server id to a member of an object; the deserializer asks for that member through
`JsonExtractHelper`, which takes objects only.

* `JsonCpp` — writer and reader of the JSON library, as parameters;
* `serialize_eq` — the value that is written: `null` without servers, else an object with one array;
* `roundTrip_iff` — the servers come back **exactly** when there are none.
-/

namespace DistributedNetwork.Consensus

open DistributedNetwork.Library

/-! ### The JSON library -/

/-- `Json::FastWriter` and `Json::Reader`. -/
structure JsonCpp where
  write : JsonValue → Bytes
  parse : Bytes → Option JsonValue

/-- The reader inverts the writer. -/
def JsonCpp.Lawful (json : JsonCpp) : Prop :=
  ∀ value : JsonValue, value.Ordered → json.parse (json.write value) = some value

inductive ValueType where
  | nullValue
  | stringValue
  | arrayValue
  | objectValue
  deriving DecidableEq

namespace JsonMethods

/-! The methods of `Json::Value`; one that throws is `none`. -/

def type : JsonValue → ValueType
  | .null => .nullValue
  | .string _ => .stringValue
  | .array _ => .arrayValue
  | .object _ => .objectValue

/-- A value that was null becomes an array. -/
def append (array value : JsonValue) : Option JsonValue :=
  match array with
  | .null => some (.array [value])
  | .array values => some (.array (values ++ [value]))
  | .string _ | .object _ => none

/-- `members[key].append(value)`: a member that is missing is created, in its place. -/
def appendToMembers (key : Bytes) (value : JsonValue) :
    List (Bytes × JsonValue) → Option (List (Bytes × JsonValue))
  | [] => some [(key, .array [value])]
  | (other, array) :: members =>
    if other = key then (append array value).map fun array => (other, array) :: members
    else if key < other then some ((key, .array [value]) :: (other, array) :: members)
    else (appendToMembers key value members).map fun members => (other, array) :: members

/-- `root[key].append(value)`. -/
def appendTo (root : JsonValue) (key : Bytes) (value : JsonValue) : Option JsonValue :=
  match root with
  | .null => (appendToMembers key value []).map .object
  | .object members => (appendToMembers key value members).map .object
  | .string _ | .array _ => none

/-- The member under a key: `isMember` asks whether there is one. -/
def find (root : JsonValue) (key : Bytes) : Option (Option JsonValue) :=
  match root with
  | .null => some none
  | .object members => some ((members.find? fun member => member.1 = key).map Prod.snd)
  | .string _ | .array _ => none

/-- What is between `begin()` and `end()`. -/
def elements : JsonValue → List JsonValue
  | .null | .string _ => []
  | .array values => values
  | .object members => members.map Prod.snd

def asString : JsonValue → Option Bytes
  | .null => some []
  | .string text => some text
  | .array _ | .object _ => none

end JsonMethods

open JsonMethods

/-- The return code of `JsonExtractHelper<Json::Value>::extract`, and the output afterwards. -/
def JsonExtractHelper.extract (root : JsonValue) (key : Bytes) (output : JsonValue) :
    Option (ℤ × JsonValue) :=
  (find root key).map fun member =>
    match member with
    | none => (-1, output)
    | some value => if type value ≠ .objectValue then (-1, output) else (0, value)

/-! ### `ClusterConfigurationSerializer` -/

def clusterServerIdsKey : Bytes :=
  "clusterServerIds".toList.map Char.toUInt8

namespace ClusterConfigurationSerializer

variable (json : JsonCpp)

def serialize (clusterServerIds : List Bytes) : Option Bytes :=
  (clusterServerIds.foldlM (fun root serverId => appendTo root clusterServerIdsKey (.string serverId))
    .null).map json.write

/-- A text that is not read, or has no such member, is a configuration without servers. -/
def deserialize (text : Bytes) : Option (List Bytes) :=
  match json.parse text with
  | none => some []
  | some root =>
    (JsonExtractHelper.extract root clusterServerIdsKey .null).bind fun (ret, clusterServerIdObj) =>
      if ret = -1 then some [] else (elements clusterServerIdObj).mapM asString

/-- The value that is written. -/
def rootOf : List Bytes → JsonValue
  | [] => .null
  | serverId :: clusterServerIds =>
    .object [(clusterServerIdsKey, .array ((serverId :: clusterServerIds).map .string))]

theorem appendTo_rootOf (clusterServerIds : List Bytes) (serverId : Bytes) :
    appendTo (rootOf clusterServerIds) clusterServerIdsKey (.string serverId) =
      some (rootOf (clusterServerIds ++ [serverId])) := by
  cases clusterServerIds with
  | nil => rfl
  | cons first clusterServerIds =>
    simp [rootOf, appendTo, appendToMembers, append]

theorem foldlM_rootOf (done clusterServerIds : List Bytes) :
    clusterServerIds.foldlM (fun root serverId => appendTo root clusterServerIdsKey (.string serverId))
      (rootOf done) = some (rootOf (done ++ clusterServerIds)) := by
  induction clusterServerIds generalizing done with
  | nil =>
    rw [List.append_nil]
    rfl
  | cons serverId clusterServerIds ih =>
    rw [List.foldlM_cons, appendTo_rootOf]
    exact (ih (done ++ [serverId])).trans (by rw [List.append_assoc]; rfl)

/-- **What is written.** -/
theorem serialize_eq (clusterServerIds : List Bytes) :
    serialize json clusterServerIds = some (json.write (rootOf clusterServerIds)) := by
  rw [serialize]
  exact congrArg (Option.map json.write) (foldlM_rootOf [] clusterServerIds)

theorem ordered_rootOf (clusterServerIds : List Bytes) : (rootOf clusterServerIds).Ordered := by
  cases clusterServerIds with
  | nil => exact .null
  | cons serverId clusterServerIds =>
    refine .object _ (List.pairwise_singleton _ _) ?_
    intro member hmember
    rw [List.mem_singleton.mp hmember]
    refine .array _ fun value hvalue => ?_
    obtain ⟨text, -, rfl⟩ := List.mem_map.mp hvalue
    exact .string text

/-- **What is extracted**: no value is an object. -/
theorem extract_rootOf (clusterServerIds : List Bytes) :
    JsonExtractHelper.extract (rootOf clusterServerIds) clusterServerIdsKey .null = some (-1, .null) := by
  cases clusterServerIds with
  | nil => rfl
  | cons serverId clusterServerIds =>
    have hfind : find (rootOf (serverId :: clusterServerIds)) clusterServerIdsKey =
        some (some (.array ((serverId :: clusterServerIds).map .string))) := by
      simp [find, rootOf]
    rw [JsonExtractHelper.extract, hfind]
    rfl

variable {json}

/-- **Every configuration is lost.** -/
theorem deserialize_serialize (hjson : json.Lawful) (clusterServerIds : List Bytes) :
    (serialize json clusterServerIds).bind (deserialize json) = some [] := by
  rw [serialize_eq, Option.bind_some, deserialize, hjson _ (ordered_rootOf clusterServerIds)]
  simp only [extract_rootOf, Option.bind_some, if_true]

/-- **Round trip of a configuration.**  The server ids come back **if and only if** there are none. -/
theorem roundTrip_iff (json : JsonCpp) (hjson : json.Lawful) (clusterServerIds : List Bytes) :
    (serialize json clusterServerIds).bind (deserialize json) = some clusterServerIds ↔
      clusterServerIds = [] := by
  rw [deserialize_serialize hjson, Option.some.injEq]
  exact eq_comm

/-- The compact writer, which puts a line feed behind the value, and its reader. -/
def compactJson : JsonCpp where
  write := Json.write
  parse := Json.parse

theorem compactJson_lawful : compactJson.Lawful :=
  fun value _ => Json.parse_write value

theorem roundTrip_iff_none : (serialize compactJson []).bind (deserialize compactJson) = some [] :=
  (roundTrip_iff compactJson compactJson_lawful []).mpr rfl

/-- **The single server `A` is lost**, although it is in the text. -/
theorem roundTrip_single :
    serialize compactJson [[65]] = some ("\x7b\"clusterServerIds\":[\"A\"]\x7d\n".toList.map Char.toUInt8) ∧
      (serialize compactJson [[65]]).bind (deserialize compactJson) = some [] ∧
      (serialize compactJson [[65]]).bind (deserialize compactJson) ≠ some [[65]] := by
  have hlost := deserialize_serialize compactJson_lawful [[65]]
  refine ⟨?_, hlost, ?_⟩
  · rw [serialize_eq]
    decide
  · rw [hlost]
    decide

end ClusterConfigurationSerializer

end DistributedNetwork.Consensus
