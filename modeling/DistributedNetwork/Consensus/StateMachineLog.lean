import DistributedNetwork.Consensus.Storage
import DistributedNetwork.Library.ProtoWire

/-!
# The state-machine log

* `Entry` — a log entry over its protobuf message, whose generated code and JSON text are parameters;
* `StateMachineLog` — the readers and the one writer of the log;
* `SurvivesRestart` — what is owed after the first configuration is written;
* `not_survivesRestart` — it is owed and never delivered.

`Entry::encode` reserves memory for the bytes and never sets the vector's size, so the stored value is the
type byte alone; `init` decodes the value with its type byte.
-/

namespace DistributedNetwork.Consensus

open DistributedNetwork.Library

/-! ### Entries -/

/-- An `enum class` over `int`: a cast of any other number gives a value without a name. -/
inductive EntryType where
  | Unknown
  | Configuration
  | Data
  | NoOperation
  | unnamed (value : Int32)
  deriving DecidableEq

namespace EntryType

def toInt : EntryType → Int32
  | Unknown => 0
  | Configuration => 1
  | Data => 2
  | NoOperation => 3
  | unnamed value => value

def ofInt (value : Int32) : EntryType :=
  if value = 0 then Unknown
  else if value = 1 then Configuration
  else if value = 2 then Data
  else if value = 3 then NoOperation
  else unnamed value

end EntryType

/-- The message of `entry.proto`. -/
structure RawEntry where
  index : UInt64
  term : UInt64
  type : Int32
  data : Bytes
  deriving DecidableEq

/-- A message no field of which was set. -/
def RawEntry.default : RawEntry where
  index := 0
  term := 0
  type := 0
  data := []

/-- The code generated for the message. -/
structure RawEntryCodec where
  /-- the bytes written for a message; `ByteSizeLong` is their number -/
  SerializeToArray : RawEntry → Bytes
  /-- the message after bytes were parsed into it -/
  ParseFromArray : Bytes → RawEntry

/-- What the generated code promises. -/
structure RawEntryCodec.Lawful (codec : RawEntryCodec) : Prop where
  parse_serialize : ∀ rawEntry, codec.ParseFromArray (codec.SerializeToArray rawEntry) = rawEntry
  serialize_default : codec.SerializeToArray .default = []

/-- Nothing parses to the default message. -/
theorem RawEntryCodec.Lawful.parse_nil {codec : RawEntryCodec} (h : codec.Lawful) :
    codec.ParseFromArray [] = .default := by
  rw [← h.serialize_default, h.parse_serialize]

/-- A `std::vector<char>`: the memory it owns, and how much of it counts. -/
structure CharVector where
  memory : Bytes
  size : ℕ

namespace CharVector

def empty : CharVector where
  memory := []
  size := 0

def reserve (v : CharVector) (capacity : ℕ) : CharVector :=
  { v with memory := v.memory ++ List.replicate (capacity - v.memory.length) 0 }

/-- Bytes written to `data()`, which does not know the size. -/
def writeData (v : CharVector) (bytes : Bytes) : CharVector :=
  { v with memory := bytes ++ v.memory.drop bytes.length }

def contents (v : CharVector) : Bytes :=
  v.memory.take v.size

end CharVector

structure Entry where
  m_rawEntry : RawEntry
  deriving DecidableEq

namespace Entry

def new : Entry where
  m_rawEntry := .default

def setIndex (entry : Entry) (index : UInt64) : Entry :=
  ⟨{ entry.m_rawEntry with index := index }⟩

def setTerm (entry : Entry) (term : UInt64) : Entry :=
  ⟨{ entry.m_rawEntry with term := term }⟩

def setEntryType (entry : Entry) (entryType : EntryType) : Entry :=
  ⟨{ entry.m_rawEntry with type := entryType.toInt }⟩

def setData (entry : Entry) (data : Bytes) : Entry :=
  ⟨{ entry.m_rawEntry with data := data }⟩

def entryType (entry : Entry) : EntryType :=
  .ofInt entry.m_rawEntry.type

def data (entry : Entry) : Bytes :=
  entry.m_rawEntry.data

def encode (codec : RawEntryCodec) (entry : Entry) : Bytes :=
  let bytes := codec.SerializeToArray entry.m_rawEntry
  ((CharVector.empty.reserve bytes.length).writeData bytes).contents

def decode (codec : RawEntryCodec) (data : Bytes) : Entry :=
  ⟨codec.ParseFromArray data⟩

/-- Whatever was serialized is behind the end of the vector. -/
theorem encode_eq_nil (codec : RawEntryCodec) (entry : Entry) : entry.encode codec = [] :=
  rfl

end Entry

/-! ### The log -/

def c_stmclogTableName : String := "__stmc_log__"

def c_stmcLogEndIndexKey : String := "end_index"

structure StateMachineLog where
  m_endIndex : UInt64
  storage : Storage

namespace StateMachineLog

/-- A log opened on a database. -/
def new (storage : Storage) : StateMachineLog where
  m_endIndex := 0
  storage := storage

/-- The end index, cached from the first time it was found. -/
def endIndex (log : StateMachineLog) : UInt64 × StateMachineLog :=
  if log.m_endIndex ≠ 0 then (log.m_endIndex, log)
  else
    match log.storage.get c_stmclogTableName c_stmcLogEndIndexKey with
    | none => (0, log)
    | some endIndexValue =>
      let endIndex := convertFromString log.storage.uninitialised endIndexValue
      (endIndex, { log with m_endIndex := endIndex })

/-- `ok` tells whether the database takes the write. -/
def increaseEndIndex (log : StateMachineLog) (ok : Bool) : ℤ × StateMachineLog :=
  match log.storage.set c_stmclogTableName c_stmcLogEndIndexKey
    (convertToString (log.m_endIndex + 1)) ok with
  | (-1, storage) => (-1, { log with storage := storage })
  | (_, storage) => (0, { m_endIndex := log.m_endIndex + 1, storage := storage })

section Codec

variable (codec : RawEntryCodec)

def init (log : StateMachineLog) : ℤ × StateMachineLog :=
  let (endIndex, log) := log.endIndex
  let log := { log with m_endIndex := endIndex }
  if endIndex ≠ 0 then
    let value := (log.storage.get c_stmclogTableName "1").getD []
    let entry := Entry.decode codec value
    if entry.entryType ≠ .Configuration then (-1, log) else (0, log)
  else (0, log)

/-- The first entry: a type byte and the encoded entry.  `serialize` is the JSON text of the server ids. -/
def buildInitialConfigurationLog (serialize : List String → Bytes) (log : StateMachineLog)
    (clusterServerIds : List String) (okEntry okEndIndex : Bool) : ℤ × StateMachineLog :=
  let entry := (((Entry.new.setIndex 0).setEntryType .Configuration).setTerm 0).setData
    (serialize clusterServerIds)
  let data := UInt8.ofNat 1 :: entry.encode codec
  match log.storage.set c_stmclogTableName "1" data okEntry with
  | (-1, storage) => (-1, { log with storage := storage })
  | (_, storage) => { log with storage := storage }.increaseEndIndex okEndIndex

/-- `data[0]` of an empty string is its terminator. -/
def getLogType (log : StateMachineLog) (index : UInt64) : EntryType :=
  match log.storage.get c_stmclogTableName (toString index.toNat) with
  | none => .Unknown
  | some data => .ofInt (data.headD 0).toInt8.toInt32

/-- The bytes behind the type byte. -/
def getLogEntry (log : StateMachineLog) (index : UInt64) : Option Entry :=
  (log.storage.get c_stmclogTableName (toString index.toNat)).map fun data =>
    Entry.decode codec data.tail

end Codec

end StateMachineLog

/-! ### Restarts -/

section Restart

variable (codec : RawEntryCodec)

/-- What is owed after the configuration `data` was written as the first entry. -/
structure SurvivesRestart (log : StateMachineLog) (data : Bytes) : Prop where
  endIndex : log.endIndex.1 = 1
  logType : log.getLogType 1 = .Configuration
  logEntry : ∃ entry, log.getLogEntry codec 1 = some entry ∧ entry.entryType = .Configuration ∧
    entry.data = data
  reopened : ((StateMachineLog.new log.storage).init codec).1 = 0
  reopened_endIndex :
    ((StateMachineLog.new log.storage).init codec).2.endIndex.1 = log.endIndex.1
  reopened_logType :
    ((StateMachineLog.new log.storage).init codec).2.getLogType 1 = log.getLogType 1
  reopened_logEntry :
    ((StateMachineLog.new log.storage).init codec).2.getLogEntry codec 1 = log.getLogEntry codec 1

end Restart

section Build

variable {codec : RawEntryCodec} {serialize : List String → Bytes} {log log' : StateMachineLog}
variable {clusterServerIds : List String} {okEntry okEndIndex : Bool}

theorem increaseEndIndex_success (h : log.increaseEndIndex okEndIndex = (0, log')) :
    log' = ⟨log.m_endIndex + 1, (log.storage.set c_stmclogTableName c_stmcLogEndIndexKey
      (convertToString (log.m_endIndex + 1)) true).2⟩ := by
  cases okEndIndex with
  | false => cases h
  | true =>
    cases h
    rfl

/-- **The writer.**  A successful build stores the type byte, and `1` as the end index. -/
theorem build_success (h : log.buildInitialConfigurationLog codec serialize clusterServerIds okEntry
      okEndIndex = (0, log')) :
    log' = ⟨log.m_endIndex + 1,
      (((log.storage.set c_stmclogTableName "1" [1] true).2.set c_stmclogTableName
        c_stmcLogEndIndexKey (convertToString (log.m_endIndex + 1)) true).2)⟩ := by
  cases okEntry with
  | false => cases h
  | true => exact increaseEndIndex_success h

theorem build_value (h : log.buildInitialConfigurationLog codec serialize clusterServerIds okEntry
      okEndIndex = (0, log')) : log'.storage.get c_stmclogTableName "1" = some [1] := by
  rw [build_success h]
  show ((log.storage.set c_stmclogTableName "1" [1] true).2.set c_stmclogTableName
    c_stmcLogEndIndexKey _ true).2.get c_stmclogTableName "1" = _
  rw [Storage.get_set_of_ne _ _ _ (by decide), Storage.get_set_self]

/-- The entry that is read back is the decoding of nothing. -/
theorem getLogEntry_build (h : log.buildInitialConfigurationLog codec serialize clusterServerIds
      okEntry okEndIndex = (0, log')) :
    log'.getLogEntry codec 1 = some (Entry.decode codec []) := by
  show (log'.storage.get c_stmclogTableName "1").map _ = _
  rw [build_value h]
  rfl

end Build

/-- **The log does not survive.**  Whatever the servers are, the entry read back after a successful build
on an empty database has no type and no data. -/
theorem not_survivesRestart {codec : RawEntryCodec} (hcodec : codec.Lawful)
    {serialize : List String → Bytes} {clusterServerIds : List String} {okEntry okEndIndex : Bool}
    {log : StateMachineLog}
    (hbuild : (StateMachineLog.new .empty).buildInitialConfigurationLog codec serialize
      clusterServerIds okEntry okEndIndex = (0, log)) :
    log.endIndex.1 = 1 ∧ log.getLogType 1 = .Configuration ∧
      log.getLogEntry codec 1 = some .new ∧
      ¬SurvivesRestart codec log (serialize clusterServerIds) := by
  have hentry : log.getLogEntry codec 1 = some .new := by
    rw [getLogEntry_build hbuild, Entry.decode, hcodec.parse_nil]
    rfl
  refine ⟨?_, ?_, hentry, ?_⟩
  · rw [build_success hbuild]
    rfl
  · show (match log.storage.get c_stmclogTableName "1" with | none => _ | some data => _) = _
    rw [build_value hbuild]
    rfl
  · intro h
    obtain ⟨entry, hread, htype, -⟩ := h.logEntry
    rw [hentry, Option.some.injEq] at hread
    subst hread
    exact absurd htype (by decide)

/-! ### The generated code for the entries of a build -/

namespace RawEntry

def fields (rawEntry : RawEntry) : List FieldValue :=
  [.varint rawEntry.index.toNat, .varint rawEntry.term.toNat,
    .varint rawEntry.type.toInt64.toUInt64.toNat, .bytes rawEntry.data]

def ofFields : List FieldValue → RawEntry
  | [.varint index, .varint term, .varint type, .bytes data] =>
    { index := UInt64.ofNat index
      term := UInt64.ofNat term
      type := (UInt64.ofNat type).toInt64.toInt32
      data := data }
  | _ => .default

theorem ofFields_fields (rawEntry : RawEntry) : ofFields rawEntry.fields = rawEntry := by
  show RawEntry.mk _ _ _ _ = rawEntry
  rw [UInt64.ofNat_toNat, UInt64.ofNat_toNat, UInt64.ofNat_toNat, Int64.toInt64_toUInt64,
    Int32.toInt32_toInt64]

end RawEntry

/-- The wire format of the message. -/
def protoCodec : RawEntryCodec where
  SerializeToArray rawEntry := writeFields 1 rawEntry.fields
  ParseFromArray data :=
    ((readFields 1 [.varint, .varint, .varint, .bytes] data).map RawEntry.ofFields).getD .default

theorem protoCodec_lawful : protoCodec.Lawful where
  parse_serialize rawEntry := by
    have hlength : 1 + rawEntry.fields.length ≤ 16 := show 1 + 4 ≤ 16 by decide
    have hread : readFields 1 [.varint, .varint, .varint, .bytes] (writeFields 1 rawEntry.fields) =
        some rawEntry.fields :=
      readFields_writeFields hlength
    show ((readFields 1 _ (writeFields 1 rawEntry.fields)).map RawEntry.ofFields).getD .default = _
    rw [hread]
    exact RawEntry.ofFields_fields rawEntry
  serialize_default := rfl

/-- The text of the single server `A`. -/
def singleServerText : Bytes :=
  "\x7b\"clusterServerIds\":[\"A\"]\x7d\n".toList.map Char.toUInt8

/-- The log of that server after a build. -/
def singleServerLog : ℤ × StateMachineLog :=
  (StateMachineLog.new .empty).buildInitialConfigurationLog protoCodec (fun _ => singleServerText) ["A"]
    true true

theorem not_survivesRestart_single :
    ¬SurvivesRestart protoCodec singleServerLog.2 singleServerText := by
  have hbuild : singleServerLog = (0, singleServerLog.2) := rfl
  exact (not_survivesRestart protoCodec_lawful hbuild).2.2.2

/-- **The entry comes back without its type**, and a second start fails. -/
theorem build_single_lost : singleServerLog.1 = 0 ∧
    (singleServerLog.2.getLogEntry protoCodec 1).map Entry.entryType = some .Unknown ∧
    ((StateMachineLog.new singleServerLog.2.storage).init protoCodec).1 = -1 := by
  decide

end DistributedNetwork.Consensus
