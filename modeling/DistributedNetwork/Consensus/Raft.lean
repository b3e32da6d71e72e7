import DistributedNetwork.Consensus.PersistentState
import DistributedNetwork.Consensus.RaftMessages
import DistributedNetwork.Consensus.StateMachineLog

/-!
# Raft messages at their receiver

* `Raft.handleMessage`, `Raft.handleRequestVoteMessage` — the handlers of the source;
* `KeepsType` — what a message is owed on its way: type, fields, and the branch of the receiver's switch;
* `keepsType_iff` — it gets them **exactly** when its type is `RequestVote`.
-/

namespace DistributedNetwork.Consensus

open DistributedNetwork.Library

/-! ### The handlers -/

/-- A node; `m_voteFor` is the field of its persistent state. -/
structure Raft where
  nodeId : NodeId
  persistentState : PersistentState
  m_voteFor : NodeId
  stateMachineLog : StateMachineLog

/-- The branch of the switch over the type, with the message that it decodes. -/
inductive Dispatch where
  | requestVote (message : RequestVoteMessage)
  | requestVoteReply
  | notSupported
  deriving DecidableEq

/-- The status of a handler, the node afterwards, and what it handed to the service for which node. -/
structure Handled where
  status : ℤ
  raft : Raft
  sent : List (NodeId × Bytes)

namespace Raft

variable (codec : RaftCodec) (sendModuleMessageByNodeId : NodeId → Bytes → ℤ)

/-- The status of the service, and what it was handed. -/
def sendMessageToNode (targetNodeId : NodeId) (message : MessageBase) : ℤ × (NodeId × Bytes) :=
  let buffer := MessageEncodeHelper.encode codec message
  (sendModuleMessageByNodeId targetNodeId buffer, (targetNodeId, buffer))

/-- A vote is refused. -/
def reject (raft : Raft) (fromNodeId : NodeId) (currentTerm : UInt64) : Handled :=
  let requestVoteReplyMsg := (RequestVoteReplyMessage.new.setTerm currentTerm).setVoteGranted false
  let sending := sendMessageToNode codec sendModuleMessageByNodeId fromNodeId
    (.requestVoteReply requestVoteReplyMsg)
  if sending.1 ≠ 0 then ⟨-1, raft, [sending.2]⟩ else ⟨0, raft, [sending.2]⟩

/-- A vote that is not refused is not answered.  The end index is asked for last. -/
def handleRequestVoteMessage (raft : Raft) (fromNodeId : NodeId) (msg : RequestVoteMessage) : Handled :=
  let (status, currentTerm) := raft.persistentState.currentTerm 0
  if status ≠ 0 then ⟨-1, raft, []⟩
  else
    let voteFor := raft.m_voteFor
    if msg.term < currentTerm ∨ voteFor ≠ [] ∧ voteFor ≠ raft.nodeId then
      reject codec sendModuleMessageByNodeId raft fromNodeId currentTerm
    else
      let (endIndex, stateMachineLog) := raft.stateMachineLog.endIndex
      let raft := { raft with stateMachineLog := stateMachineLog }
      if msg.lastLogIndex < endIndex then
        reject codec sendModuleMessageByNodeId raft fromNodeId currentTerm
      else ⟨0, raft, []⟩

def dispatch (messageData : Bytes) : Dispatch :=
  let raftMessage := RaftMessagePack.decode codec messageData
  match raftMessage.messageType with
  | .RequestVote => .requestVote (.decode codec raftMessage.payload)
  | .RequestVoteReply => .requestVoteReply
  | .unnamed _ => .notSupported

def handleMessage (raft : Raft) (fromNodeId : NodeId) (messageData : Bytes) : Handled :=
  match dispatch codec messageData with
  | .requestVote requestVoteMsg =>
    let handled := raft.handleRequestVoteMessage codec sendModuleMessageByNodeId fromNodeId requestVoteMsg
    if handled.status ≠ 0 then { handled with status := -1 } else { handled with status := 0 }
  | .requestVoteReply => ⟨0, raft, []⟩
  | .notSupported => ⟨0, raft, []⟩

end Raft

/-! ### A message on its way -/

/-- The branch that is meant for a message. -/
def MessageBase.branch : MessageBase → Dispatch
  | requestVote message => .requestVote message
  | requestVoteReply _ => .requestVoteReply

/-- What a message is owed between its encoder and the receiver. -/
structure KeepsType (codec : RaftCodec) (message : MessageBase) : Prop where
  type : (RaftMessagePack.decode codec (MessageEncodeHelper.encode codec message)).messageType =
    message.m_type
  fields : message.decodeAs codec
    (RaftMessagePack.decode codec (MessageEncodeHelper.encode codec message)).payload = message
  dispatch : Raft.dispatch codec (MessageEncodeHelper.encode codec message) = message.branch

/-- Whatever was encoded is taken for a request for a vote. -/
theorem dispatch_encode {codec : RaftCodec} (hcodec : codec.Lawful) (message : MessageBase) :
    Raft.dispatch codec (MessageEncodeHelper.encode codec message) =
      .requestVote (.decode codec (message.serialize codec)) := by
  obtain ⟨htype, hpayload⟩ := decode_encode hcodec message
  simp only [Raft.dispatch, htype, hpayload]

/-- **The type on the wire.**  A message keeps its type if and only if it is a request for a vote. -/
theorem keepsType_iff {codec : RaftCodec} (hcodec : codec.Lawful) (message : MessageBase) :
    KeepsType codec message ↔ message.m_type = .RequestVote := by
  obtain ⟨htype, hpayload⟩ := decode_encode hcodec message
  constructor
  · intro h
    rw [← h.type, htype]
  · intro hrequest
    refine ⟨htype.trans hrequest.symm, ?_, ?_⟩
    · rw [hpayload, message.decodeAs_serialize hcodec]
    · rw [dispatch_encode hcodec]
      cases message with
      | requestVote message => exact congrArg Dispatch.requestVote (congrArg _ (hcodec.requestVote _))
      | requestVoteReply message => cases hrequest

theorem keepsType_iff_request :
    KeepsType protoRaftCodec
      (.requestVote ⟨{ term := 3, candidateId := [65], lastLogIndex := 2, lastLogTerm := 1 }⟩) :=
  (keepsType_iff protoRaftCodec_lawful _).mpr rfl

/-- **A granted vote arrives as a request for a vote**, of a candidate without a name. -/
theorem reply_taken_for_request :
    Raft.dispatch protoRaftCodec (MessageEncodeHelper.encode protoRaftCodec
        (.requestVoteReply ⟨{ term := 1, voteGranted := true }⟩)) =
      .requestVote ⟨{ term := 1, candidateId := [], lastLogIndex := 0, lastLogTerm := 0 }⟩ ∧
    ¬KeepsType protoRaftCodec (.requestVoteReply ⟨{ term := 1, voteGranted := true }⟩) := by
  have hdispatch : Raft.dispatch protoRaftCodec (MessageEncodeHelper.encode protoRaftCodec
        (.requestVoteReply ⟨{ term := 1, voteGranted := true }⟩)) =
      .requestVote ⟨{ term := 1, candidateId := [], lastLogIndex := 0, lastLogTerm := 0 }⟩ :=
    (dispatch_encode protoRaftCodec_lawful _).trans
      (congrArg Dispatch.requestVote (congrArg RequestVoteMessage.mk (parse_reply_as_request _)))
  refine ⟨hdispatch, fun h => ?_⟩
  have hbranch := h.dispatch
  rw [hdispatch] at hbranch
  cases hbranch

end DistributedNetwork.Consensus
