import DistributedNetwork.Consensus.Raft

/-!
# The vote rule

* `Raft.Grants` — the rule of the comment in `handleRequestVoteMessage`;
* `VoteRule` — what the handler owes: one reply with the current term and the verdict of the rule, and a
  granted vote on record;
* `voteRule_iff` — it delivers that **exactly** in term `0` and for requests that both the rule and the code
  refuse.

`currentTerm` leaves the caller's term at zero and returns the term as the status, the earlier vote is compared
with the node's own id, the terms of the logs are not compared, and a request that passes gets no answer.
-/

namespace DistributedNetwork.Consensus

namespace RequestVoteMessage

def candidateId (message : RequestVoteMessage) : NodeId :=
  message.m_rawRequestVote.candidateId

def lastLogTerm (message : RequestVoteMessage) : UInt64 :=
  message.m_rawRequestVote.lastLogTerm

end RequestVoteMessage

/-! ### The rule -/

section Rule

variable (entryCodec : RawEntryCodec) (raft : Raft) (msg : RequestVoteMessage)

/-- The term of the last entry; a log without entries has term `0`. -/
def StateMachineLog.lastTerm (log : StateMachineLog) : UInt64 :=
  match log.getLogEntry entryCodec log.endIndex.1 with
  | none => 0
  | some entry => entry.m_rawEntry.term

/-- The candidate's log is at least as up to date as the node's: by term first, then by index. -/
def Raft.UpToDate : Prop :=
  raft.stateMachineLog.lastTerm entryCodec < msg.lastLogTerm ∨
    raft.stateMachineLog.lastTerm entryCodec = msg.lastLogTerm ∧
      raft.stateMachineLog.endIndex.1 ≤ msg.lastLogIndex

/-- The two points of the comment. -/
def Raft.Grants : Prop :=
  raft.persistentState.m_currentTerm ≤ msg.term ∧
    (raft.m_voteFor = [] ∨ raft.m_voteFor = msg.candidateId) ∧ raft.UpToDate entryCodec msg

/-- What the handler owes to the sender of a request. -/
structure VoteRule (codec : RaftCodec) (fromNodeId : NodeId) (handled : Handled) : Prop where
  answered : ∃ reply : RequestVoteReplyMessage,
    handled.sent = [(fromNodeId, MessageEncodeHelper.encode codec (.requestVoteReply reply))] ∧
      reply.m_rawRequestVoteReply.term = raft.persistentState.m_currentTerm ∧
        (reply.m_rawRequestVoteReply.voteGranted = true ↔ raft.Grants entryCodec msg)
  recorded : raft.Grants entryCodec msg → handled.raft.m_voteFor = msg.candidateId

/-- What the code refuses: the node has voted for another node than itself, or the last index is behind. -/
def Raft.Refuses : Prop :=
  raft.m_voteFor ≠ [] ∧ raft.m_voteFor ≠ raft.nodeId ∨
    msg.lastLogIndex < raft.stateMachineLog.endIndex.1

instance : Decidable (raft.Refuses msg) :=
  inferInstanceAs (Decidable (_ ∨ _))

end Rule

/-! ### What the handler does -/

/-- Different replies are different bytes. -/
theorem encode_requestVoteReply_injective {codec : RaftCodec} (hcodec : codec.Lawful)
    {reply reply' : RequestVoteReplyMessage}
    (h : MessageEncodeHelper.encode codec (.requestVoteReply reply) =
      MessageEncodeHelper.encode codec (.requestVoteReply reply')) : reply = reply' := by
  have hpayload : (MessageBase.requestVoteReply reply).serialize codec =
      (MessageBase.requestVoteReply reply').serialize codec := by
    rw [← (decode_encode hcodec (.requestVoteReply reply)).2,
      ← (decode_encode hcodec (.requestVoteReply reply')).2, h]
  have hread := MessageBase.decodeAs_serialize hcodec (.requestVoteReply reply)
  have hread' := MessageBase.decodeAs_serialize hcodec (.requestVoteReply reply')
  rw [hpayload] at hread
  exact MessageBase.requestVoteReply.inj (hread.symm.trans hread')

section Handler

variable (codec : RaftCodec) (sendModuleMessageByNodeId : NodeId → Bytes → ℤ) (raft : Raft)
variable (fromNodeId : NodeId)

/-- The only reply there is. -/
def refusal : RequestVoteReplyMessage :=
  (RequestVoteReplyMessage.new.setTerm 0).setVoteGranted false

theorem reject_sent (currentTerm : UInt64) :
    (raft.reject codec sendModuleMessageByNodeId fromNodeId currentTerm).sent =
      [(fromNodeId, MessageEncodeHelper.encode codec
        (.requestVoteReply ((RequestVoteReplyMessage.new.setTerm currentTerm).setVoteGranted false)))] := by
  simp only [Raft.reject]
  split <;> rfl

/-- **What is sent**: a refusal that carries term `0`, or nothing at all. -/
theorem handleRequestVoteMessage_sent (msg : RequestVoteMessage) :
    (raft.handleRequestVoteMessage codec sendModuleMessageByNodeId fromNodeId msg).sent =
      if (raft.persistentState.currentTerm 0).1 = 0 ∧ raft.Refuses msg then
        [(fromNodeId, MessageEncodeHelper.encode codec (.requestVoteReply refusal))]
      else [] := by
  have hterm : ¬ msg.term < (raft.persistentState.currentTerm 0).2 := UInt64.not_lt_zero
  by_cases hstatus : (raft.persistentState.currentTerm 0).1 = 0
  · by_cases hvoted : raft.m_voteFor ≠ [] ∧ raft.m_voteFor ≠ raft.nodeId
    · rw [if_pos ⟨hstatus, .inl hvoted⟩]
      simp only [Raft.handleRequestVoteMessage, hstatus, ne_eq, not_true_eq_false, if_false]
      rw [if_pos (.inr hvoted)]
      exact reject_sent codec sendModuleMessageByNodeId _ fromNodeId _
    · have hpass : ¬ (msg.term < (raft.persistentState.currentTerm 0).2 ∨
          raft.m_voteFor ≠ [] ∧ raft.m_voteFor ≠ raft.nodeId) := not_or.mpr ⟨hterm, hvoted⟩
      simp only [Raft.handleRequestVoteMessage, hstatus, ne_eq, not_true_eq_false, if_false]
      rw [if_neg hpass]
      by_cases hbehind : msg.lastLogIndex < raft.stateMachineLog.endIndex.1
      · rw [if_pos hbehind, if_pos ⟨trivial, .inr hbehind⟩]
        exact reject_sent codec sendModuleMessageByNodeId _ fromNodeId _
      · rw [if_neg hbehind, if_neg fun h => h.2.elim hvoted hbehind]
  · rw [if_neg fun h => hstatus h.1]
    simp only [Raft.handleRequestVoteMessage, ne_eq, hstatus, not_false_eq_true, if_true]

end Handler

/-- In term `0` the rule refuses a request that comes second or whose log is behind. -/
theorem grants_term_zero {entryCodec : RawEntryCodec} {raft : Raft} {msg : RequestVoteMessage}
    (hzero : raft.persistentState.m_currentTerm = 0) :
    ¬ raft.Grants entryCodec msg ↔
      raft.m_voteFor ≠ [] ∧ raft.m_voteFor ≠ msg.candidateId ∨ ¬ raft.UpToDate entryCodec msg := by
  have hterm : raft.persistentState.m_currentTerm ≤ msg.term := by
    rw [hzero]
    exact UInt64.zero_le
  unfold Raft.Grants
  rw [and_iff_right hterm, not_and_or, not_or]

/-- **The vote rule.**  For every state of the node, every log and every request, the handler does what it owes
**if and only if** the current term is `0`, the code refuses the request, and the rule refuses it as well: the
node has voted for another candidate, or the candidate's log is behind. -/
theorem voteRule_iff {codec : RaftCodec} (hcodec : codec.Lawful) (entryCodec : RawEntryCodec)
    (sendModuleMessageByNodeId : NodeId → Bytes → ℤ) (raft : Raft) (fromNodeId : NodeId)
    (msg : RequestVoteMessage) :
    VoteRule entryCodec raft msg codec fromNodeId
        (raft.handleRequestVoteMessage codec sendModuleMessageByNodeId fromNodeId msg) ↔
      raft.persistentState.m_currentTerm = 0 ∧ raft.Refuses msg ∧
        (raft.m_voteFor ≠ [] ∧ raft.m_voteFor ≠ msg.candidateId ∨
          ¬ raft.UpToDate entryCodec msg) := by
  have hsent := handleRequestVoteMessage_sent codec sendModuleMessageByNodeId raft fromNodeId msg
  constructor
  · intro h
    obtain ⟨reply, hreply, hterm, hgranted⟩ := h.answered
    by_cases hrefused : (raft.persistentState.currentTerm 0).1 = 0 ∧ raft.Refuses msg
    · rw [if_pos hrefused, hreply, List.cons.injEq, Prod.mk.injEq] at hsent
      obtain rfl := encode_requestVoteReply_injective hcodec hsent.1.2
      have hzero : raft.persistentState.m_currentTerm = 0 := hterm.symm
      have hno : ¬ raft.Grants entryCodec msg := fun hgrants => Bool.noConfusion (hgranted.mpr hgrants)
      exact ⟨hzero, hrefused.2, (grants_term_zero hzero).mp hno⟩
    · rw [if_neg hrefused, hreply] at hsent
      cases hsent
  · rintro ⟨hzero, hrefuses, hno⟩
    have hstatus : (raft.persistentState.currentTerm 0).1 = 0 := by
      rw [PersistentState.currentTerm_status_iff, hzero]
      rfl
    have hgrants := (grants_term_zero hzero).mpr hno
    rw [if_pos ⟨hstatus, hrefuses⟩] at hsent
    exact ⟨⟨refusal, hsent, hzero.symm, iff_of_false nofun hgrants⟩, fun h => absurd h hgrants⟩

/-- A node in term `0` with an empty log. -/
def newRaft (voteFor : NodeId) : Raft where
  nodeId := [66]
  persistentState := .new .empty
  m_voteFor := voteFor
  stateMachineLog := .new .empty

/-- Candidate `A` asks for a vote in term `1`. -/
def firstRequest : RequestVoteMessage where
  m_rawRequestVote := { term := 1, candidateId := [65], lastLogIndex := 0, lastLogTerm := 0 }

/-- The vote went to `C`. -/
theorem voteRule_iff_voted :
    VoteRule protoCodec (newRaft [67]) firstRequest protoRaftCodec [65]
      ((newRaft [67]).handleRequestVoteMessage protoRaftCodec (fun _ _ => 0) [65] firstRequest) :=
  (voteRule_iff protoRaftCodec_lawful protoCodec (fun _ _ => 0) (newRaft [67]) [65] firstRequest).mpr
    ⟨rfl, by decide, .inl (by decide)⟩

/-- **A vote that is due is not given**: the first request a node gets is neither answered nor recorded. -/
theorem vote_not_given :
    (newRaft []).Grants protoCodec firstRequest ∧
      ((newRaft []).handleRequestVoteMessage protoRaftCodec (fun _ _ => 0) [65] firstRequest).sent = [] ∧
      ((newRaft []).handleRequestVoteMessage protoRaftCodec (fun _ _ => 0) [65]
        firstRequest).raft.m_voteFor = [] ∧
      ¬ VoteRule protoCodec (newRaft []) firstRequest protoRaftCodec [65]
        ((newRaft []).handleRequestVoteMessage protoRaftCodec (fun _ _ => 0) [65] firstRequest) := by
  have hgrants : (newRaft []).Grants protoCodec firstRequest :=
    ⟨by decide, .inl rfl, .inr ⟨by decide, by decide⟩⟩
  have hsent : ((newRaft []).handleRequestVoteMessage protoRaftCodec (fun _ _ => 0) [65]
      firstRequest).sent = [] := by
    rw [handleRequestVoteMessage_sent, if_neg (by decide)]
  refine ⟨hgrants, hsent, rfl, fun h => ?_⟩
  obtain ⟨reply, hreply, -⟩ := h.answered
  rw [hsent] at hreply
  cases hreply

end DistributedNetwork.Consensus
