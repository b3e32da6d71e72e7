import DistributedNetwork.Library.Decimal
import DistributedNetwork.Library.HashTable
import DistributedNetwork.Session.HostsInfoManager

/-!
# The identity of endpoints

`==` and `<` compare the ip followed by the decimal port, with nothing in between; the hash takes ip and port
apart.  `m_hosts` and `m_connectingHosts` are hash tables over both.

* `concat_eq_iff` — **exactly** the pairs that are `==`: the same endpoint, or digits moved from the port to
  the ip;
* `identity_iff` — among configured endpoints identity is coherent, and the tables keep them apart, **if and
  only if** no two are confusable;
* `find_initHosts` — `m_hosts` is then the table that the rest of the development has it for.

An ip is the bytes of its `std::string`, any bytes.
-/

namespace DistributedNetwork.EndPoints

open DistributedNetwork.Library

structure HostEndPointInfo where
  m_ip : List UInt8
  m_port : UInt16
  deriving DecidableEq

namespace HostEndPointInfo

/-- `m_ip + std::to_string(m_port)`. -/
def concat (info : HostEndPointInfo) : List UInt8 :=
  info.m_ip ++ toDecimal info.m_port.toNat

def operatorLess (info rhs : HostEndPointInfo) : Bool :=
  info.concat < rhs.concat

def operatorEqual (info rhs : HostEndPointInfo) : Bool :=
  info.concat == rhs.concat

/-- The two `std::hash` are parameters. -/
def hashFunction (hashString : List UInt8 → UInt64) (hashShort : UInt16 → UInt64)
    (info : HostEndPointInfo) : UInt64 :=
  hashString info.m_ip ^^^ hashShort info.m_port

/-- Two endpoints that differ in where the port begins. -/
def Confusable (x y : HostEndPointInfo) : Prop :=
  ∃ digits ≠ [], (x.m_ip ++ digits = y.m_ip ∧
      toDecimal x.m_port.toNat = digits ++ toDecimal y.m_port.toNat) ∨
    (y.m_ip ++ digits = x.m_ip ∧ toDecimal y.m_port.toNat = digits ++ toDecimal x.m_port.toNat)

variable {x y : HostEndPointInfo}

theorem toDecimal_injective {a b : ℕ} (h : toDecimal a = toDecimal b) : a = b := by
  rw [← ofDecimal_toDecimal a, ← ofDecimal_toDecimal b, h]

theorem Confusable.ne (h : Confusable x y) : x ≠ y := by
  rintro rfl
  obtain ⟨digits, hdigits, hmoved⟩ := h
  have hself : x.m_ip ++ digits = x.m_ip := hmoved.elim And.left And.left
  exact hdigits (List.append_right_eq_self.mp hself)

theorem eq_of_parts (hip : x.m_ip = y.m_ip) (hport : toDecimal x.m_port.toNat = toDecimal y.m_port.toNat) :
    x = y := by
  have hsame : x.m_port = y.m_port := UInt16.toNat_inj.mp (toDecimal_injective hport)
  cases x
  cases y
  cases hip
  cases hsame
  rfl

/-- **What the concatenation says.** -/
theorem concat_eq_iff : x.concat = y.concat ↔ x = y ∨ Confusable x y := by
  constructor
  · intro h
    rcases List.append_eq_append_iff.mp h with ⟨digits, hip, hport⟩ | ⟨digits, hip, hport⟩
    · by_cases hnil : digits = []
      · subst hnil
        rw [List.append_nil] at hip
        exact .inl (eq_of_parts hip.symm hport)
      · exact .inr ⟨digits, hnil, .inl ⟨hip.symm, hport⟩⟩
    · by_cases hnil : digits = []
      · subst hnil
        rw [List.append_nil] at hip
        exact .inl (eq_of_parts hip hport.symm)
      · exact .inr ⟨digits, hnil, .inr ⟨hip.symm, hport⟩⟩
  · unfold concat
    rintro (rfl | ⟨digits, -, ⟨hip, hport⟩ | ⟨hip, hport⟩⟩)
    · rfl
    · rw [← hip, hport, List.append_assoc]
    · rw [← hip, hport, List.append_assoc]

theorem operatorEqual_iff : x.operatorEqual y = true ↔ x = y ∨ Confusable x y := by
  unfold operatorEqual
  rw [beq_iff_eq, concat_eq_iff]

end HostEndPointInfo

open HostEndPointInfo

/-! ### Coherence -/

/-- `<` is a strict total order whose equivalence is `==`. -/
structure OrderCoherent : Prop where
  irrefl : ∀ x : HostEndPointInfo, x.operatorLess x = false
  trans : ∀ x y z : HostEndPointInfo, x.operatorLess y = true → y.operatorLess z = true →
    x.operatorLess z = true
  equivalence : ∀ x y : HostEndPointInfo,
    x.operatorLess y = false ∧ y.operatorLess x = false ↔ x.operatorEqual y = true

/-- **The order is coherent** on all endpoints: it compares the same texts as the equality. -/
theorem orderCoherent : OrderCoherent := by
  constructor
  · intro x
    exact decide_eq_false (List.lt_irrefl _)
  · intro x y z hxy hyz
    exact decide_eq_true (List.lt_trans (of_decide_eq_true hxy) (of_decide_eq_true hyz))
  · intro x y
    unfold operatorLess operatorEqual
    rw [decide_eq_false_iff_not, decide_eq_false_iff_not, beq_iff_eq]
    constructor
    · rintro ⟨hxy, hyx⟩
      exact List.le_antisymm (List.not_lt.mp hyx) (List.not_lt.mp hxy)
    · intro heq
      rw [heq]
      exact ⟨List.lt_irrefl _, List.lt_irrefl _⟩

section Coherence

variable (hashString : List UInt8 → UInt64) (hashShort : UInt16 → UInt64)

/-- `==` is equality of ip and port, and it implies equal hashes. -/
structure Coherent (x y : HostEndPointInfo) : Prop where
  equal_iff : x.operatorEqual y = true ↔ x.m_ip = y.m_ip ∧ x.m_port = y.m_port
  hash_eq : x.operatorEqual y = true →
    x.hashFunction hashString hashShort = y.hashFunction hashString hashShort

/-- The hash as a number, from which the bucket is computed. -/
def bucketHash (info : HostEndPointInfo) : ℕ :=
  (info.hashFunction hashString hashShort).toNat

/-- Every table into which the endpoints were emplaced finds each of them, and with its own entry. -/
def KeepsApart (Value : Type) (nodes : List HostEndPointInfo) : Prop :=
  ∀ (inserted : List (HostEndPointInfo × Value)) (hosts : HashTable HostEndPointInfo Value),
    inserted.map Prod.fst = nodes →
      Built operatorEqual (bucketHash hashString hashShort) inserted hosts →
        ∀ x ∈ nodes, ∃ value,
          hosts.find operatorEqual (bucketHash hashString hashShort) x = some (x, value)

variable {hashString hashShort} {nodes : List HostEndPointInfo}

theorem coherent_iff {x y : HostEndPointInfo} :
    Coherent hashString hashShort x y ↔ ¬ Confusable x y := by
  constructor
  · intro h hconfusable
    obtain ⟨hip, hport⟩ := h.equal_iff.mp (operatorEqual_iff.mpr (.inr hconfusable))
    exact hconfusable.ne (eq_of_parts hip (by rw [hport]))
  · intro h
    have heq : x.operatorEqual y = true ↔ x = y := by
      rw [operatorEqual_iff, or_iff_left h]
    refine ⟨heq.trans ⟨?_, ?_⟩, fun hxy => by rw [heq.mp hxy]⟩
    · rintro rfl
      exact ⟨rfl, rfl⟩
    · rintro ⟨hip, hport⟩
      exact eq_of_parts hip (by rw [hport])

theorem lawfulOn_of_not_confusable (h : ∀ x ∈ nodes, ∀ y ∈ nodes, ¬ Confusable x y) :
    LawfulOn operatorEqual nodes := by
  intro x hx y hy
  rw [operatorEqual_iff, or_iff_left (h x hx y hy)]

theorem keepsApart_of_not_confusable (Value : Type)
    (h : ∀ x ∈ nodes, ∀ y ∈ nodes, ¬ Confusable x y) :
    KeepsApart hashString hashShort Value nodes := by
  intro inserted hosts hnodes hbuilt x hx
  subst hnodes
  exact hbuilt.find_self (lawfulOn_of_not_confusable h) hx

end Coherence

/-- **The identity of endpoints.**  Whatever the hashes of strings and ports and the numbers of buckets are:
among the configured endpoints `==`, `<` and the hash are coherent and the tables keep them apart **if and only
if** no two of them differ just in where the port begins. -/
theorem identity_iff (hashString : List UInt8 → UInt64) (hashShort : UInt16 → UInt64) (Value : Type)
    (nodes : List HostEndPointInfo) :
    ((∀ x ∈ nodes, ∀ y ∈ nodes, Coherent hashString hashShort x y) ∧ OrderCoherent ∧
      KeepsApart hashString hashShort Value nodes) ↔
    ∀ x ∈ nodes, ∀ y ∈ nodes, ¬ Confusable x y := by
  constructor
  · rintro ⟨hcoherent, -, -⟩ x hx y hy
    exact coherent_iff.mp (hcoherent x hx y hy)
  · intro h
    exact ⟨fun x hx y hy => coherent_iff.mpr (h x hx y hy), orderCoherent,
      keepsApart_of_not_confusable Value h⟩

/-- `1.1.1.1:12` -/
def endPoint12 : HostEndPointInfo where
  m_ip := [49, 46, 49, 46, 49, 46, 49]
  m_port := 12

/-- `1.1.1.11:2` -/
def endPoint2 : HostEndPointInfo where
  m_ip := [49, 46, 49, 46, 49, 46, 49, 49]
  m_port := 2

/-- **Two endpoints are one**: they are `==`, and neither their ips nor their ports are equal. -/
theorem identity_confused :
    endPoint12.operatorEqual endPoint2 = true ∧ endPoint12.m_ip ≠ endPoint2.m_ip ∧
      endPoint12.m_port ≠ endPoint2.m_port :=
  ⟨by decide, by decide, by decide⟩

/-! ### `m_hosts` -/

/-- An endpoint whose ip is text, as the bytes of its encoding. -/
def ofText (info : Session.HostEndPointInfo) : HostEndPointInfo where
  m_ip := info.m_ip.toByteArray.data.toList
  m_port := info.m_port

theorem ofText_injective {info info' : Session.HostEndPointInfo} (h : ofText info = ofText info') :
    info = info' := by
  obtain ⟨ip, port⟩ := info
  obtain ⟨ip', port'⟩ := info'
  injection h with hip hport
  have hbytes : ip.toByteArray = ip'.toByteArray := ByteArray.ext (Array.toList_inj.mp hip)
  rw [String.toByteArray_inj.mp hbytes]
  exact congrArg _ hport

/-- **`m_hosts` after `init`** is the table that answers by the endpoint, as long as no endpoint in question
is confusable with another. -/
theorem find_initHosts {hash : HostEndPointInfo → ℕ} {nodes : List Session.HostEndPointInfo}
    {info : Session.HostEndPointInfo}
    {hosts : HashTable HostEndPointInfo (Session.NodeId × UInt64)}
    (hbuilt : Built operatorEqual hash
      (nodes.map fun node => (ofText node, Session.HostsInfoManager.notConnected)) hosts)
    (h : ∀ x ∈ info :: nodes, ∀ y ∈ info :: nodes, ¬ Confusable (ofText x) (ofText y)) :
    (hosts.find operatorEqual hash (ofText info)).map Prod.snd =
      (Session.HostsInfoManager.init nodes).m_hosts info := by
  have hlawful : LawfulOn operatorEqual (ofText info :: (nodes.map fun node =>
      (ofText node, Session.HostsInfoManager.notConnected)).map Prod.fst) := by
    have hkeys : ofText info :: (nodes.map fun node =>
        (ofText node, Session.HostsInfoManager.notConnected)).map Prod.fst =
          (info :: nodes).map ofText := by
      rw [List.map_map]
      rfl
    rw [hkeys]
    apply lawfulOn_of_not_confusable
    intro x hx y hy
    obtain ⟨node, hnode, rfl⟩ := List.mem_map.mp hx
    obtain ⟨node', hnode', rfl⟩ := List.mem_map.mp hy
    exact h node hnode node' hnode'
  rw [hbuilt.find_eq hlawful, List.find?_map, Option.map_map]
  unfold Session.HostsInfoManager.init
  dsimp only
  by_cases hmem : info ∈ nodes
  · rw [if_pos hmem]
    cases hfound : nodes.find? ((fun entry : HostEndPointInfo × (Session.NodeId × UInt64) =>
        decide (entry.1 = ofText info)) ∘
          fun node => (ofText node, Session.HostsInfoManager.notConnected)) with
    | some node => rfl
    | none =>
      have hnot := List.find?_eq_none.mp hfound info hmem
      simp at hnot
  · rw [if_neg hmem, List.find?_eq_none.mpr, Option.map_none]
    intro node hnode hsame
    have heq : ofText node = ofText info := by simpa using hsame
    exact hmem (ofText_injective heq ▸ hnode)

end DistributedNetwork.EndPoints
