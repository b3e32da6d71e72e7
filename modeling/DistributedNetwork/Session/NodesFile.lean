import DistributedNetwork.Consensus.ClusterConfiguration
import DistributedNetwork.Session.EndPoints

/-!
# Endpoints as text, and the nodes file

An endpoint is written as `ip:port`, in the nodes file and in the two handshake packets, and read back with
`split` and an input stream.

* `split_pair_iff` — the texts that `split` cuts in two; a delimiter at the very end counts for nothing;
* `host_roundTrip_iff` — an endpoint comes back from its text **if and only if** its ip has no colon;
* `init_eq_iff` — the nodes file is accepted **exactly** when it is an object with an array of such texts, and
  `m_hosts` is then the table of its endpoints;
* `nodesFile_roundTrip` — so a file that was written for some endpoints is read as these.

An `unsigned short` from a text without any character but white space is left uninitialised, whatever
the memory holds.
-/

namespace DistributedNetwork.EndPoints

open DistributedNetwork.Library HostEndPointInfo
open DistributedNetwork.Consensus (Bytes JsonCpp)
open DistributedNetwork.Consensus.JsonMethods (asString find)

/-! ### `split` -/

/-- The calls of `std::getline`; `item` is what the current one has extracted.  At the end of the text it
fails if that is nothing. -/
def getlines (delimiter : UInt8) (item : Bytes) : Bytes → List Bytes
  | [] => if item = [] then [] else [item]
  | byte :: rest =>
    if byte = delimiter then item :: getlines delimiter [] rest
    else getlines delimiter (item ++ [byte]) rest

def split (origin : Bytes) (delimiter : UInt8) : List Bytes :=
  getlines delimiter [] origin

section Split

variable {delimiter : UInt8} {text a b : Bytes}

theorem getlines_append (item : Bytes) (h : delimiter ∉ a) (rest : Bytes) :
    getlines delimiter item (a ++ rest) = getlines delimiter (item ++ a) rest := by
  induction a generalizing item with
  | nil => rw [List.nil_append, List.append_nil]
  | cons byte a ih =>
    have hbyte : byte ≠ delimiter := fun heq => h (heq ▸ List.mem_cons_self)
    rw [List.cons_append, getlines, if_neg hbyte, ih _ fun hmem => h (List.mem_cons_of_mem _ hmem),
      List.append_assoc]
    rfl

theorem getlines_of_not_mem (item : Bytes) (h : delimiter ∉ a) :
    getlines delimiter item a = if item ++ a = [] then [] else [item ++ a] := by
  have happend := getlines_append item h []
  rw [List.append_nil] at happend
  rw [happend, getlines]

/-- A text with a delimiter, at its first one. -/
theorem split_append (h : delimiter ∉ a) (rest : Bytes) :
    split (a ++ delimiter :: rest) delimiter = a :: split rest delimiter := by
  unfold split
  rw [getlines_append [] h, getlines, if_pos rfl, List.nil_append]

theorem split_of_not_mem (h : delimiter ∉ a) :
    split a delimiter = if a = [] then [] else [a] := by
  unfold split
  rw [getlines_of_not_mem [] h, List.nil_append]

theorem exists_first (h : delimiter ∈ text) :
    ∃ a rest, delimiter ∉ a ∧ text = a ++ delimiter :: rest := by
  obtain ⟨a, rest, htext, hfirst⟩ := List.eq_append_cons_of_mem h
  exact ⟨a, rest, hfirst, htext⟩

/-- One line is a text without a delimiter but, perhaps, at its end. -/
theorem split_single_iff : split text delimiter = [b] ↔
    delimiter ∉ b ∧ (text = b ∧ b ≠ [] ∨ text = b ++ [delimiter]) := by
  constructor
  · intro h
    by_cases hmem : delimiter ∈ text
    · obtain ⟨a, rest, ha, rfl⟩ := exists_first hmem
      rw [split_append ha] at h
      injection h with hab hrest
      subst hab
      refine ⟨ha, .inr ?_⟩
      by_cases hmem' : delimiter ∈ rest
      · obtain ⟨a', rest', ha', rfl⟩ := exists_first hmem'
        rw [split_append ha'] at hrest
        cases hrest
      · rw [split_of_not_mem hmem'] at hrest
        split at hrest
        · next hnil => rw [hnil]
        · cases hrest
    · rw [split_of_not_mem hmem] at h
      split at h
      · cases h
      · next hne =>
        cases h
        exact ⟨hmem, .inl ⟨rfl, hne⟩⟩
  · intro h
    obtain ⟨hb, ⟨rfl, hne⟩ | rfl⟩ := h
    · rw [split_of_not_mem hb, if_neg hne]
    · rw [split_append hb]
      rfl

/-- **The texts that are cut in two.** -/
theorem split_pair_iff : split text delimiter = [a, b] ↔ delimiter ∉ a ∧ delimiter ∉ b ∧
    (text = a ++ delimiter :: b ∧ b ≠ [] ∨ text = a ++ delimiter :: (b ++ [delimiter])) := by
  constructor
  · intro h
    by_cases hmem : delimiter ∈ text
    · obtain ⟨a', rest, ha, rfl⟩ := exists_first hmem
      rw [split_append ha] at h
      injection h with haa hrest
      subst haa
      obtain ⟨hb, ⟨rfl, hne⟩ | rfl⟩ := split_single_iff.mp hrest
      · exact ⟨ha, hb, .inl ⟨rfl, hne⟩⟩
      · exact ⟨ha, hb, .inr rfl⟩
    · rw [split_of_not_mem hmem] at h
      split at h <;> cases h
  · intro h
    obtain ⟨ha, hb, htext⟩ := h
    have hrest (rest : Bytes) (hcases : rest = b ∧ b ≠ [] ∨ rest = b ++ [delimiter]) :
        split (a ++ delimiter :: rest) delimiter = [a, b] := by
      rw [split_append ha, split_single_iff.mpr ⟨hb, hcases⟩]
    obtain ⟨rfl, hne⟩ | rfl := htext
    · exact hrest b (.inl ⟨rfl, hne⟩)
    · exact hrest _ (.inr rfl)

end Split

/-! ### Ports -/

def IsSpace (byte : UInt8) : Prop :=
  byte = 32 ∨ 9 ≤ byte.toNat ∧ byte.toNat ≤ 13

instance (byte : UInt8) : Decidable (IsSpace byte) :=
  inferInstanceAs (Decidable (_ ∨ _))

/-- The number that `>>` reads into an `unsigned short`: a sign and decimal digits; without digits `0`,
behind the range its end. -/
def readShort : Bytes → UInt16
  | 45 :: digits =>
    if ofDecimal digits < 2 ^ 16 then - UInt16.ofNat (ofDecimal digits) else UInt16.ofNat (2 ^ 16 - 1)
  | 43 :: digits => readDigits digits
  | digits => readDigits digits
where
  readDigits (digits : Bytes) : UInt16 :=
    UInt16.ofNat (min (ofDecimal digits) (2 ^ 16 - 1))

/-- `convertFromString<unsigned short>`; at the end of the stream nothing is assigned. -/
def convertFromString (uninitialised : UInt16) (value : Bytes) : UInt16 :=
  match value.dropWhile fun byte => IsSpace byte with
  | [] => uninitialised
  | byte :: rest => readShort (byte :: rest)

/-- **A port comes back** from its decimal text. -/
theorem convertFromString_toDecimal (uninitialised port : UInt16) :
    convertFromString uninitialised (toDecimal port.toNat) = port := by
  obtain ⟨digit, digits, htext⟩ := List.exists_cons_of_ne_nil (toDecimal_ne_nil port.toNat)
  have hdigit : IsDigit digit := isDigit_of_mem_toDecimal (n := port.toNat) (by
    rw [htext]
    exact List.mem_cons_self)
  have hspace : ¬ IsSpace digit := by
    intro hspace
    have hrange : 48 ≤ digit.toNat ∧ digit.toNat ≤ 57 := hdigit
    obtain rfl | hcontrol := hspace
    · exact absurd hrange (by decide)
    · omega
  have hread : readShort (digit :: digits) = readShort.readDigits (digit :: digits) := by
    unfold readShort
    split
    · next heq =>
      injection heq with hsign
      exact absurd (hsign ▸ hdigit) (by decide)
    · next heq =>
      injection heq with hsign
      exact absurd (hsign ▸ hdigit) (by decide)
    · rfl
  unfold convertFromString
  rw [htext, List.dropWhile_cons_of_neg (by simpa using hspace)]
  show readShort (digit :: digits) = port
  rw [hread, ← htext, readShort.readDigits, ofDecimal_toDecimal]
  have hle : port.toNat ≤ 2 ^ 16 - 1 := Nat.le_pred_of_lt port.toNat_lt
  rw [Nat.min_eq_left hle, UInt16.ofNat_toNat]

/-! ### Endpoints -/

def colon : UInt8 := 58

namespace HostEndPointInfo

def host (info : HostEndPointInfo) : Bytes :=
  info.m_ip ++ colon :: toDecimal info.m_port.toNat

/-- The constructor from a text; a text that is not cut in two leaves an empty ip and no port. -/
def ofHost (uninitialised : UInt16) (host : Bytes) : HostEndPointInfo :=
  match split host colon with
  | [ip, port] => ⟨ip, convertFromString uninitialised port⟩
  | _ => ⟨[], uninitialised⟩

theorem colon_not_mem_toDecimal (n : ℕ) : colon ∉ toDecimal n := by
  intro hmem
  exact absurd (isDigit_of_mem_toDecimal hmem) (by decide)

theorem split_host {info : HostEndPointInfo} (h : colon ∉ info.m_ip) :
    split info.host colon = [info.m_ip, toDecimal info.m_port.toNat] :=
  split_pair_iff.mpr ⟨h, colon_not_mem_toDecimal _, .inl ⟨rfl, toDecimal_ne_nil _⟩⟩

end HostEndPointInfo

/-- The text of an endpoint is cut in two only at the colon behind the ip. -/
theorem colon_not_mem_of_split {info : HostEndPointInfo} {a b : Bytes}
    (h : split info.host colon = [a, b]) : colon ∉ info.m_ip := by
  obtain ⟨ha, hb, htext⟩ := split_pair_iff.mp h
  have hport : (toDecimal info.m_port.toNat).count colon = 0 :=
    List.count_eq_zero.mpr (colon_not_mem_toDecimal _)
  have hcount : info.host.count colon = info.m_ip.count colon + 1 := by
    unfold host
    rw [List.count_append, List.count_cons_self, hport]
  obtain ⟨hone, -⟩ | hlast := htext
  · rw [hone, List.count_append, List.count_cons_self, List.count_eq_zero.mpr ha,
      List.count_eq_zero.mpr hb] at hcount
    exact List.count_eq_zero.mp (by omega)
  · -- the last byte would be a colon, but it is a digit of the port
    have hmem : colon ∈ toDecimal info.m_port.toNat := by
      have hsuffix : [colon] <:+ info.host := by
        rw [hlast, ← List.cons_append, ← List.append_assoc]
        exact List.suffix_append _ _
      have hdigits : (colon :: toDecimal info.m_port.toNat) <:+ info.host := List.suffix_append _ _
      have hpos := List.length_pos_iff.mpr (toDecimal_ne_nil info.m_port.toNat)
      have hwithin : [colon] <:+ toDecimal info.m_port.toNat :=
        List.suffix_of_suffix_length_le hsuffix ((List.suffix_cons _ _).trans hdigits) hpos
      exact hwithin.subset (List.mem_singleton_self _)
    exact absurd hmem (colon_not_mem_toDecimal _)

/-- **Round trip of an endpoint.**  It comes back from its text, whatever the memory holds, **if and only if**
there is no colon in its ip. -/
theorem host_roundTrip_iff (uninitialised : UInt16) (info : HostEndPointInfo) :
    ofHost uninitialised info.host = info ↔ colon ∉ info.m_ip := by
  unfold ofHost
  constructor
  · intro h
    split at h
    · next ip port hsplit => exact colon_not_mem_of_split hsplit
    · have hip : [] = info.m_ip := congrArg HostEndPointInfo.m_ip h
      rw [← hip]
      exact List.not_mem_nil
  · intro h
    rw [split_host h]
    exact congrArg (HostEndPointInfo.mk info.m_ip) (convertFromString_toDecimal _ _)

/-! ### The nodes file -/

def nodesKey : Bytes :=
  "nodes".toList.map Char.toUInt8

abbrev Hosts := HashTable HostEndPointInfo (Session.NodeId × UInt64)

section Init

variable (json : JsonCpp) (hash : HostEndPointInfo → ℕ) (bucketCount : Hosts → ℕ)
variable (uninitialised : UInt16)

/-- The loop over the nodes; `none` where `asString` throws. -/
def emplaceNodes : List JsonValue → Hosts → Option (ℤ × Hosts)
  | [], m_hosts => some (0, m_hosts)
  | value :: values, m_hosts =>
    match asString value with
    | none => none
    | some host =>
      match split host colon with
      | [ip, port] =>
        emplaceNodes values (m_hosts.emplace operatorEqual hash (bucketCount m_hosts)
          (⟨ip, convertFromString uninitialised port⟩, Session.HostsInfoManager.notConnected))
      | _ => some (-1, m_hosts)

/-- `HostsInfoManager::init`, with the contents of the file if it can be opened. -/
def init (nodesJsonFile : Option Bytes) : Option (ℤ × Hosts) :=
  let m_hosts : Hosts := ⟨1, []⟩
  match nodesJsonFile with
  | none => some (-1, m_hosts)
  | some text =>
    match json.parse text with
    | none => some (-1, m_hosts)
    | some root =>
      match find root nodesKey with
      | none => none
      | some nodesValue =>
        match nodesValue with
        | some (.array values) => emplaceNodes hash bucketCount uninitialised values m_hosts
        | _ => some (-1, m_hosts)

/-- The endpoint of a node, if its text is cut in two. -/
def endPointOf (value : JsonValue) : Option HostEndPointInfo :=
  (asString value).bind fun host =>
    match split host colon with
    | [ip, port] => some ⟨ip, convertFromString uninitialised port⟩
    | _ => none

/-- The endpoints of a nodes file that is accepted. -/
def Accepted (nodesJsonFile : Option Bytes) (nodes : List HostEndPointInfo) : Prop :=
  ∃ text root values, nodesJsonFile = some text ∧ json.parse text = some root ∧
    find root nodesKey = some (some (.array values)) ∧
    values.map (endPointOf uninitialised) = nodes.map some

/-- The entries of these endpoints are emplaced. -/
def emplaceAll (nodes : List HostEndPointInfo) (m_hosts : Hosts) : Hosts :=
  nodes.foldl (fun m_hosts node => m_hosts.emplace operatorEqual hash (bucketCount m_hosts)
    (node, Session.HostsInfoManager.notConnected)) m_hosts

variable {json hash bucketCount uninitialised} {nodes : List HostEndPointInfo}

theorem emplaceNodes_iff (values : List JsonValue) (m_hosts m_hosts' : Hosts) :
    emplaceNodes hash bucketCount uninitialised values m_hosts = some (0, m_hosts') ↔
      ∃ nodes : List HostEndPointInfo, values.map (endPointOf uninitialised) = nodes.map some ∧
        m_hosts' = emplaceAll hash bucketCount nodes m_hosts := by
  induction values generalizing m_hosts with
  | nil =>
    constructor
    · intro h
      cases h
      exact ⟨[], rfl, rfl⟩
    · intro h
      obtain ⟨nodes, hnodes, rfl⟩ := h
      rw [List.map_nil, eq_comm, List.map_eq_nil_iff] at hnodes
      subst hnodes
      rfl
  | cons value values ih =>
    have hread : ∀ node, endPointOf uninitialised value = some node →
        emplaceNodes hash bucketCount uninitialised (value :: values) m_hosts =
          emplaceNodes hash bucketCount uninitialised values (m_hosts.emplace operatorEqual hash
            (bucketCount m_hosts) (node, Session.HostsInfoManager.notConnected)) := by
      intro node hnode
      obtain ⟨host, hhost, hsplit⟩ := Option.bind_eq_some_iff.mp hnode
      rw [emplaceNodes, hhost]
      dsimp only
      split at hsplit
      · next ip port hcut =>
        cases hsplit
        rfl
      · cases hsplit
    have hrefused : endPointOf uninitialised value = none →
        emplaceNodes hash bucketCount uninitialised (value :: values) m_hosts ≠ some (0, m_hosts') := by
      intro hnone h
      unfold endPointOf at hnone
      rw [emplaceNodes] at h
      split at h
      · cases h
      · next host hhost =>
        rw [hhost, Option.bind_some] at hnone
        split at h
        · next ip port hcut =>
          rw [hcut] at hnone
          cases hnone
        · cases h
    cases hvalue : endPointOf uninitialised value with
    | none =>
      refine iff_of_false (hrefused hvalue) ?_
      intro h
      obtain ⟨nodes, hnodes, -⟩ := h
      cases nodes with
      | nil => cases hnodes
      | cons node nodes =>
        rw [List.map_cons, List.map_cons, hvalue] at hnodes
        cases hnodes
    | some node =>
      rw [hread node hvalue, ih]
      constructor
      · intro h
        obtain ⟨nodes, hnodes, htable⟩ := h
        exact ⟨node :: nodes, by rw [List.map_cons, List.map_cons, hvalue, hnodes], htable⟩
      · intro h
        obtain ⟨nodes, hnodes, htable⟩ := h
        cases nodes with
        | nil => cases hnodes
        | cons first nodes =>
          rw [List.map_cons, List.map_cons, hvalue] at hnodes
          injection hnodes with hfirst hnodes
          cases hfirst
          exact ⟨nodes, hnodes, htable⟩

theorem built_emplaceAll (inserted : List (HostEndPointInfo × (Session.NodeId × UInt64)))
    (m_hosts : Hosts) (h : Built operatorEqual hash inserted m_hosts) (nodes : List HostEndPointInfo) :
    Built operatorEqual hash
      (inserted ++ nodes.map fun node => (node, Session.HostsInfoManager.notConnected))
      (emplaceAll hash bucketCount nodes m_hosts) := by
  induction nodes generalizing inserted m_hosts with
  | nil =>
    rw [List.map_nil, List.append_nil]
    exact h
  | cons node nodes ih =>
    rw [List.map_cons, List.append_cons]
    exact ih _ _ (.emplace (bucketCount m_hosts) _ h)

/-- **What the table answers**, as long as no endpoint in question is confusable with another. -/
theorem find_built {m_hosts : Hosts} {info : HostEndPointInfo}
    (hbuilt : Built operatorEqual hash
      (nodes.map fun node => (node, Session.HostsInfoManager.notConnected)) m_hosts)
    (h : ∀ x ∈ info :: nodes, ∀ y ∈ info :: nodes, ¬ Confusable x y) :
    (m_hosts.find operatorEqual hash info).map Prod.snd =
      if info ∈ nodes then some Session.HostsInfoManager.notConnected else none := by
  have hkeys : (nodes.map fun node => (node, Session.HostsInfoManager.notConnected)).map Prod.fst =
      nodes := by
    rw [List.map_map]
    exact List.map_id nodes
  have hlawful : LawfulOn operatorEqual (info ::
      (nodes.map fun node => (node, Session.HostsInfoManager.notConnected)).map Prod.fst) := by
    rw [hkeys]
    exact lawfulOn_of_not_confusable h
  rw [hbuilt.find_eq hlawful, List.find?_map, Option.map_map]
  by_cases hmem : info ∈ nodes
  · rw [if_pos hmem]
    cases hfound : nodes.find? ((fun entry : HostEndPointInfo × (Session.NodeId × UInt64) =>
        decide (entry.1 = info)) ∘ fun node => (node, Session.HostsInfoManager.notConnected)) with
    | some node => rfl
    | none =>
      have hnot := List.find?_eq_none.mp hfound info hmem
      simp at hnot
  · rw [if_neg hmem, List.find?_eq_none.mpr, Option.map_none]
    intro node hnode hsame
    have heq : node = info := by simpa using hsame
    exact hmem (heq ▸ hnode)

/-- **The nodes file is accepted exactly** when it can be opened and parsed, the member `nodes` is an array and
the text of each node is cut in two; and the table is then made of their endpoints. -/
theorem init_eq_iff (nodesJsonFile : Option Bytes) (m_hosts : Hosts) :
    init json hash bucketCount uninitialised nodesJsonFile = some (0, m_hosts) ↔
      ∃ nodes, Accepted json uninitialised nodesJsonFile nodes ∧
        m_hosts = emplaceAll hash bucketCount nodes ⟨1, []⟩ := by
  constructor
  · intro h
    unfold init at h
    dsimp only at h
    split at h
    · cases h
    next text =>
    split at h
    · cases h
    next root hparse =>
    split at h
    · cases h
    next nodesValue hfind =>
    split at h
    · next values =>
      obtain ⟨nodes, hnodes, htable⟩ := (emplaceNodes_iff values _ _).mp h
      exact ⟨nodes, ⟨text, root, values, rfl, hparse, hfind, hnodes⟩, htable⟩
    · cases h
  · intro h
    obtain ⟨nodes, ⟨text, root, values, rfl, hparse, hfind, hnodes⟩, htable⟩ := h
    unfold init
    simp only [hparse, hfind]
    exact (emplaceNodes_iff values _ _).mpr ⟨nodes, hnodes, htable⟩

end Init

/-! ### A file written for some endpoints -/

/-- The object with the texts of the endpoints under `nodes`. -/
def nodesRoot (nodes : List HostEndPointInfo) : JsonValue :=
  .object [(nodesKey, .array (nodes.map fun node => .string node.host))]

theorem ordered_nodesRoot (nodes : List HostEndPointInfo) : (nodesRoot nodes).Ordered := by
  refine .object _ (List.pairwise_singleton _ _) fun member hmember => ?_
  rw [List.mem_singleton.mp hmember]
  refine .array _ fun value hvalue => ?_
  obtain ⟨node, -, rfl⟩ := List.mem_map.mp hvalue
  exact .string node.host

theorem find_nodesRoot (nodes : List HostEndPointInfo) :
    find (nodesRoot nodes) nodesKey = some (some (.array (nodes.map fun node => .string node.host))) := by
  simp [find, nodesRoot]

theorem endPointOf_host (uninitialised : UInt16) {node : HostEndPointInfo} (h : colon ∉ node.m_ip) :
    endPointOf uninitialised (.string node.host) = some node := by
  show (match split node.host colon with
    | [ip, port] => some ⟨ip, convertFromString uninitialised port⟩
    | _ => none) = some node
  rw [split_host h]
  exact congrArg (fun port => some (HostEndPointInfo.mk node.m_ip port)) (convertFromString_toDecimal _ _)

theorem colon_not_mem_of_endPointOf {uninitialised : UInt16} {node info : HostEndPointInfo}
    (h : endPointOf uninitialised (.string node.host) = some info) : colon ∉ node.m_ip := by
  change (match split node.host colon with
    | [ip, port] => some ⟨ip, convertFromString uninitialised port⟩
    | _ => none) = some info at h
  split at h
  · next ip port hsplit => exact colon_not_mem_of_split hsplit
  · cases h

/-- **Round trip of the nodes file.**  A file written for some endpoints is accepted **if and only if** there
is no colon in an ip; and then `m_hosts` has an entry for each of them and for no other endpoint, whatever the
hash, the numbers of buckets and the memory are, as long as no two endpoints in question are confusable. -/
theorem nodesFile_roundTrip (json : JsonCpp) (hjson : json.Lawful) (hash : HostEndPointInfo → ℕ)
    (bucketCount : Hosts → ℕ) (uninitialised : UInt16) (nodes : List HostEndPointInfo) :
    ((∃ m_hosts, init json hash bucketCount uninitialised (some (json.write (nodesRoot nodes))) =
        some (0, m_hosts)) ↔ ∀ node ∈ nodes, colon ∉ node.m_ip) ∧
      ∀ m_hosts, init json hash bucketCount uninitialised (some (json.write (nodesRoot nodes))) =
          some (0, m_hosts) →
        ∀ info, (∀ x ∈ info :: nodes, ∀ y ∈ info :: nodes, ¬ Confusable x y) →
          (m_hosts.find operatorEqual hash info).map Prod.snd =
            if info ∈ nodes then some Session.HostsInfoManager.notConnected else none := by
  have hparse := hjson _ (ordered_nodesRoot nodes)
  -- the values of the file are the texts of the endpoints
  have hvalues {others : List HostEndPointInfo}
      (h : Accepted json uninitialised (some (json.write (nodesRoot nodes))) others) :
      (nodes.map fun node => endPointOf uninitialised (.string node.host)) = others.map some := by
    obtain ⟨text, root, values, hfile, hroot, hfind, hmap⟩ := h
    cases hfile
    rw [hparse] at hroot
    cases hroot
    rw [find_nodesRoot] at hfind
    cases hfind
    rw [List.map_map] at hmap
    exact hmap
  have hnoColon (m_hosts : Hosts) (h : init json hash bucketCount uninitialised
      (some (json.write (nodesRoot nodes))) = some (0, m_hosts)) : ∀ node ∈ nodes, colon ∉ node.m_ip := by
    obtain ⟨others, haccepted, -⟩ := (init_eq_iff _ _).mp h
    intro node hnode
    have hmem : endPointOf uninitialised (.string node.host) ∈ others.map some := by
      rw [← hvalues haccepted]
      exact List.mem_map_of_mem hnode
    obtain ⟨info, -, hinfo⟩ := List.mem_map.mp hmem
    exact colon_not_mem_of_endPointOf hinfo.symm
  have hsame (h : ∀ node ∈ nodes, colon ∉ node.m_ip) :
      (nodes.map fun node => endPointOf uninitialised (.string node.host)) = nodes.map some :=
    List.map_congr_left fun node hnode => endPointOf_host uninitialised (h node hnode)
  refine ⟨⟨?_, ?_⟩, ?_⟩
  · intro h
    obtain ⟨m_hosts, hinit⟩ := h
    exact hnoColon m_hosts hinit
  · intro h
    refine ⟨_, (init_eq_iff _ _).mpr ⟨nodes, ⟨_, _, _, rfl, hparse, find_nodesRoot nodes, ?_⟩, rfl⟩⟩
    rw [List.map_map]
    exact hsame h
  · intro m_hosts h info hdistinct
    obtain ⟨others, haccepted, rfl⟩ := (init_eq_iff _ _).mp h
    have hothers : others = nodes := by
      have hmaps := hvalues haccepted
      rw [hsame (hnoColon _ h)] at hmaps
      exact (List.map_injective_iff.mpr (fun _ _ => Option.some.inj) hmaps).symm
    subst hothers
    have hbuilt : Built operatorEqual hash
        (others.map fun node => (node, Session.HostsInfoManager.notConnected))
        (emplaceAll hash bucketCount others ⟨1, []⟩) := built_emplaceAll [] _ (.empty 1) others
    exact find_built hbuilt hdistinct

/-- `127.0.0.1:9990` alone. -/
theorem nodesFile_roundTrip_single : ∃ m_hosts : Hosts,
    init Consensus.ClusterConfigurationSerializer.compactJson (fun _ => 0) (fun _ => 1) 0
      (some (Consensus.ClusterConfigurationSerializer.compactJson.write
        (nodesRoot [⟨[49, 50, 55, 46, 48, 46, 48, 46, 49], 9990⟩]))) = some (0, m_hosts) ∧
    (m_hosts.find operatorEqual (fun _ => 0) ⟨[49, 50, 55, 46, 48, 46, 48, 46, 49], 9990⟩).map Prod.snd =
      some Session.HostsInfoManager.notConnected := by
  obtain ⟨hiff, htable⟩ := nodesFile_roundTrip Consensus.ClusterConfigurationSerializer.compactJson
    Consensus.ClusterConfigurationSerializer.compactJson_lawful (fun _ => 0) (fun _ => 1) 0
    [⟨[49, 50, 55, 46, 48, 46, 48, 46, 49], 9990⟩]
  obtain ⟨m_hosts, hinit⟩ := hiff.mpr (by decide)
  refine ⟨m_hosts, hinit, (htable m_hosts hinit _ fun x hx y hy hconfusable => ?_).trans (if_pos (by decide))⟩
  simp only [List.mem_cons, List.not_mem_nil, or_false, or_self] at hx hy
  exact hconfusable.ne (hx.trans hy.symm)

end DistributedNetwork.EndPoints
