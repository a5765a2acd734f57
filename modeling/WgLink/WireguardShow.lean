import WgLink.Library.Fallible
import WgLink.Library.Rows
import WgLink.Shortcut.SystemPolicy
import WgLink.Wireguard

/-!
# Reading the state of a WireGuard interface

`wireguard::snapshot`, which calls `wg show` once for each field.  The device
may change from one call to the next, so each field of a snapshot comes from
the state at its own call.
-/

namespace WgLink

open WgLink.Library

/-- `wireguard::Peer` with all its fields. -/
structure WireguardPeer where
  publicKey : String
  endpoint : Option String
  allowedIps : List IpNet
  latestHandshake : UInt64
  receiveBytes : UInt64
  transmitBytes : UInt64
deriving DecidableEq

/-- `wireguard::Snapshot` with all its fields. -/
structure WireguardSnapshot where
  publicKey : String
  listenPort : UInt16
  peers : List WireguardPeer
deriving DecidableEq

/-- The part of a peer that the routing of shortcuts reads. -/
def WireguardPeer.routed (peer : WireguardPeer) : Peer :=
  ⟨peer.publicKey, peer.allowedIps, peer.latestHandshake⟩

/-- The part of a snapshot that the routing of shortcuts reads. -/
def WireguardSnapshot.routed (snapshot : WireguardSnapshot) : Snapshot :=
  ⟨snapshot.publicKey, snapshot.peers.map WireguardPeer.routed⟩

/-- `Snapshot::peer`. -/
def WireguardSnapshot.peer (snapshot : WireguardSnapshot)
    (publicKey : String) : Option WireguardPeer :=
  snapshot.peers.find? fun peer => peer.publicKey = publicKey

/-- The fields that are asked for. -/
inductive WgField where
  | publicKey
  | listenPort
  | endpoints
  | latestHandshakes
  | allowedIps
  | transfer
  | peers
deriving DecidableEq

def WgField.name : WgField → String
  | .publicKey => "public-key"
  | .listenPort => "listen-port"
  | .endpoints => "endpoints"
  | .latestHandshakes => "latest-handshakes"
  | .allowedIps => "allowed-ips"
  | .transfer => "transfer"
  | .peers => "peers"

/-- The program `wg`; a call may not even start. -/
abbrev WgTool := List String → Except String IpOutput

section Reading

variable (wg : WgTool) (interface : String)

/-- `output`. -/
def wgOutput (field : WgField) : Except String (List Char) :=
  match wg ["show", interface, field.name] with
  | .error _ =>
      .error ("failed to run wg show " ++ interface ++ " " ++ field.name)
  | .ok result =>
      if result.success then
        .ok (trim result.stdout.toList)
      else
        .error
          ("wg show " ++ interface ++ " " ++ field.name ++ " failed: " ++
            trimText result.stderr)

/-- The entries of `pairs`. -/
def pairEntries (text : List Char) : List (List Char × List Char) :=
  ((lines text).filterMap splitOnceWhitespace).map fun (key, value) =>
    (key, trim value)

/-- `pairs`. -/
def pairs (field : WgField) :
    Except String (HashMap (List Char) (List Char)) := do
  let text ← wgOutput wg interface field
  return HashMap.collect (pairEntries text)

/-- `u64::from_str`. -/
def parseU64 (text : List Char) : Option UInt64 :=
  (parseUnsigned (2 ^ 64) text).map UInt64.ofNat

/-- One line of `triples`. -/
def tripleEntry (line : List Char) :
    Option (List Char × UInt64 × UInt64) :=
  match splitWhitespace line with
  | key :: first :: second :: _ =>
      (parseU64 first).bind fun first =>
        (parseU64 second).map fun second => (key, first, second)
  | _ => none

/-- `triples`. -/
def triples (field : WgField) :
    Except String (HashMap (List Char) (UInt64 × UInt64)) := do
  let text ← wgOutput wg interface field
  return HashMap.collect ((lines text).filterMap tripleEntry)

/-- `parse_allowed_ips`; `parse` reads a prefix. -/
def parseAllowedIps (parse : List Char → Option IpNet)
    (value : Option (List Char)) : List IpNet :=
  ((value.toList.flatMap fun value =>
      value.splitOnP fun character =>
        character == ',' || character == ' ' || character == '\t').filter
    fun value => !value.isEmpty && value ≠ "(none)".toList).filterMap parse

/-- `snapshot`. -/
def wireguardSnapshot (parse : List Char → Option IpNet) :
    Except String WireguardSnapshot := do
  let publicKey ← wgOutput wg interface .publicKey
  if publicKey.isEmpty then
    throw ("wireguard interface " ++ interface ++ " has no public key")
  let portText ← wgOutput wg interface .listenPort
  let listenPort ←
    match parseUnsigned (2 ^ 16) portText with
    | none => throw ("invalid listen port on " ++ interface)
    | some port => pure (UInt16.ofNat port)
  if listenPort = 0 then
    throw ("wireguard interface " ++ interface ++ " has no listen port")
  let endpointMap ← pairs wg interface .endpoints
  let handshakeMap ← pairs wg interface .latestHandshakes
  let allowedIpsMap ← pairs wg interface .allowedIps
  let transferMap ← triples wg interface .transfer
  let peerText ← wgOutput wg interface .peers
  let peers :=
    ((lines peerText).filter fun line => !line.isEmpty).map fun key =>
      { publicKey := String.ofList key
        endpoint :=
          ((endpointMap.lookup key).filter fun value =>
            value ≠ "(none)".toList).map String.ofList
        allowedIps := parseAllowedIps parse (allowedIpsMap.lookup key)
        latestHandshake :=
          ((handshakeMap.lookup key).bind parseU64).getD 0
        receiveBytes := (transferMap.lookup key).elim 0 Prod.fst
        transmitBytes := (transferMap.lookup key).elim 0 Prod.snd :
          WireguardPeer }
  return ⟨String.ofList publicKey, listenPort, peers⟩

end Reading

/-! ## What `wg show` prints -/

section Printing

variable (display : IpNet → List Char)

/-- What stands for a value that is not there. -/
def noneText : List Char := "(none)".toList

/-- The allowed prefixes of a peer, separated by blanks. -/
def printAllowedIps (networks : List IpNet) : List Char :=
  if networks = [] then noneText else unwords (networks.map display)

/-- The value of a field in the row of a peer. -/
def printValue (field : WgField) (peer : WireguardPeer) : List Char :=
  match field with
  | .endpoints => peer.endpoint.elim noneText String.toList
  | .latestHandshakes => Nat.toDigits 10 peer.latestHandshake.toNat
  | .allowedIps => printAllowedIps display peer.allowedIps
  | .transfer =>
      row (Nat.toDigits 10 peer.receiveBytes.toNat)
        (Nat.toDigits 10 peer.transmitBytes.toNat)
  | _ => []

/-- What `wg show` prints for a field. -/
def printField (field : WgField) (device : WireguardSnapshot) : List Char :=
  match field with
  | .publicKey => device.publicKey.toList ++ ['\n']
  | .listenPort => Nat.toDigits 10 device.listenPort.toNat ++ ['\n']
  | .peers => unlines (device.peers.map fun peer => peer.publicKey.toList)
  | field =>
      unlines
        (device.peers.map fun peer =>
          row peer.publicKey.toList (printValue display field peer))

/-- The program answers each call with the state of the device at that
call. -/
def PrintsState (wg : WgTool) (interface : String)
    (at_ : WgField → WireguardSnapshot) : Prop :=
  ∀ field,
    ∃ stderr,
      wg ["show", interface, field.name] =
        .ok ⟨true, String.ofList (printField display field (at_ field)),
          stderr⟩

/-- The prefix is printed as a word without commas, and read back. -/
structure ReadsPrefix (parse : List Char → Option IpNet)
    (network : IpNet) : Prop where
  isWord : IsWord (display network)
  noComma : ',' ∉ display network
  notNone : display network ≠ noneText
  parsed : parse (display network) = some network

/-- A state that a configured interface can have. -/
structure ValidDevice (parse : List Char → Option IpNet)
    (device : WireguardSnapshot) : Prop where
  key : IsWord device.publicKey.toList
  port : device.listenPort ≠ 0
  peerKeys : ∀ peer ∈ device.peers, IsWord peer.publicKey.toList
  endpoints :
    ∀ peer ∈ device.peers, ∀ endpoint, peer.endpoint = some endpoint →
      IsWord endpoint.toList ∧ endpoint.toList ≠ noneText
  networks :
    ∀ peer ∈ device.peers, ∀ network ∈ peer.allowedIps,
      ReadsPrefix display parse network
  distinct : (device.peers.map WireguardPeer.publicKey).Nodup

end Printing

/-- Each field as it was at its own call. -/
def mergedSnapshot (at_ : WgField → WireguardSnapshot) :
    WireguardSnapshot where
  publicKey := (at_ .publicKey).publicKey
  listenPort := (at_ .listenPort).listenPort
  peers :=
    (at_ .peers).peers.map fun peer =>
      let found := fun field => (at_ field).peer peer.publicKey
      { publicKey := peer.publicKey
        endpoint := (found .endpoints).bind WireguardPeer.endpoint
        allowedIps := (found .allowedIps).elim [] WireguardPeer.allowedIps
        latestHandshake :=
          (found .latestHandshakes).elim 0 WireguardPeer.latestHandshake
        receiveBytes := (found .transfer).elim 0 WireguardPeer.receiveBytes
        transmitBytes :=
          (found .transfer).elim 0 WireguardPeer.transmitBytes }

/-! ## Reading back what was printed -/

section Merging

variable {wg : WgTool} {interface : String} {display : IpNet → List Char}
  {parse : List Char → Option IpNet} {at_ : WgField → WireguardSnapshot}

/-- The text of a field is the trimmed output. -/
theorem wgOutput_of_prints
    (prints : PrintsState display wg interface at_) (field : WgField) :
    wgOutput wg interface field =
      .ok (trim (printField display field (at_ field))) := by
  obtain ⟨stderr, printed⟩ := prints field
  unfold wgOutput
  rw [printed]
  simp only [if_true, String.toList_ofList]

theorem noneText_isWord : IsWord noneText := by
  decide

theorem parseU64_toDigits (number : UInt64) :
    parseU64 (Nat.toDigits 10 number.toNat) = some number := by
  have fits : number.toNat < 2 ^ 64 := number.toNat_lt
  unfold parseU64
  rw [parseUnsigned_toDigits fits, Option.map_some, UInt64.ofNat_toNat]

theorem printAllowedIps_tight
    {networks : List IpNet}
    (reads : ∀ network ∈ networks, ReadsPrefix display parse network) :
    IsTight (printAllowedIps display networks) := by
  unfold printAllowedIps
  by_cases empty : networks = []
  · rw [if_pos empty]
    exact noneText_isWord.tight
  · rw [if_neg empty]
    apply unwords_tight
    · rwa [Ne, List.map_eq_nil_iff]
    · intro word member
      obtain ⟨network, listed, same⟩ := List.mem_map.mp member
      rw [← same]
      exact (reads network listed).isWord

/-- The value in each row is printed on one line without blanks around
it. -/
theorem printValue_tight
    {device : WireguardSnapshot}
    (valid : ValidDevice display parse device) {peer : WireguardPeer}
    (member : peer ∈ device.peers) {field : WgField}
    (table :
      field = .endpoints ∨ field = .latestHandshakes ∨
        field = .allowedIps ∨ field = .transfer) :
    IsTight (printValue display field peer) := by
  rcases table with rfl | rfl | rfl | rfl
  · cases endpoint : peer.endpoint with
    | none =>
        simp only [printValue, endpoint, Option.elim_none]
        exact noneText_isWord.tight
    | some text =>
        simp only [printValue, endpoint, Option.elim_some]
        exact (valid.endpoints peer member text endpoint).1.tight
  · exact (isWord_toDigits _).tight
  · exact printAllowedIps_tight (valid.networks peer member)
  · exact row_tight (isWord_toDigits _) (isWord_toDigits _).tight

/-- The rows of a table are found in the trimmed output. -/
theorem lines_trim_table
    {device : WireguardSnapshot}
    (valid : ValidDevice display parse device) {field : WgField}
    (table :
      field = .endpoints ∨ field = .latestHandshakes ∨
        field = .allowedIps ∨ field = .transfer) :
    lines (trim (printField display field device)) =
      device.peers.map fun peer =>
        row peer.publicKey.toList (printValue display field peer) := by
  have printed :
      printField display field device =
        unlines
          (device.peers.map fun peer =>
            row peer.publicKey.toList (printValue display field peer)) := by
    rcases table with rfl | rfl | rfl | rfl <;> rfl
  rw [printed]
  apply lines_trim_unlines
  intro line lineMember
  obtain ⟨peer, member, same⟩ := List.mem_map.mp lineMember
  rw [← same]
  exact row_tight (valid.peerKeys peer member)
    (printValue_tight valid member table)

/-- The distinct keys of the peers as texts. -/
theorem ValidDevice.distinctTexts
    {device : WireguardSnapshot}
    (valid : ValidDevice display parse device) :
    (device.peers.map fun peer => peer.publicKey.toList).Nodup := by
  have injective : Function.Injective String.toList :=
    fun _ _ same => String.toList_inj.mp same
  have mapped := valid.distinct.map injective
  rw [List.map_map] at mapped
  exact mapped

theorem find?_publicKey
    (device : WireguardSnapshot) (publicKey : String) :
    (device.peers.find? fun peer =>
        decide (peer.publicKey.toList = publicKey.toList)) =
      device.peer publicKey := by
  unfold WireguardSnapshot.peer
  congr 1
  funext peer
  simp only [String.toList_inj]

/-- A table that was read holds the printed value of each peer. -/
theorem pairs_of_prints
    (valid : ∀ field, ValidDevice display parse (at_ field))
    (prints : PrintsState display wg interface at_) {field : WgField}
    (table :
      field = .endpoints ∨ field = .latestHandshakes ∨
        field = .allowedIps) :
    ∃ map, pairs wg interface field = .ok map ∧
      ∀ publicKey : String,
        map.lookup publicKey.toList =
          ((at_ field).peer publicKey).map (printValue display field) := by
  have tabular :
      field = .endpoints ∨ field = .latestHandshakes ∨
        field = .allowedIps ∨ field = .transfer := by
    rcases table with same | same | same
    · exact Or.inl same
    · exact Or.inr (Or.inl same)
    · exact Or.inr (Or.inr (Or.inl same))
  have entries :
      pairEntries (trim (printField display field (at_ field))) =
        (at_ field).peers.map fun peer =>
          (peer.publicKey.toList, printValue display field peer) := by
    unfold pairEntries
    rw [lines_trim_table (valid field) tabular, List.filterMap_map,
      List.map_filterMap, ← List.filterMap_eq_map]
    apply List.filterMap_congr
    intro peer member
    have tight := printValue_tight (valid field) member tabular
    simp only [Function.comp_apply,
      splitOnceWhitespace_row ((valid field).peerKeys peer member),
      Option.map_some, tight.trim]
  refine ⟨HashMap.collect
      (pairEntries (trim (printField display field (at_ field)))), ?_, ?_⟩
  · unfold pairs
    rw [wgOutput_of_prints prints field]
    rfl
  · intro publicKey
    rw [entries, HashMap.lookup_collect_map (valid field).distinctTexts,
      find?_publicKey]

theorem triples_of_prints
    (valid : ∀ field, ValidDevice display parse (at_ field))
    (prints : PrintsState display wg interface at_) :
    ∃ map, triples wg interface .transfer = .ok map ∧
      ∀ publicKey : String,
        map.lookup publicKey.toList =
          ((at_ .transfer).peer publicKey).map fun peer =>
            (peer.receiveBytes, peer.transmitBytes) := by
  have entries :
      (lines (trim (printField display .transfer (at_ .transfer)))).filterMap
          tripleEntry =
        (at_ .transfer).peers.map fun peer =>
          (peer.publicKey.toList,
            (peer.receiveBytes, peer.transmitBytes)) := by
    rw [lines_trim_table (valid .transfer)
        (Or.inr (Or.inr (Or.inr rfl))),
      List.filterMap_map, ← List.filterMap_eq_map]
    apply List.filterMap_congr
    intro peer member
    have words :
        splitWhitespace
            (row peer.publicKey.toList
              (printValue display .transfer peer)) =
          [peer.publicKey.toList,
            Nat.toDigits 10 peer.receiveBytes.toNat,
            Nat.toDigits 10 peer.transmitBytes.toNat] := by
      unfold printValue row
      rw [splitWhitespace_append ((valid .transfer).peerKeys peer member)
          (by decide),
        splitWhitespace_append (isWord_toDigits _) (by decide),
        splitWhitespace_word (isWord_toDigits _)]
    simp only [Function.comp_apply, tripleEntry, words, parseU64_toDigits,
      Option.bind_some, Option.map_some]
  refine ⟨HashMap.collect
      ((lines (trim (printField display .transfer (at_ .transfer)))).filterMap
        tripleEntry), ?_, ?_⟩
  · unfold triples
    rw [wgOutput_of_prints prints .transfer]
    rfl
  · intro publicKey
    rw [entries, HashMap.lookup_collect_map (valid .transfer).distinctTexts,
      find?_publicKey]

/-- Prefixes are read back as they were printed. -/
theorem parseAllowedIps_print
    {networks : List IpNet}
    (reads : ∀ network ∈ networks, ReadsPrefix display parse network) :
    parseAllowedIps parse (some (printAllowedIps display networks)) =
      networks := by
  unfold parseAllowedIps printAllowedIps
  by_cases empty : networks = []
  · have dropped :
        ((Option.toList (some noneText)).flatMap fun value =>
          value.splitOnP fun character =>
            character == ',' || character == ' ' || character == '\t').filter
          (fun value => !value.isEmpty && value ≠ "(none)".toList) =
        [] := by
      decide
    rw [if_pos empty, dropped, empty]
    rfl
  · have unbroken :
        ∀ word ∈ networks.map display, ∀ character ∈ word,
          (character == ',' || character == ' ' || character == '\t') =
            false := by
      intro word member character inWord
      obtain ⟨network, listed, same⟩ := List.mem_map.mp member
      subst same
      have black :=
        (reads network listed).isWord.unbroken character inWord
      have notComma : character ≠ ',' := by
        rintro rfl
        exact (reads network listed).noComma inWord
      have notBlank : character ≠ ' ' := by
        rintro rfl
        cases black
      have notTab : character ≠ '\t' := by
        rintro rfl
        cases black
      rw [beq_false_of_ne notComma, beq_false_of_ne notBlank,
        beq_false_of_ne notTab]
      rfl
    have words :=
      @splitOnP_unwords
        (fun character =>
          character == ',' || character == ' ' || character == '\t')
        rfl _ (by rwa [Ne, List.map_eq_nil_iff]) unbroken
    have kept :
        (networks.map display).filter
            (fun value => !value.isEmpty && value ≠ "(none)".toList) =
          networks.map display := by
      apply List.filter_eq_self.mpr
      intro word member
      obtain ⟨network, listed, same⟩ := List.mem_map.mp member
      subst same
      have filled := (reads network listed).isWord.nonempty
      have notNone := (reads network listed).notNone
      rw [Bool.and_eq_true, Bool.not_eq_true', List.isEmpty_eq_false_iff,
        decide_eq_true_eq]
      exact ⟨filled, notNone⟩
    have parsed :
        networks.filterMap (parse ∘ display) = networks.filterMap some :=
      List.filterMap_congr fun network listed =>
        (reads network listed).parsed
    rw [if_neg empty]
    simp only [Option.toList_some, List.flatMap_singleton, words, kept,
      List.filterMap_map, parsed, List.filterMap_some]

/-- The texts of the fields that are no tables. -/
theorem trim_publicKey
    {device : WireguardSnapshot}
    (valid : ValidDevice display parse device) :
    trim (printField display .publicKey device) =
      device.publicKey.toList :=
  valid.key.tight.trim_line

theorem trim_listenPort (device : WireguardSnapshot) :
    trim (printField display .listenPort device) =
      Nat.toDigits 10 device.listenPort.toNat :=
  (isWord_toDigits _).tight.trim_line

theorem lines_trim_peers
    {device : WireguardSnapshot}
    (valid : ValidDevice display parse device) :
    (lines (trim (printField display .peers device))).filter
        (fun line => !line.isEmpty) =
      device.peers.map fun peer => peer.publicKey.toList := by
  have keys :
      lines (trim (printField display .peers device)) =
        device.peers.map fun peer => peer.publicKey.toList := by
    apply lines_trim_unlines
    intro line lineMember
    obtain ⟨peer, member, same⟩ := List.mem_map.mp lineMember
    rw [← same]
    exact (valid.peerKeys peer member).tight
  rw [keys]
  apply List.filter_eq_self.mpr
  intro line lineMember
  obtain ⟨peer, member, same⟩ := List.mem_map.mp lineMember
  rw [← same, Bool.not_eq_true', List.isEmpty_eq_false_iff]
  exact (valid.peerKeys peer member).nonempty

/-- The endpoint that is read for a key. -/
theorem endpoint_read
    {device : WireguardSnapshot}
    (valid : ValidDevice display parse device) (publicKey : String) :
    ((((device.peer publicKey).map
          (printValue display .endpoints)).filter fun value =>
        value ≠ "(none)".toList).map String.ofList) =
      (device.peer publicKey).bind WireguardPeer.endpoint := by
  cases found : device.peer publicKey with
  | none =>
      rfl
  | some peer =>
      have member := List.mem_of_find?_eq_some found
      rw [Option.map_some, Option.bind_some]
      cases endpoint : peer.endpoint with
      | none =>
          have printed :
              printValue display .endpoints peer = "(none)".toList := by
            simp only [printValue, endpoint, Option.elim_none, noneText]
          simp only [printed, Option.filter_some, ne_eq, not_true_eq_false,
            decide_false, Bool.false_eq_true, if_false, Option.map_none]
      | some text =>
          have other : text.toList ≠ "(none)".toList :=
            (valid.endpoints peer member text endpoint).2
          have kept : decide (text.toList ≠ "(none)".toList) = true :=
            decide_eq_true other
          simp only [printValue, endpoint, Option.elim_some, Option.filter_some,
            kept, if_true, Option.map_some, String.ofList_toList]

theorem handshake_read
    (device : WireguardSnapshot) (publicKey : String) :
    ((((device.peer publicKey).map
          (printValue display .latestHandshakes)).bind parseU64).getD 0) =
      (device.peer publicKey).elim 0 WireguardPeer.latestHandshake := by
  cases device.peer publicKey with
  | none =>
      rfl
  | some peer =>
      simp only [Option.map_some, Option.bind_some, printValue,
        parseU64_toDigits, Option.getD_some, Option.elim_some]

theorem allowedIps_read
    {device : WireguardSnapshot}
    (valid : ValidDevice display parse device) (publicKey : String) :
    parseAllowedIps parse
        ((device.peer publicKey).map (printValue display .allowedIps)) =
      (device.peer publicKey).elim [] WireguardPeer.allowedIps := by
  cases found : device.peer publicKey with
  | none =>
      rfl
  | some peer =>
      have member := List.mem_of_find?_eq_some found
      exact parseAllowedIps_print (valid.networks peer member)

/-- A device that does not change while it is read is read as it is. -/
theorem mergedSnapshot_const
    {device : WireguardSnapshot}
    (valid : ValidDevice display parse device) :
    mergedSnapshot (fun _ => device) = device := by
  have same :
      ∀ peer ∈ device.peers, device.peer peer.publicKey = some peer := by
    intro peer member
    unfold WireguardSnapshot.peer
    cases found :
        device.peers.find? fun other =>
          decide (other.publicKey = peer.publicKey) with
    | none =>
        have absent := List.find?_eq_none.mp found peer member
        exact absurd (decide_eq_true rfl) absent
    | some other =>
        have accepted := List.find?_some found
        have sameKey : other.publicKey = peer.publicKey :=
          of_decide_eq_true accepted
        have samePeer : other = peer :=
          List.inj_on_of_nodup_map valid.distinct
            (List.mem_of_find?_eq_some found) member sameKey
        rw [samePeer]
  have peers :
      (mergedSnapshot fun _ => device).peers = device.peers := by
    conv_rhs => rw [← List.map_id device.peers]
    apply List.map_congr_left
    intro peer member
    simp only [same peer member, Option.bind_some, Option.elim_some, id]
  exact congrArg
    (WireguardSnapshot.mk device.publicKey device.listenPort) peers

theorem wgOutput_of_pairs
    {field : WgField} {map : HashMap (List Char) (List Char)}
    (read : pairs wg interface field = .ok map) :
    ∃ text, wgOutput wg interface field = .ok text := by
  obtain ⟨text, output, _⟩ := except_bind_eq_ok.mp read
  exact ⟨text, output⟩

/-- A snapshot is read only if every call succeeds. -/
theorem wgOutput_of_snapshot
    {snapshot : WireguardSnapshot}
    (read : wireguardSnapshot wg interface parse = .ok snapshot)
    (field : WgField) :
    ∃ text, wgOutput wg interface field = .ok text := by
  unfold wireguardSnapshot at read
  obtain ⟨publicKey, publicKeyRead, read⟩ := except_bind_eq_ok.mp read
  simp only at read
  split at read
  next => cases read
  obtain ⟨portText, portRead, read⟩ := except_bind_eq_ok.mp read
  split at read
  next => cases read
  obtain ⟨port, _, read⟩ := except_bind_eq_ok.mp read
  split at read
  next => cases read
  obtain ⟨endpoints, endpointsRead, read⟩ := except_bind_eq_ok.mp read
  obtain ⟨handshakes, handshakesRead, read⟩ := except_bind_eq_ok.mp read
  obtain ⟨allowed, allowedRead, read⟩ := except_bind_eq_ok.mp read
  obtain ⟨transfers, transfersRead, read⟩ := except_bind_eq_ok.mp read
  obtain ⟨peerText, peersRead, _⟩ := except_bind_eq_ok.mp read
  obtain ⟨transferText, transferOutput, _⟩ :=
    except_bind_eq_ok.mp transfersRead
  cases field with
  | publicKey => exact ⟨publicKey, publicKeyRead⟩
  | listenPort => exact ⟨portText, portRead⟩
  | endpoints => exact wgOutput_of_pairs endpointsRead
  | latestHandshakes => exact wgOutput_of_pairs handshakesRead
  | allowedIps => exact wgOutput_of_pairs allowedRead
  | transfer => exact ⟨transferText, transferOutput⟩
  | peers => exact ⟨peerText, peersRead⟩

theorem call_of_wgOutput
    {field : WgField} {text : List Char}
    (output : wgOutput wg interface field = .ok text) :
    ∃ result,
      wg ["show", interface, field.name] = .ok result ∧
        result.success = true := by
  unfold wgOutput at output
  split at output
  next => cases output
  next result called =>
    split at output
    next success => exact ⟨result, called, success⟩
    next => cases output

/-- A snapshot holds each field as the device had it at the call for that
field; a device that did not change is read as it is. -/
theorem snapshot_merges_fields
    (valid : ∀ field, ValidDevice display parse (at_ field))
    (prints : PrintsState display wg interface at_) :
    wireguardSnapshot wg interface parse = .ok (mergedSnapshot at_) ∧
      ∀ device, (∀ field, at_ field = device) →
        mergedSnapshot at_ = device := by
  constructor
  · obtain ⟨endpoints, endpointsRead, endpointOf⟩ :=
      pairs_of_prints valid prints (Or.inl rfl)
    obtain ⟨handshakes, handshakesRead, handshakeOf⟩ :=
      pairs_of_prints valid prints (Or.inr (Or.inl rfl))
    obtain ⟨allowed, allowedRead, allowedOf⟩ :=
      pairs_of_prints valid prints (Or.inr (Or.inr rfl))
    obtain ⟨transfers, transfersRead, transferOf⟩ :=
      triples_of_prints valid prints
    have keyed : (at_ .publicKey).publicKey.toList.isEmpty = false :=
      List.isEmpty_eq_false_iff.mpr (valid .publicKey).key.nonempty
    have port := (valid .listenPort).port
    have fits : (at_ .listenPort).listenPort.toNat < 2 ^ 16 :=
      (at_ .listenPort).listenPort.toNat_lt
    unfold wireguardSnapshot mergedSnapshot
    simp only [wgOutput_of_prints prints, trim_publicKey (valid .publicKey),
      trim_listenPort, parseUnsigned_toDigits fits, endpointsRead,
      handshakesRead, allowedRead, transfersRead,
      lines_trim_peers (valid .peers), keyed, UInt16.ofNat_toNat, port,
      bind, Except.bind, pure, Except.pure, Bool.false_eq_true, if_false,
      List.map_map, String.ofList_toList]
    congr 2
    apply List.map_congr_left
    intro peer _
    have received :
        (((at_ .transfer).peer peer.publicKey).map fun found =>
            (found.receiveBytes, found.transmitBytes)).elim 0 Prod.fst =
          ((at_ .transfer).peer peer.publicKey).elim 0
            WireguardPeer.receiveBytes := by
      cases (at_ .transfer).peer peer.publicKey <;> rfl
    have transmitted :
        (((at_ .transfer).peer peer.publicKey).map fun found =>
            (found.receiveBytes, found.transmitBytes)).elim 0 Prod.snd =
          ((at_ .transfer).peer peer.publicKey).elim 0
            WireguardPeer.transmitBytes := by
      cases (at_ .transfer).peer peer.publicKey <;> rfl
    simp only [Function.comp_apply, String.ofList_toList, endpointOf,
      handshakeOf, allowedOf, transferOf, received, transmitted,
      endpoint_read (valid .endpoints), handshake_read,
      allowedIps_read (valid .allowedIps)]
  · intro device unchanged
    have constant : at_ = fun _ => device := funext unchanged
    have deviceValid : ValidDevice display parse device := by
      rw [← unchanged .peers]
      exact valid .peers
    rw [constant]
    exact mergedSnapshot_const deviceValid

end Merging

/-! ## A device that changes while it is read -/

/-- A program that shows the state `at_ field` when it is asked for
`field`. -/
def showTool (display : IpNet → List Char)
    (at_ : WgField → WireguardSnapshot) : WgTool :=
  fun arguments =>
    match ([.publicKey, .listenPort, .endpoints, .latestHandshakes,
        .allowedIps, .transfer, .peers] : List WgField).find?
        fun field => arguments.getLast? = some field.name with
    | some field =>
        .ok ⟨true, String.ofList (printField display field (at_ field)), ""⟩
    | none => .error "no such field"

theorem showTool_prints (display : IpNet → List Char)
    (interface : String) (at_ : WgField → WireguardSnapshot) :
    PrintsState display (showTool display at_) interface at_ := by
  intro field
  refine ⟨"", ?_⟩
  cases field <;> rfl

/-- The network `10.9.0.0/24` as it is printed. -/
def displayNine : IpNet → List Char :=
  fun _ => "10.9.0.0/24".toList

def networkNine : IpNet :=
  .v4 0x0A090000 ((Fin.last 24).castAdd 8)

def parseNine (text : List Char) : Option IpNet :=
  if text = "10.9.0.0/24".toList then some networkNine else none

/-- A device before and after a second peer is added; the first peer has sent
data in the meantime. -/
def deviceBefore : WireguardSnapshot :=
  ⟨"own=", 51820, [⟨"a=", some "192.0.2.1:7", [networkNine], 5, 10, 20⟩]⟩

def deviceAfter : WireguardSnapshot :=
  ⟨"own=", 51820,
    [⟨"a=", some "192.0.2.1:7", [networkNine], 6, 11, 21⟩,
      ⟨"b=", some "192.0.2.2:7", [], 6, 1, 1⟩]⟩

/-- The transfers and the peers are read after the change. -/
def changingDevice (field : WgField) : WireguardSnapshot :=
  if field = .transfer ∨ field = .peers then deviceAfter else deviceBefore

theorem changingDevice_valid (field : WgField) :
    ValidDevice displayNine parseNine (changingDevice field) := by
  have nine : ReadsPrefix displayNine parseNine networkNine :=
    ⟨by decide, by decide, by decide, by decide⟩
  have before : ValidDevice displayNine parseNine deviceBefore := by
    refine ⟨by decide, by decide, by decide, ?_, ?_, by decide⟩
    · intro peer member endpoint present
      cases List.mem_singleton.mp member
      cases present
      decide
    · intro peer member network listed
      cases List.mem_singleton.mp member
      cases List.mem_singleton.mp listed
      exact nine
  have after : ValidDevice displayNine parseNine deviceAfter := by
    refine ⟨by decide, by decide, by decide, ?_, ?_, by decide⟩
    · intro peer member endpoint present
      rcases List.mem_pair.mp member with rfl | rfl <;>
        cases present <;> decide
    · intro peer member network listed
      rcases List.mem_pair.mp member with rfl | rfl
      · cases List.mem_singleton.mp listed
        exact nine
      · cases listed
  unfold changingDevice
  split
  · exact after
  · exact before

/-- The new peer is found without its endpoint. -/
theorem snapshot_merges_fields_changing :
    wireguardSnapshot (showTool displayNine changingDevice) "wg0" parseNine =
      .ok ⟨"own=", 51820,
        [⟨"a=", some "192.0.2.1:7", [networkNine], 5, 11, 21⟩,
          ⟨"b=", none, [], 0, 1, 1⟩]⟩ := by
  have merged :=
    (snapshot_merges_fields changingDevice_valid
      (showTool_prints displayNine "wg0" changingDevice)).1
  rw [merged]
  decide

end WgLink
