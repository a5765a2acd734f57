import WgLink.Library.Parse
import WgLink.Library.Utf8

/-!
# LAN announcements

The broadcast packets of `discovery/lan.rs`.  The encoder asserts that its
texts fit and aborts otherwise; the decoder reads what any host of the LAN may
send.
-/

namespace WgLink

open WgLink.Library
open WgLink.Library.Parsed

/-- `MAGIC`. -/
def announcementMagic : List UInt8 := asBytes "WGLAN01" ++ [0]

/-- `VERSION`. -/
def announcementVersion : UInt8 := 1

/-- `MAX_KEY_LEN` of `discovery/lan.rs`. -/
def maxNodeIdLen : Nat := 128

/-- `MAX_NETWORK_LEN`. -/
def maxNetworkLen : Nat := 64

/-- `Announcement`. -/
structure Announcement where
  nodeId : String
  network : String
  period : UInt64
  listenerPort : UInt16
deriving DecidableEq

/-- `encode_announcement`. -/
def encodeAnnouncement (announcement : Announcement) :
    Parsed (List UInt8) :=
  let key := asBytes announcement.nodeId
  let network := asBytes announcement.network
  if key.length ≤ maxNodeIdLen ∧ network.length ≤ maxNetworkLen then
    .accept
      (announcementMagic ++
        announcementVersion ::
          (beBytes 2 key.length ++
            (key ++
              (beBytes 8 announcement.period.toNat ++
                (beBytes 2 announcement.listenerPort.toNat ++
                  UInt8.ofNat network.length :: network)))))
  else
    .abort

/-- `decode_announcement`. -/
def decodeAnnouncement (packet : List UInt8) : Parsed Announcement :=
  if packet.length < announcementMagic.length + 1 + 2 + 8 + 2 + 1 then
    .reject
  else do
    let magic ← slice packet 0 announcementMagic.length
    if magic ≠ announcementMagic then
      .reject
    else do
      let version ← byteAt packet 8
      if version ≠ announcementVersion then
        .reject
      else do
        let keyLen ← wordAt packet 9
        if keyLen.toNat = 0 ∨ keyLen.toNat > maxNodeIdLen ∨
            11 + keyLen.toNat + 8 + 2 + 1 > packet.length then
          .reject
        else do
          let key ← slice packet 11 (11 + keyLen.toNat)
          let nodeId ← ofOption (fromUtf8 key)
          let cursor := 11 + keyLen.toNat
          let period ←
            ofOption (asArray 8 (← slice packet cursor (cursor + 8)))
          let listenerPort ← wordAt packet (cursor + 8)
          let networkLen ← byteAt packet (cursor + 10)
          if networkLen.toNat = 0 ∨ networkLen.toNat > maxNetworkLen ∨
              cursor + 11 + networkLen.toNat ≠ packet.length then
            .reject
          else do
            let network ←
              ofOption (fromUtf8 (← sliceFrom packet (cursor + 11)))
            .accept
              { nodeId
                network
                period := UInt64.ofNat (beValue period.toList)
                listenerPort }

theorem length_announcementMagic : announcementMagic.length = 8 := by
  decide

/-! ## No read is out of range -/

theorem decodeAnnouncement_ne_abort (packet : List UInt8) :
    decodeAnnouncement packet ≠ abort := by
  unfold decodeAnnouncement
  rw [length_announcementMagic]
  by_cases short : packet.length < 8 + 1 + 2 + 8 + 2 + 1
  · rw [if_pos short]
    exact reject_ne_abort
  rw [if_neg short]
  apply bind_ne_abort (slice_ne_abort (by omega) (by omega))
  intro magic _
  by_cases foreign : magic ≠ announcementMagic
  · rw [if_pos foreign]
    exact reject_ne_abort
  rw [if_neg foreign]
  apply bind_ne_abort (byteAt_ne_abort (by omega))
  intro version _
  by_cases other : version ≠ announcementVersion
  · rw [if_pos other]
    exact reject_ne_abort
  rw [if_neg other]
  apply bind_ne_abort (wordAt_ne_abort (by omega))
  intro keyLen _
  by_cases unfit :
      keyLen.toNat = 0 ∨ keyLen.toNat > maxNodeIdLen ∨
        11 + keyLen.toNat + 8 + 2 + 1 > packet.length
  · rw [if_pos unfit]
    exact reject_ne_abort
  rw [if_neg unfit]
  apply bind_ne_abort (slice_ne_abort (by omega) (by omega))
  intro key _
  apply bind_ne_abort (ofOption_ne_abort _)
  intro nodeId _
  apply bind_ne_abort (slice_ne_abort (by omega) (by omega))
  intro periodBytes _
  apply bind_ne_abort (ofOption_ne_abort _)
  intro period _
  apply bind_ne_abort (wordAt_ne_abort (by omega))
  intro listenerPort _
  apply bind_ne_abort (byteAt_ne_abort (by omega))
  intro networkLen _
  by_cases wrong :
      networkLen.toNat = 0 ∨ networkLen.toNat > maxNetworkLen ∨
        11 + keyLen.toNat + 11 + networkLen.toNat ≠ packet.length
  · rw [if_pos wrong]
    exact reject_ne_abort
  rw [if_neg wrong]
  apply bind_ne_abort (sliceFrom_ne_abort (by omega))
  intro networkBytes _
  apply bind_ne_abort (ofOption_ne_abort _)
  intro network _
  exact accept_ne_abort _

/-! ## Exactly the encoded packets are accepted -/

/-- The texts of an announcement have lengths that are accepted. -/
structure Announcement.Fits (announcement : Announcement) : Prop where
  nodeIdSome : 1 ≤ (asBytes announcement.nodeId).length
  nodeIdFits : (asBytes announcement.nodeId).length ≤ 128
  networkSome : 1 ≤ (asBytes announcement.network).length
  networkFits : (asBytes announcement.network).length ≤ 64

theorem encodeAnnouncement_of_fits
    {announcement : Announcement} (fits : announcement.Fits) :
    encodeAnnouncement announcement =
      .accept
        (announcementMagic ++
          announcementVersion ::
            (beBytes 2 (asBytes announcement.nodeId).length ++
              (asBytes announcement.nodeId ++
                (beBytes 8 announcement.period.toNat ++
                  (beBytes 2 announcement.listenerPort.toNat ++
                    UInt8.ofNat (asBytes announcement.network).length ::
                      asBytes announcement.network))))) :=
  if_pos ⟨fits.nodeIdFits, fits.networkFits⟩

theorem encode_of_decode
    {packet : List UInt8} {announcement : Announcement}
    (decoded : decodeAnnouncement packet = .accept announcement) :
    encodeAnnouncement announcement = .accept packet ∧
      announcement.Fits := by
  unfold decodeAnnouncement at decoded
  rw [length_announcementMagic] at decoded
  split at decoded
  · cases decoded
  obtain ⟨magic, magicRead, decoded⟩ := bind_eq_accept.mp decoded
  split at decoded
  · cases decoded
  rename_i ours
  obtain ⟨version, versionRead, decoded⟩ := bind_eq_accept.mp decoded
  split at decoded
  · cases decoded
  rename_i current
  obtain ⟨keyLen, keyLenRead, decoded⟩ := bind_eq_accept.mp decoded
  split at decoded
  · cases decoded
  rename_i keyFits
  obtain ⟨key, keyRead, decoded⟩ := bind_eq_accept.mp decoded
  obtain ⟨nodeId, nodeIdRead, decoded⟩ := bind_eq_accept.mp decoded
  obtain ⟨periodBytes, periodBytesRead, decoded⟩ := bind_eq_accept.mp decoded
  obtain ⟨period, periodRead, decoded⟩ := bind_eq_accept.mp decoded
  obtain ⟨listenerPort, portRead, decoded⟩ := bind_eq_accept.mp decoded
  obtain ⟨networkLen, networkLenRead, decoded⟩ := bind_eq_accept.mp decoded
  split at decoded
  · cases decoded
  rename_i networkFits
  obtain ⟨networkBytes, networkBytesRead, decoded⟩ :=
    bind_eq_accept.mp decoded
  obtain ⟨network, networkRead, decoded⟩ := bind_eq_accept.mp decoded
  cases decoded
  rw [not_not] at ours current
  subst ours current
  simp only [not_or, maxNodeIdLen, maxNetworkLen] at keyFits networkFits
  have nodeIdBytes := asBytes_of_fromUtf8 (ofOption_eq_accept.mp nodeIdRead)
  have networkIs := asBytes_of_fromUtf8 (ofOption_eq_accept.mp networkRead)
  obtain ⟨afterMagic, _⟩ := drop_of_slice magicRead
  have afterVersion := drop_of_byteAt versionRead
  have afterKeyLen := drop_of_wordAt keyLenRead
  obtain ⟨afterKey, keyLength⟩ := drop_of_slice keyRead
  obtain ⟨afterPeriod, periodLength⟩ := drop_of_slice periodBytesRead
  have afterPort := drop_of_wordAt portRead
  have afterNetworkLen := drop_of_byteAt networkLenRead
  rw [sliceFrom_eq_accept (by omega)] at networkBytesRead
  have periodIs := toList_of_asArray (ofOption_eq_accept.mp periodRead)
  have nodeIdLength : (asBytes nodeId).length = keyLen.toNat := by
    rw [nodeIdBytes, keyLength]
    omega
  have networkLength : (asBytes network).length = networkLen.toNat := by
    rw [networkIs, networkBytesRead, List.length_drop]
    omega
  have fits : (Announcement.mk nodeId network
      (UInt64.ofNat (beValue period.toList)) listenerPort).Fits := by
    constructor <;> simp only <;> omega
  refine ⟨?_, fits⟩
  rw [encodeAnnouncement_of_fits fits]
  simp only
  rw [nodeIdLength, networkLength, UInt8.ofNat_toNat,
    beBytes_toNat_ofNat period.toList_length, periodIs, nodeIdBytes,
    networkIs, networkBytesRead, ← afterNetworkLen, ← afterPort, ← afterPeriod,
    ← afterKey, ← afterKeyLen, ← afterVersion, ← afterMagic, List.drop_zero]

theorem decode_of_encode
    {packet : List UInt8} {announcement : Announcement}
    (fits : announcement.Fits)
    (encoded : encodeAnnouncement announcement = .accept packet) :
    decodeAnnouncement packet = .accept announcement := by
  obtain ⟨nodeId, network, period, listenerPort⟩ := announcement
  have nodeIdSome := fits.nodeIdSome
  have nodeIdFits := fits.nodeIdFits
  have networkSome := fits.networkSome
  have networkFits := fits.networkFits
  rw [encodeAnnouncement_of_fits fits] at encoded
  simp only at nodeIdSome nodeIdFits networkSome networkFits encoded
  have layout := Parsed.accept.inj encoded
  have keyLenValue :
      (UInt16.ofNat (asBytes nodeId).length).toNat =
        (asBytes nodeId).length := by
    rw [UInt16.toNat_ofNat']
    omega
  have networkLenValue :
      (UInt8.ofNat (asBytes network).length).toNat =
        (asBytes network).length := by
    rw [UInt8.toNat_ofNat']
    omega
  have length :
      packet.length =
        22 + (asBytes nodeId).length + (asBytes network).length := by
    rw [← layout]
    simp only [List.length_append, List.length_cons, length_beBytes,
      length_announcementMagic]
    omega
  have start : packet.drop 0 = announcementMagic ++ _ := layout.symm
  obtain ⟨magicRead, afterMagic⟩ := slice_of_drop start (Nat.zero_le _)
  rw [length_announcementMagic, Nat.zero_add] at magicRead afterMagic
  obtain ⟨versionRead, afterVersion⟩ := byteAt_of_drop afterMagic
  rw [← keyLenValue] at afterVersion
  obtain ⟨keyLenRead, afterKeyLen⟩ := wordAt_of_drop afterVersion
  obtain ⟨keyRead, afterKey⟩ := slice_of_drop afterKeyLen (by omega)
  obtain ⟨periodRead, afterPeriod⟩ := slice_of_drop afterKey (by omega)
  rw [length_beBytes] at periodRead afterPeriod
  obtain ⟨portRead, afterPort⟩ := wordAt_of_drop afterPeriod
  obtain ⟨networkLenRead, afterNetworkLen⟩ := byteAt_of_drop afterPort
  obtain ⟨array, arrayIs⟩ :
      ∃ array : List.Vector UInt8 8,
        array.toList = beBytes 8 period.toNat :=
    ⟨⟨beBytes 8 period.toNat, length_beBytes 8 _⟩, rfl⟩
  have periodArray : asArray 8 (beBytes 8 period.toNat) = some array := by
    rw [← arrayIs]
    exact asArray_toList array
  have networkRead :
      sliceFrom packet (11 + (asBytes nodeId).length + 11) =
        .accept (asBytes network) := by
    rw [sliceFrom_eq_accept (by omega)]
    exact afterNetworkLen.symm
  unfold decodeAnnouncement
  rw [length_announcementMagic, if_neg (by omega), magicRead, accept_bind,
    if_neg (not_not.mpr rfl), versionRead, accept_bind,
    if_neg (not_not.mpr rfl), keyLenRead, accept_bind, keyLenValue,
    if_neg (by unfold maxNodeIdLen; omega), keyRead, accept_bind,
    fromUtf8_asBytes, ofOption_some, accept_bind]
  simp only
  rw [periodRead, accept_bind, periodArray, ofOption_some, accept_bind,
    portRead, accept_bind, networkLenRead, accept_bind, networkLenValue,
    if_neg (by unfold maxNetworkLen; omega), networkRead, accept_bind,
    fromUtf8_asBytes, ofOption_some, accept_bind, arrayIs,
    ofNat_beValue_beBytes]

/-- Decoding never reads out of range and accepts exactly the encodings of
announcements whose texts fit. -/
theorem announcement_exact :
    (∀ packet, decodeAnnouncement packet ≠ .abort) ∧
    ∀ packet announcement,
      decodeAnnouncement packet = .accept announcement ↔
        encodeAnnouncement announcement = .accept packet ∧
          announcement.Fits := by
  refine ⟨decodeAnnouncement_ne_abort, ?_⟩
  intro packet announcement
  constructor
  · intro decoded
    exact encode_of_decode decoded
  · intro encoded
    exact decode_of_encode encoded.2 encoded.1

end WgLink
