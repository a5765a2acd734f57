import WgLink.Library.BigEndian
import WgLink.Library.Parse
import WgLink.Library.Utf8
import WgLink.Shortcut.Device

/-!
# Frames of the relay

The frames of `easytier.rs`: `encodeFrame` and `decodeFrame` with their two
magics and three channels.  The decoder is a `Parsed` computation, whose reads
abort out of range as the slices of the source do.
-/

namespace WgLink

open WgLink.Library WgLink.Library.Parsed

/-- `LEGACY_FRAME_MAGIC`. -/
def legacyFrameMagic : Bytes := asBytes "WGLINK01"

/-- `TYPED_FRAME_MAGIC`. -/
def typedFrameMagic : Bytes := asBytes "WGLINK02"

/-- `MAX_KEY_LEN`. -/
def maxKeyLen : Nat := 128

/-- `SHORTCUT_CHANNEL`. -/
def shortcutChannel : UInt8 := 1

/-- `PROBE_REQUEST_CHANNEL`. -/
def probeRequestChannel : UInt8 := 2

/-- `PROBE_RESPONSE_CHANNEL`. -/
def probeResponseChannel : UInt8 := 3

/-- `DecodedFrame`. -/
structure DecodedFrame where
  source : String
  target : String
  channel : RelayChannel
  payload : Bytes
deriving DecidableEq

/-- `encode_legacy_frame`. -/
def encodeLegacyFrame (source target : String) (payload : Bytes) : Bytes :=
  legacyFrameMagic ++
    beBytes 2 (asBytes source).length ++
    beBytes 2 (asBytes target).length ++
    asBytes source ++
    asBytes target ++
    payload

/-- The bytes that `encode_frame` puts between the magic and the lengths of a
typed frame. -/
def encodeMetadata : RelayChannel → Bytes
  | .baseWireGuard => []
  | .shortcutWireGuard session =>
      shortcutChannel ::
        (session.shortcutId.bytes.toList ++ beBytes 8 session.epoch.toNat)
  | .pathProbe nonce sentMicros reply =>
      (if reply then probeResponseChannel else probeRequestChannel) ::
        (beBytes 8 nonce.toNat ++ beBytes 8 sentMicros.toNat)

/-- `encode_frame`. -/
def encodeFrame
    (source target : String) (channel : RelayChannel) (payload : Bytes) :
    Bytes :=
  if channel = .baseWireGuard then
    encodeLegacyFrame source target payload
  else
    typedFrameMagic ++
      encodeMetadata channel ++
      beBytes 2 (asBytes source).length ++
      beBytes 2 (asBytes target).length ++
      asBytes source ++
      asBytes target ++
      payload

/-- `decode_keys_and_payload`. -/
def decodeKeysAndPayload (frame : Bytes) (lengthsOffset : Nat) :
    Parsed (String × String × Bytes) :=
  if frame.length < lengthsOffset + 4 then
    .reject
  else do
    let sourceHigh ← byteAt frame lengthsOffset
    let sourceLow ← byteAt frame (lengthsOffset + 1)
    let sourceLen := beValue [sourceHigh, sourceLow]
    let targetHigh ← byteAt frame (lengthsOffset + 2)
    let targetLow ← byteAt frame (lengthsOffset + 3)
    let targetLen := beValue [targetHigh, targetLow]
    if sourceLen = 0 ∨ targetLen = 0 ∨
        sourceLen > maxKeyLen ∨ targetLen > maxKeyLen then
      .reject
    else do
      let offset := lengthsOffset + 4
      let sourceEnd ← ofOption (checkedAdd offset sourceLen)
      let targetEnd ← ofOption (checkedAdd sourceEnd targetLen)
      if targetEnd ≥ frame.length then
        .reject
      else do
        let source ← ofOption (fromUtf8 (← slice frame offset sourceEnd))
        let target ← ofOption (fromUtf8 (← slice frame sourceEnd targetEnd))
        let payload ← sliceFrom frame targetEnd
        pure (source, target, payload)

/-- The channel of a typed frame and the offset of its lengths: the `match` on
the channel id in `decode_frame`. -/
def decodeMetadata (frame : Bytes) : Parsed (RelayChannel × Nat) := do
  let channelId ← byteAt frame typedFrameMagic.length
  let metadataOffset := typedFrameMagic.length + 1
  if channelId = shortcutChannel then
    if frame.length < metadataOffset + 24 + 4 then
      .reject
    else do
      let shortcutId ←
        ofOption (asArray 16
          (← slice frame metadataOffset (metadataOffset + 16)))
      let epoch ←
        ofOption (asArray 8
          (← slice frame (metadataOffset + 16) (metadataOffset + 24)))
      pure
        (.shortcutWireGuard
          ⟨⟨shortcutId⟩, UInt64.ofNat (beValue epoch.toList)⟩,
          metadataOffset + 24)
  else if channelId = probeRequestChannel ∨
      channelId = probeResponseChannel then
    if frame.length < metadataOffset + 16 + 4 then
      .reject
    else do
      let nonce ←
        ofOption (asArray 8
          (← slice frame metadataOffset (metadataOffset + 8)))
      let sentMicros ←
        ofOption (asArray 8
          (← slice frame (metadataOffset + 8) (metadataOffset + 16)))
      pure
        (.pathProbe (UInt64.ofNat (beValue nonce.toList))
          (UInt64.ofNat (beValue sentMicros.toList))
          (channelId == probeResponseChannel),
          metadataOffset + 16)
  else
    .reject

/-- `decode_frame`. -/
def decodeFrame (frame : Bytes) : Parsed DecodedFrame :=
  if legacyFrameMagic.isPrefixOf frame then do
    let (source, target, payload) ←
      decodeKeysAndPayload frame legacyFrameMagic.length
    pure { source, target, channel := .baseWireGuard, payload }
  else if frame.length < typedFrameMagic.length + 21 ∨
      ¬ typedFrameMagic.isPrefixOf frame then
    .reject
  else do
    let (channel, lengthsOffset) ← decodeMetadata frame
    let (source, target, payload) ← decodeKeysAndPayload frame lengthsOffset
    pure { source, target, channel, payload }

/-! ## Keys and payload -/

/-- The part of a frame that follows its channel: what both encoders append
last. -/
def encodeKeys (source target : String) (payload : Bytes) : Bytes :=
  beBytes 2 (asBytes source).length ++
    (beBytes 2 (asBytes target).length ++
      (asBytes source ++ (asBytes target ++ payload)))

/-- A key that fits into a frame. -/
def KeyFits (key : String) : Prop :=
  1 ≤ (asBytes key).length ∧ (asBytes key).length ≤ maxKeyLen

/-- The bytes after the lengths, cut into keys and payload. -/
def splitKeys (sourceLen targetLen : Nat) (body : Bytes) :
    Parsed (String × String × Bytes) :=
  if sourceLen = 0 ∨ targetLen = 0 ∨
      sourceLen > maxKeyLen ∨ targetLen > maxKeyLen then
    .reject
  else if body.length ≤ sourceLen + targetLen then
    .reject
  else do
    let source ← ofOption (fromUtf8 (body.take sourceLen))
    let target ← ofOption (fromUtf8 ((body.drop sourceLen).take targetLen))
    pure (source, target, body.drop (sourceLen + targetLen))

section Lengths

variable {frame front body : Bytes} {offset : Nat}
  {sourceHigh sourceLow targetHigh targetLow : UInt8}

/-- The reads of the two lengths. -/
theorem lengths_reads
    (frontLength : front.length = offset)
    (shape :
      frame =
        front ++ sourceHigh :: sourceLow :: targetHigh :: targetLow :: body) :
    byteAt frame offset = .accept sourceHigh ∧
      byteAt frame (offset + 1) = .accept sourceLow ∧
      byteAt frame (offset + 2) = .accept targetHigh ∧
      byteAt frame (offset + 3) = .accept targetLow ∧
      frame.length = offset + 4 + body.length := by
  subst frontLength shape
  have readByte :=
    byteAt_append front
      (sourceHigh :: sourceLow :: targetHigh :: targetLow :: body)
  refine ⟨readByte 0, readByte 1, readByte 2, readByte 3, ?_⟩
  simp only [List.length_append, List.length_cons]
  omega

/-- Behind the lengths the reads are reads of the body. -/
theorem body_reads
    (frontLength : front.length = offset)
    (shape :
      frame =
        front ++ sourceHigh :: sourceLow :: targetHigh :: targetLow :: body)
    (start stop : Nat) :
    slice frame (offset + 4 + start) (offset + 4 + stop) =
        slice body start stop ∧
      sliceFrom frame (offset + 4 + start) = sliceFrom body start := by
  have behind :
      frame =
        front ++ [sourceHigh, sourceLow, targetHigh, targetLow] ++ body := by
    rw [shape, List.append_assoc]
    rfl
  have behindLength :
      (front ++ [sourceHigh, sourceLow, targetHigh, targetLow]).length =
        offset + 4 := by
    rw [List.length_append, frontLength]
    rfl
  rw [behind, ← behindLength, slice_append, sliceFrom_append]
  exact ⟨rfl, rfl⟩

end Lengths

theorem decodeKeysAndPayload_append
    {front : Bytes} {lengthsOffset : Nat}
    (sourceHigh sourceLow targetHigh targetLow : UInt8) (body : Bytes)
    (offset : front.length = lengthsOffset) (small : lengthsOffset ≤ 64) :
    decodeKeysAndPayload
        (front ++ sourceHigh :: sourceLow :: targetHigh :: targetLow :: body)
        lengthsOffset =
      splitKeys (beValue [sourceHigh, sourceLow])
        (beValue [targetHigh, targetLow]) body := by
  generalize shape :
    front ++ sourceHigh :: sourceLow :: targetHigh :: targetLow :: body = frame
  obtain ⟨first, second, third, fourth, length⟩ :=
    lengths_reads offset shape.symm
  have bodyReads := body_reads offset shape.symm
  unfold decodeKeysAndPayload splitKeys
  rw [if_neg (by omega)]
  simp only [first, second, third, fourth, accept_bind]
  generalize beValue [sourceHigh, sourceLow] = sourceLen
  generalize beValue [targetHigh, targetLow] = targetLen
  split
  · rfl
  rename_i lengthsFit
  simp only [not_or, Nat.not_lt, maxKeyLen] at lengthsFit
  obtain ⟨-, -, sourceFits, targetFits⟩ := lengthsFit
  have sourceEnd :
      checkedAdd (lengthsOffset + 4) sourceLen =
        some (lengthsOffset + 4 + sourceLen) :=
    checkedAdd_of_lt (by omega)
  have targetEnd :
      checkedAdd (lengthsOffset + 4 + sourceLen) targetLen =
        some (lengthsOffset + 4 + sourceLen + targetLen) :=
    checkedAdd_of_lt (by omega)
  simp only [sourceEnd, targetEnd, ofOption_some, accept_bind]
  by_cases short : body.length ≤ sourceLen + targetLen
  · rw [if_pos (by omega), if_pos short]
  rw [if_neg (by omega), if_neg short]
  have sourceSlice :
      slice frame (lengthsOffset + 4) (lengthsOffset + 4 + sourceLen) =
        .accept (body.take sourceLen) := by
    have read := (bodyReads 0 sourceLen).1
    rw [slice_of_le (Nat.zero_le _) (by omega)] at read
    exact read
  have targetSlice :
      slice frame (lengthsOffset + 4 + sourceLen)
          (lengthsOffset + 4 + sourceLen + targetLen) =
        .accept ((body.drop sourceLen).take targetLen) := by
    rw [Nat.add_assoc _ sourceLen, (bodyReads _ _).1,
      slice_of_le (Nat.le_add_right _ _) (by omega),
      Nat.add_sub_cancel_left]
  have payloadSlice :
      sliceFrom frame (lengthsOffset + 4 + sourceLen + targetLen) =
        .accept (body.drop (sourceLen + targetLen)) := by
    rw [Nat.add_assoc _ sourceLen, (bodyReads _ 0).2,
      sliceFrom_of_le (by omega)]
  simp only [sourceSlice, targetSlice, payloadSlice, accept_bind]

theorem splitKeys_ne_abort (sourceLen targetLen : Nat) (body : Bytes) :
    splitKeys sourceLen targetLen body ≠ .abort := by
  unfold splitKeys
  split
  · exact reject_ne_abort
  split
  · exact reject_ne_abort
  apply bind_ne_abort (ofOption_ne_abort _)
  intro source _
  apply bind_ne_abort (ofOption_ne_abort _)
  intro target _
  exact accept_ne_abort _

theorem splitKeys_eq_accept
    {sourceLen targetLen : Nat} {body payload : Bytes}
    {source target : String} :
    splitKeys sourceLen targetLen body = .accept (source, target, payload) ↔
      body = asBytes source ++ (asBytes target ++ payload) ∧
        sourceLen = (asBytes source).length ∧
        targetLen = (asBytes target).length ∧
        KeyFits source ∧ KeyFits target ∧ payload ≠ [] := by
  unfold splitKeys KeyFits
  constructor
  · intro accepted
    split at accepted
    · cases accepted
    rename_i lengthsFit
    split at accepted
    · cases accepted
    rename_i long
    rw [bind_eq_accept] at accepted
    obtain ⟨sourceKey, sourceDecoded, accepted⟩ := accepted
    rw [bind_eq_accept] at accepted
    obtain ⟨targetKey, targetDecoded, accepted⟩ := accepted
    cases accepted
    have sourceBytes := asBytes_of_fromUtf8 (ofOption_eq_accept.mp sourceDecoded)
    have targetBytes := asBytes_of_fromUtf8 (ofOption_eq_accept.mp targetDecoded)
    have sourceLength : (asBytes source).length = sourceLen := by
      rw [sourceBytes, List.length_take]
      omega
    have targetLength : (asBytes target).length = targetLen := by
      rw [targetBytes, List.length_take, List.length_drop]
      omega
    refine ⟨?_, sourceLength.symm, targetLength.symm, ?_, ?_, ?_⟩
    · rw [sourceBytes, targetBytes, ← List.drop_drop, List.take_append_drop,
        List.take_append_drop]
    · omega
    · omega
    · intro empty
      rw [List.drop_eq_nil_iff] at empty
      exact long empty
  · rintro ⟨rfl, rfl, rfl, sourceFits, targetFits, nonempty⟩
    have some := List.length_pos_iff.mpr nonempty
    rw [if_neg (by omega), if_neg, List.take_left, List.drop_left,
      List.take_left, fromUtf8_asBytes, fromUtf8_asBytes, ← List.append_assoc,
      ← List.length_append, List.drop_left]
    · rfl
    · rw [List.length_append, List.length_append]
      omega

theorem decodeKeysAndPayload_of_drop
    (frame : Bytes) {lengthsOffset : Nat} (small : lengthsOffset ≤ 64) :
    (frame.length < lengthsOffset + 4 ∧
        decodeKeysAndPayload frame lengthsOffset = .reject) ∨
      ∃ sourceHigh sourceLow targetHigh targetLow body,
        frame.drop lengthsOffset =
            sourceHigh :: sourceLow :: targetHigh :: targetLow :: body ∧
          decodeKeysAndPayload frame lengthsOffset =
            splitKeys (beValue [sourceHigh, sourceLow])
              (beValue [targetHigh, targetLow]) body := by
  by_cases short : frame.length < lengthsOffset + 4
  · refine Or.inl ⟨short, ?_⟩
    unfold decodeKeysAndPayload
    rw [if_pos short]
  · have restLength := List.length_drop (l := frame) (i := lengthsOffset)
    have rejoined := List.take_append_drop lengthsOffset frame
    have frontLength : (frame.take lengthsOffset).length = lengthsOffset := by
      rw [List.length_take]
      omega
    match rest : frame.drop lengthsOffset with
    | sourceHigh :: sourceLow :: targetHigh :: targetLow :: body =>
        refine Or.inr ⟨sourceHigh, sourceLow, targetHigh, targetLow, body,
          rfl, ?_⟩
        rw [rest] at rejoined
        have decoded := decodeKeysAndPayload_append sourceHigh sourceLow
          targetHigh targetLow body frontLength small
        rw [rejoined] at decoded
        exact decoded
    | [] | [_] | [_, _] | [_, _, _] =>
        simp only [rest, List.length_cons, List.length_nil] at restLength
        omega

theorem decodeKeysAndPayload_ne_abort
    {frame : Bytes} {lengthsOffset : Nat} (small : lengthsOffset ≤ 64) :
    decodeKeysAndPayload frame lengthsOffset ≠ .abort := by
  rcases decodeKeysAndPayload_of_drop frame small with
    ⟨_, rejected⟩ | ⟨_, _, _, _, _, _, decoded⟩
  · rw [rejected]
    exact reject_ne_abort
  · rw [decoded]
    exact splitKeys_ne_abort _ _ _

theorem KeyFits.beValue_length {key : String} (fits : KeyFits key) :
    beValue (beBytes 2 (asBytes key).length) = (asBytes key).length := by
  obtain ⟨_, bound⟩ := fits
  unfold maxKeyLen at bound
  apply beValue_beBytes
  omega

theorem decodeKeysAndPayload_eq_accept
    {frame payload : Bytes} {lengthsOffset : Nat} {source target : String}
    (small : lengthsOffset ≤ 64) :
    decodeKeysAndPayload frame lengthsOffset =
        .accept (source, target, payload) ↔
      frame.drop lengthsOffset = encodeKeys source target payload ∧
        KeyFits source ∧ KeyFits target ∧ payload ≠ [] := by
  rcases decodeKeysAndPayload_of_drop frame small with
    ⟨short, rejected⟩ |
      ⟨sourceHigh, sourceLow, targetHigh, targetLow, body, rest, decoded⟩
  · rw [rejected]
    constructor
    · intro accepted
      cases accepted
    · rintro ⟨encoded, _⟩
      have lengths := congrArg List.length encoded
      simp only [encodeKeys, List.length_drop, List.length_append,
        length_beBytes] at lengths
      omega
  · rw [decoded, splitKeys_eq_accept, rest]
    constructor
    · rintro ⟨rfl, sourceLen, targetLen, fits⟩
      have sourceBytes := beBytes_beValue [sourceHigh, sourceLow]
      have targetBytes := beBytes_beValue [targetHigh, targetLow]
      rw [sourceLen] at sourceBytes
      rw [targetLen] at targetBytes
      refine ⟨?_, fits⟩
      unfold encodeKeys
      rw [show 2 = [sourceHigh, sourceLow].length from rfl, sourceBytes]
      rw [show [sourceHigh, sourceLow].length =
        [targetHigh, targetLow].length from rfl, targetBytes]
      rfl
    · rintro ⟨encoded, sourceFits, targetFits, nonempty⟩
      have grouped :
          [sourceHigh, sourceLow] ++ ([targetHigh, targetLow] ++ body) =
            encodeKeys source target payload :=
        encoded
      obtain ⟨sourceBytes, grouped⟩ :=
        List.append_inj grouped (length_beBytes 2 _).symm
      obtain ⟨targetBytes, same⟩ :=
        List.append_inj grouped (length_beBytes 2 _).symm
      rw [sourceBytes, targetBytes, sourceFits.beValue_length,
        targetFits.beValue_length]
      exact ⟨same, rfl, rfl, sourceFits, targetFits, nonempty⟩

/-! ## The channel -/

/-- The part of a frame before its lengths. -/
def encodeHeader (channel : RelayChannel) : Bytes :=
  if channel = .baseWireGuard then legacyFrameMagic
  else typedFrameMagic ++ encodeMetadata channel

theorem encodeFrame_eq
    (source target : String) (channel : RelayChannel) (payload : Bytes) :
    encodeFrame source target channel payload =
      encodeHeader channel ++ encodeKeys source target payload := by
  unfold encodeFrame encodeLegacyFrame encodeHeader encodeKeys
  split <;> simp only [List.append_assoc]

theorem encodeHeader_shortcut (session : SessionKey) :
    encodeHeader (.shortcutWireGuard session) =
      typedFrameMagic ++
        shortcutChannel ::
          (session.shortcutId.bytes.toList ++
            beBytes 8 session.epoch.toNat) := by
  rfl

theorem encodeHeader_probe (nonce sentMicros : UInt64) (reply : Bool) :
    encodeHeader (.pathProbe nonce sentMicros reply) =
      typedFrameMagic ++
        (if reply then probeResponseChannel else probeRequestChannel) ::
          (beBytes 8 nonce.toNat ++ beBytes 8 sentMicros.toNat) := by
  rfl

/-- The reads of two fields behind the channel id. -/
theorem metadata_reads
    {first second : Nat} (channelId : UInt8) (firstField : ByteVector first)
    (secondField : ByteVector second) (rest : Bytes)
    {frame : Bytes}
    (shape :
      frame =
        typedFrameMagic ++
          channelId :: (firstField.toList ++ (secondField.toList ++ rest))) :
    byteAt frame typedFrameMagic.length = .accept channelId ∧
      slice frame (typedFrameMagic.length + 1)
          (typedFrameMagic.length + 1 + first) =
        .accept firstField.toList ∧
      slice frame (typedFrameMagic.length + 1 + first)
          (typedFrameMagic.length + 1 + first + second) =
        .accept secondField.toList ∧
      frame.length =
        typedFrameMagic.length + 1 + first + second + rest.length := by
  have grouped :
      frame =
        typedFrameMagic ++ [channelId] ++
          (firstField.toList ++ (secondField.toList ++ rest)) := by
    rw [shape, List.append_assoc]
    rfl
  refine ⟨?_, ?_, ?_, ?_⟩
  · rw [shape]
    exact byteAt_append typedFrameMagic _ 0
  · rw [grouped]
    exact slice_array firstField _ List.length_append
  · rw [grouped, ← List.append_assoc _ firstField.toList]
    apply slice_array
    rw [List.length_append, List.length_append, List.length_singleton,
      firstField.toList_length]
  · simp only [grouped, List.length_append, List.length_singleton,
      List.Vector.toList_length]
    omega

theorem exists_wordArray (word : UInt64) :
    ∃ array : ByteVector 8, array.toList = beBytes 8 word.toNat :=
  ⟨⟨beBytes 8 word.toNat, length_beBytes _ _⟩, rfl⟩

theorem decodeMetadata_shortcut (session : SessionKey) (rest : Bytes) :
    decodeMetadata (encodeHeader (.shortcutWireGuard session) ++ rest) =
      if rest.length < 4 then .reject
      else
        .accept
          (.shortcutWireGuard session, typedFrameMagic.length + 25) := by
  obtain ⟨epoch, epochBytes⟩ := exists_wordArray session.epoch
  have shape :
      encodeHeader (.shortcutWireGuard session) ++ rest =
        typedFrameMagic ++
          shortcutChannel ::
            (session.shortcutId.bytes.toList ++ (epoch.toList ++ rest)) := by
    simp only [encodeHeader_shortcut, epochBytes, List.append_assoc,
      List.cons_append]
  generalize encodeHeader (.shortcutWireGuard session) ++ rest = frame at *
  obtain ⟨channelByte, firstSlice, secondSlice, length⟩ :=
    metadata_reads shortcutChannel session.shortcutId.bytes epoch rest shape
  unfold decodeMetadata
  simp only [channelByte, accept_bind, if_true]
  by_cases short : rest.length < 4
  · rw [if_pos (by omega), if_pos short]
  · rw [if_neg (by omega), if_neg short]
    simp only [firstSlice, secondSlice, asArray_toList, ofOption_some,
      accept_bind, pure_eq]
    rw [epochBytes, ofNat_beValue_beBytes]

theorem decodeMetadata_probe
    (nonce sentMicros : UInt64) (reply : Bool) (rest : Bytes) :
    decodeMetadata
        (encodeHeader (.pathProbe nonce sentMicros reply) ++ rest) =
      if rest.length < 4 then .reject
      else
        .accept
          (.pathProbe nonce sentMicros reply,
            typedFrameMagic.length + 17) := by
  obtain ⟨nonceArray, nonceBytes⟩ := exists_wordArray nonce
  obtain ⟨sentArray, sentBytes⟩ := exists_wordArray sentMicros
  have shape :
      encodeHeader (.pathProbe nonce sentMicros reply) ++ rest =
        typedFrameMagic ++
          (if reply then probeResponseChannel else probeRequestChannel) ::
            (nonceArray.toList ++ (sentArray.toList ++ rest)) := by
    simp only [encodeHeader_probe, nonceBytes, sentBytes,
      List.append_assoc, List.cons_append]
  generalize
    encodeHeader (.pathProbe nonce sentMicros reply) ++ rest = frame at *
  obtain ⟨channelByte, firstSlice, secondSlice, length⟩ :=
    metadata_reads _ nonceArray sentArray rest shape
  have notShortcut :
      (if reply then probeResponseChannel else probeRequestChannel) ≠
        shortcutChannel := by
    cases reply <;> decide
  have probe :
      (if reply then probeResponseChannel else probeRequestChannel) =
          probeRequestChannel ∨
        (if reply then probeResponseChannel else probeRequestChannel) =
          probeResponseChannel := by
    cases reply
    · exact Or.inl rfl
    · exact Or.inr rfl
  have direction :
      ((if reply then probeResponseChannel else probeRequestChannel) ==
        probeResponseChannel) = reply := by
    cases reply <;> rfl
  unfold decodeMetadata
  simp only [channelByte, accept_bind]
  rw [if_neg notShortcut, if_pos probe, direction]
  by_cases short : rest.length < 4
  · rw [if_pos (by omega), if_pos short]
  · rw [if_neg (by omega), if_neg short]
    simp only [firstSlice, secondSlice, asArray_toList, ofOption_some,
      accept_bind, pure_eq]
    rw [nonceBytes, sentBytes, ofNat_beValue_beBytes, ofNat_beValue_beBytes]

/-- A typed header is read back when the lengths follow it. -/
theorem decodeMetadata_encodeHeader
    {channel : RelayChannel} (rest : Bytes)
    (typed : channel ≠ .baseWireGuard) :
    decodeMetadata (encodeHeader channel ++ rest) =
      if rest.length < 4 then .reject
      else .accept (channel, (encodeHeader channel).length) := by
  cases channel with
  | baseWireGuard =>
      exact absurd rfl typed
  | shortcutWireGuard session =>
      rw [decodeMetadata_shortcut, encodeHeader_shortcut,
        List.length_append, List.length_cons, List.length_append,
        List.Vector.toList_length, length_beBytes]
  | pathProbe nonce sentMicros reply =>
      rw [decodeMetadata_probe, encodeHeader_probe,
        List.length_append, List.length_cons, List.length_append,
        length_beBytes, length_beBytes]

/-- A frame with the typed magic has a typed header or is turned down. -/
theorem header_or_reject
    {frame : Bytes}
    (magic : typedFrameMagic <+: frame)
    (long : typedFrameMagic.length + 21 ≤ frame.length) :
    (∃ channel rest,
        channel ≠ .baseWireGuard ∧ frame = encodeHeader channel ++ rest) ∨
      decodeMetadata frame = .reject := by
  obtain ⟨rest, rfl⟩ := magic
  rw [List.length_append] at long
  cases rest with
  | nil =>
      rw [List.length_nil] at long
      omega
  | cons channelId body =>
      rw [List.length_cons] at long
      have channelByte :
          byteAt (typedFrameMagic ++ channelId :: body)
              typedFrameMagic.length =
            .accept channelId :=
        byteAt_append typedFrameMagic (channelId :: body) 0
      by_cases shortcut : channelId = shortcutChannel
      · by_cases short : body.length < 28
        · right
          unfold decodeMetadata
          rw [channelByte, accept_bind, if_pos shortcut, if_pos]
          rw [List.length_append, List.length_cons]
          omega
        · left
          have longBody : 16 ≤ body.length := by omega
          obtain ⟨shortcutId, tail, rfl⟩ := exists_array_append 16 longBody
          rw [List.length_append, shortcutId.toList_length] at short
          have longTail : 8 ≤ tail.length := by omega
          obtain ⟨epoch, rest, rfl⟩ := exists_array_append 8 longTail
          refine ⟨.shortcutWireGuard
            ⟨⟨shortcutId⟩, UInt64.ofNat (beValue epoch.toList)⟩, rest,
            RelayChannel.noConfusion, ?_⟩
          rw [encodeHeader_shortcut,
            beBytes_toNat_ofNat epoch.toList_length, shortcut]
          simp only [List.append_assoc, List.cons_append]
      · by_cases probe :
            channelId = probeRequestChannel ∨
              channelId = probeResponseChannel
        · left
          have longBody : 8 ≤ body.length := by omega
          obtain ⟨nonce, tail, rfl⟩ := exists_array_append 8 longBody
          rw [List.length_append, nonce.toList_length] at long
          have longTail : 8 ≤ tail.length := by omega
          obtain ⟨sentMicros, rest, rfl⟩ := exists_array_append 8 longTail
          refine ⟨.pathProbe (UInt64.ofNat (beValue nonce.toList))
            (UInt64.ofNat (beValue sentMicros.toList))
            (channelId == probeResponseChannel), rest,
            RelayChannel.noConfusion, ?_⟩
          rw [encodeHeader_probe,
            beBytes_toNat_ofNat nonce.toList_length,
            beBytes_toNat_ofNat sentMicros.toList_length]
          rcases probe with rfl | rfl <;>
            simp only [List.append_assoc, List.cons_append] <;> rfl
        · right
          unfold decodeMetadata
          rw [channelByte, accept_bind, if_neg shortcut, if_neg probe]

/-! ## Whole frames -/

/-- Frames that the encoder can write: keys of 1 to 128 bytes and a payload. -/
def DecodedFrame.WellFormed (decoded : DecodedFrame) : Prop :=
  KeyFits decoded.source ∧ KeyFits decoded.target ∧ decoded.payload ≠ []

/-- The frame of the decoded parts. -/
def DecodedFrame.encode (decoded : DecodedFrame) : Bytes :=
  encodeFrame decoded.source decoded.target decoded.channel decoded.payload

/-- The length of a frame before its lengths. -/
def headerLength : RelayChannel → Nat
  | .baseWireGuard => 8
  | .shortcutWireGuard _ => 33
  | .pathProbe _ _ _ => 25

theorem length_encodeHeader (channel : RelayChannel) :
    (encodeHeader channel).length = headerLength channel := by
  cases channel with
  | baseWireGuard =>
      decide
  | shortcutWireGuard session =>
      rw [encodeHeader_shortcut, List.length_append, List.length_cons,
        List.length_append, List.Vector.toList_length, length_beBytes]
      rfl
  | pathProbe nonce sentMicros reply =>
      rw [encodeHeader_probe, List.length_append, List.length_cons,
        List.length_append, length_beBytes, length_beBytes]
      rfl

theorem headerLength_le (channel : RelayChannel) :
    (encodeHeader channel).length ≤ 64 := by
  rw [length_encodeHeader]
  cases channel <;> simp only [headerLength] <;> omega

/-- The two magics are told apart. -/
theorem not_legacy_of_typed
    {frame : Bytes} (typed : typedFrameMagic <+: frame) :
    ¬ legacyFrameMagic.isPrefixOf frame := by
  rw [List.isPrefixOf_iff_prefix]
  intro legacy
  have shorter : legacyFrameMagic <+: typedFrameMagic :=
    List.prefix_of_prefix_length_le legacy typed (by decide)
  exact absurd (shorter.eq_of_length (by decide)) (by decide)

/-- A frame with a header is decoded by its keys and payload. -/
theorem decodeFrame_encodeHeader (channel : RelayChannel) (rest : Bytes) :
    decodeFrame (encodeHeader channel ++ rest) =
      (do
        let (source, target, payload) ←
          decodeKeysAndPayload (encodeHeader channel ++ rest)
            (encodeHeader channel).length
        pure { source, target, channel, payload }) := by
  unfold decodeFrame
  by_cases legacy : channel = .baseWireGuard
  · subst legacy
    rw [if_pos]
    · rfl
    · rw [List.isPrefixOf_iff_prefix]
      exact List.prefix_append _ _
  have magic : typedFrameMagic <+: encodeHeader channel ++ rest := by
    unfold encodeHeader
    rw [if_neg legacy, List.append_assoc]
    exact List.prefix_append _ _
  have typedLength : 25 ≤ (encodeHeader channel).length := by
    rw [length_encodeHeader]
    cases channel with
    | baseWireGuard =>
        exact absurd rfl legacy
    | shortcutWireGuard session =>
        exact Nat.le_add_left 25 8
    | pathProbe nonce sentMicros reply =>
        exact Nat.le_refl 25
  have magicLength : typedFrameMagic.length = 8 := by decide
  rw [if_neg (not_legacy_of_typed magic)]
  by_cases short : rest.length < 4
  · have rejected :
        decodeKeysAndPayload (encodeHeader channel ++ rest)
            (encodeHeader channel).length =
          .reject := by
      unfold decodeKeysAndPayload
      rw [if_pos]
      rw [List.length_append]
      omega
    rw [rejected, decodeMetadata_encodeHeader rest legacy, if_pos short,
      reject_bind, reject_bind, ite_self]
  · rw [if_neg, decodeMetadata_encodeHeader rest legacy, if_neg short]
    · rfl
    · rw [List.isPrefixOf_iff_prefix, List.length_append]
      rintro (tooShort | otherMagic)
      · omega
      · exact otherMagic magic

/-- Every frame has a header or is turned down. -/
theorem decodeFrame_cases (frame : Bytes) :
    (∃ channel rest, frame = encodeHeader channel ++ rest) ∨
      decodeFrame frame = .reject := by
  by_cases legacy : legacyFrameMagic.isPrefixOf frame
  · left
    obtain ⟨rest, rfl⟩ := List.isPrefixOf_iff_prefix.mp legacy
    exact ⟨.baseWireGuard, rest, rfl⟩
  by_cases outer :
      frame.length < typedFrameMagic.length + 21 ∨
        ¬ typedFrameMagic.isPrefixOf frame
  · right
    unfold decodeFrame
    rw [if_neg legacy, if_pos outer]
  have long : typedFrameMagic.length + 21 ≤ frame.length := by
    rw [not_or] at outer
    omega
  have magic : typedFrameMagic <+: frame := by
    rw [not_or, not_not, List.isPrefixOf_iff_prefix] at outer
    exact outer.2
  rcases header_or_reject magic long with
    ⟨channel, rest, _, same⟩ | rejected
  · exact Or.inl ⟨channel, rest, same⟩
  · right
    unfold decodeFrame
    rw [if_neg legacy, if_neg outer, rejected, reject_bind]

theorem decodeFrame_ne_abort (frame : Bytes) : decodeFrame frame ≠ .abort := by
  rcases decodeFrame_cases frame with ⟨channel, rest, rfl⟩ | rejected
  · rw [decodeFrame_encodeHeader]
    apply bind_ne_abort
      (decodeKeysAndPayload_ne_abort (headerLength_le channel))
    intro parts _
    exact accept_ne_abort _
  · rw [rejected]
    exact reject_ne_abort

theorem decodeFrame_eq_accept {frame : Bytes} {decoded : DecodedFrame} :
    decodeFrame frame = .accept decoded ↔
      decoded.WellFormed ∧ frame = decoded.encode := by
  unfold DecodedFrame.WellFormed DecodedFrame.encode
  rw [encodeFrame_eq]
  constructor
  · intro accepted
    rcases decodeFrame_cases frame with ⟨channel, rest, rfl⟩ | rejected
    · rw [decodeFrame_encodeHeader, bind_eq_accept] at accepted
      obtain ⟨⟨source, target, payload⟩, keys, same⟩ := accepted
      cases same
      rw [decodeKeysAndPayload_eq_accept (headerLength_le channel),
        List.drop_left] at keys
      obtain ⟨rfl, wellFormed⟩ := keys
      exact ⟨wellFormed, rfl⟩
    · rw [rejected] at accepted
      cases accepted
  · rintro ⟨wellFormed, rfl⟩
    rw [decodeFrame_encodeHeader, bind_eq_accept]
    refine ⟨(decoded.source, decoded.target, decoded.payload), ?_, rfl⟩
    rw [decodeKeysAndPayload_eq_accept (headerLength_le decoded.channel),
      List.drop_left]
    exact ⟨rfl, wellFormed⟩

/-- The decoder never reads out of range, and it accepts exactly the encoder's
frames, each with the parts it was made of. -/
theorem relayFrame_exact :
    (∀ frame, decodeFrame frame ≠ .abort) ∧
      (∀ frame decoded,
        decodeFrame frame = .accept decoded ↔
          decoded.WellFormed ∧ frame = decoded.encode) ∧
      ∀ left right : DecodedFrame,
        left.WellFormed → right.WellFormed → left.encode = right.encode →
        left = right := by
  refine ⟨decodeFrame_ne_abort, fun _ _ => decodeFrame_eq_accept, ?_⟩
  intro left right leftFormed rightFormed same
  have leftDecoded := decodeFrame_eq_accept.mpr ⟨leftFormed, rfl⟩
  have rightDecoded := decodeFrame_eq_accept.mpr ⟨rightFormed, rfl⟩
  rw [same, rightDecoded] at leftDecoded
  cases leftDecoded
  rfl

/-- A probe response comes back as it was sent. -/
theorem relayFrame_exact_probe :
    decodeFrame
        (encodeFrame "source" "target" (.pathProbe 42 123456 true)
          (asBytes "p")) =
      .accept
        { source := "source"
          target := "target"
          channel := .pathProbe 42 123456 true
          payload := asBytes "p" } := by
  apply (relayFrame_exact.2.1 _ _).mpr
  refine ⟨⟨⟨?_, ?_⟩, ⟨?_, ?_⟩, ?_⟩, rfl⟩ <;> decide

end WgLink
