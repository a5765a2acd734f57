import WgLink.Library.Parse
import WgLink.Net

/-!
# STUN responses

`parse_xor_mapped` of `discovery/stun.rs` walks the attributes of a binding
response.  Offsets are natural numbers: the code adds at most 65542 to an offset
inside a received message.
-/

namespace WgLink

open WgLink.Library
open WgLink.Library.Parsed

/-- `MAGIC_COOKIE`. -/
def magicCookie : UInt32 := 0x2112A442

/-- `MAGIC_COOKIE.to_be_bytes()`. -/
def cookieBytes : List UInt8 := beBytes 4 magicCookie.toNat

/-- `(MAGIC_COOKIE >> 16) as u16`. -/
def portMask : UInt16 := (magicCookie >>> 16).toUInt16

/-- Byte by byte exclusive or. -/
def xorBytes (bytes mask : List UInt8) : List UInt8 :=
  List.zipWith (· ^^^ ·) bytes mask

/-- The body of the loop for an attribute that lies inside the message. -/
def xorMapped
    (message : List UInt8) (kind : UInt16) (valueStart length : Nat) :
    Parsed (Option SocketAddr) :=
  if kind = 0x0020 ∧ length ≥ 8 then do
    let family ← byteAt message (valueStart + 1)
    let masked ← wordAt message (valueStart + 2)
    let port := masked ^^^ portMask
    if family = 0x01 ∧ length ≥ 8 then do
      let first ← byteAt message (valueStart + 4)
      let second ← byteAt message (valueStart + 5)
      let third ← byteAt message (valueStart + 6)
      let fourth ← byteAt message (valueStart + 7)
      .accept <| some
        ⟨ipv4Addr (xorBytes [first, second, third, fourth] cookieBytes), port⟩
    else if family = 0x02 ∧ length ≥ 20 then do
      let transaction ← slice message 8 20
      let address ← slice message (valueStart + 4) (valueStart + 20)
      .accept <| some
        ⟨ipv6Addr (xorBytes address (cookieBytes ++ transaction)), port⟩
    else
      .accept none
  else
    .accept none

/-- The loop of `parse_xor_mapped` from an offset on. -/
def parseXorMappedFrom (message : List UInt8) (offset : Nat) :
    Parsed (Except String SocketAddr) :=
  if offset + 4 ≤ message.length then do
    let kind ← wordAt message offset
    let length ← wordAt message (offset + 2)
    let valueStart := offset + 4
    let valueEnd := valueStart + length.toNat
    if valueEnd > message.length then
      .accept (.error "STUN response has no XOR-MAPPED-ADDRESS")
    else do
      let found ← xorMapped message kind valueStart length.toNat
      match found with
      | some address => .accept (.ok address)
      | none => parseXorMappedFrom message ((valueEnd + 3) / 4 * 4)
  else
    .accept (.error "STUN response has no XOR-MAPPED-ADDRESS")
termination_by message.length - offset
decreasing_by omega

/-- `parse_xor_mapped`. -/
def parseXorMapped (message : List UInt8) :
    Parsed (Except String SocketAddr) :=
  parseXorMappedFrom message 20

/-! ## Every message is parsed without a read out of range -/

theorem xorMapped_returns
    {message : List UInt8} {valueStart length : Nat} (kind : UInt16)
    (afterHeader : 20 ≤ valueStart)
    (inside : valueStart + length ≤ message.length) :
    ∃ found, xorMapped message kind valueStart length = .accept found := by
  unfold xorMapped
  by_cases candidate : kind = 0x0020 ∧ length ≥ 8
  · rw [if_pos candidate]
    have long := candidate.2
    obtain ⟨family, familyRead⟩ :=
      exists_byteAt (show valueStart + 1 < message.length by omega)
    obtain ⟨masked, maskedRead⟩ :=
      exists_wordAt (show valueStart + 2 + 1 < message.length by omega)
    rw [familyRead, accept_bind, maskedRead, accept_bind]
    simp only
    by_cases v4 : family = 0x01 ∧ length ≥ 8
    · rw [if_pos v4]
      obtain ⟨first, firstRead⟩ :=
        exists_byteAt (show valueStart + 4 < message.length by omega)
      obtain ⟨second, secondRead⟩ :=
        exists_byteAt (show valueStart + 5 < message.length by omega)
      obtain ⟨third, thirdRead⟩ :=
        exists_byteAt (show valueStart + 6 < message.length by omega)
      obtain ⟨fourth, fourthRead⟩ :=
        exists_byteAt (show valueStart + 7 < message.length by omega)
      rw [firstRead, accept_bind, secondRead, accept_bind, thirdRead,
        accept_bind, fourthRead]
      exact ⟨_, rfl⟩
    · rw [if_neg v4]
      by_cases v6 : family = 0x02 ∧ length ≥ 20
      · rw [if_pos v6]
        have longer := v6.2
        rw [slice_of_le (by omega) (by omega), accept_bind,
          slice_of_le (by omega) (by omega)]
        exact ⟨_, rfl⟩
      · rw [if_neg v6]
        exact ⟨none, rfl⟩
  · rw [if_neg candidate]
    exact ⟨none, rfl⟩

/-- The loop ends with a result from every offset behind the header. -/
theorem parseXorMappedFrom_returns
    {message : List UInt8} {offset : Nat} (afterHeader : 20 ≤ offset) :
    ∃ result, parseXorMappedFrom message offset = .accept result := by
  induction remaining : message.length - offset using Nat.strong_induction_on
    generalizing offset with
  | h measure inductionHypothesis =>
      rw [parseXorMappedFrom]
      by_cases inside : offset + 4 ≤ message.length
      · rw [if_pos inside]
        obtain ⟨kind, kindRead⟩ :=
          exists_wordAt (show offset + 1 < message.length by omega)
        obtain ⟨length, lengthRead⟩ :=
          exists_wordAt (show offset + 2 + 1 < message.length by omega)
        rw [kindRead, accept_bind, lengthRead, accept_bind]
        simp only
        by_cases truncated : offset + 4 + length.toNat > message.length
        · rw [if_pos truncated]
          exact ⟨_, rfl⟩
        · rw [if_neg truncated]
          obtain ⟨found, read⟩ :=
            xorMapped_returns kind
              (show 20 ≤ offset + 4 by omega)
              (show offset + 4 + length.toNat ≤ message.length by omega)
          rw [read, accept_bind]
          cases found with
          | some address =>
              exact ⟨_, rfl⟩
          | none =>
              exact inductionHypothesis _ (by omega) (by omega) rfl
      · rw [if_neg inside]
        exact ⟨_, rfl⟩

/-! ## Encoded attributes -/

/-- An attribute as it is sent: type, length, value and padding to a multiple
of four bytes. -/
structure StunAttribute where
  kind : UInt16
  value : List UInt8
  padding : List UInt8
  short : value.length < 65536
  aligned : padding.length = (4 - value.length % 4) % 4

namespace StunAttribute

def encode (entry : StunAttribute) : List UInt8 :=
  beBytes 2 entry.kind.toNat ++
    (beBytes 2 entry.value.length ++
      (entry.value ++ entry.padding))

/-- An attribute from which the address is taken. -/
def Qualifies (entry : StunAttribute) : Prop :=
  entry.kind = 0x0020 ∧
    (entry.value[1]? = some 0x01 ∧ 8 ≤ entry.value.length ∨
      entry.value[1]? = some 0x02 ∧ 20 ≤ entry.value.length)

/-- The value holds the address: a byte that is not used, the family, the port
and the octets, the last two masked. -/
def Encodes
    (header : List.Vector UInt8 20) (entry : StunAttribute)
    (address : SocketAddr) : Prop :=
  ∃ reserved rest,
    (∃ bits,
      address.ip = .v4 bits ∧
      entry.value =
        reserved :: 0x01 ::
          (beBytes 2 (address.port ^^^ portMask).toNat ++
            (xorBytes (beBytes 4 bits.toNat) cookieBytes ++ rest))) ∨
    (∃ bits,
      address.ip = .v6 bits ∧
      entry.value =
        reserved :: 0x02 ::
          (beBytes 2 (address.port ^^^ portMask).toNat ++
            (xorBytes (beBytes 16 bits.toNat)
              (cookieBytes ++ header.toList.drop 8) ++ rest)))

end StunAttribute

theorem length_cookieBytes : cookieBytes.length = 4 :=
  length_beBytes 4 _

theorem length_xorBytes
    {bytes mask : List UInt8} (covered : bytes.length = mask.length) :
    (xorBytes bytes mask).length = bytes.length := by
  unfold xorBytes
  rw [List.length_zipWith, covered, Nat.min_self]

/-- Masking twice restores the bytes. -/
theorem xorBytes_xorBytes
    {bytes mask : List UInt8} (covered : bytes.length = mask.length) :
    xorBytes (xorBytes bytes mask) mask = bytes := by
  unfold xorBytes
  induction bytes generalizing mask with
  | nil =>
      rfl
  | cons byte rest inductionHypothesis =>
      cases mask with
      | nil =>
          cases covered
      | cons first others =>
          rw [List.zipWith_cons_cons, List.zipWith_cons_cons,
            inductionHypothesis (Nat.succ.inj covered), UInt8.xor_assoc,
            UInt8.xor_self, UInt8.xor_zero]

theorem xor_portMask (word : UInt16) :
    word ^^^ portMask ^^^ portMask = word := by
  rw [UInt16.xor_assoc, UInt16.xor_self, UInt16.xor_zero]

/-! ## One attribute -/

/-- Port and octets can be read off their masked forms. -/
theorem masked_inj
    {width : Nat} {mask firstRest secondRest : List UInt8}
    {firstPort secondPort : UInt16} {first second : BitVec (8 * width)}
    (covered : mask.length = width)
    (same :
      beBytes 2 (firstPort ^^^ portMask).toNat ++
          (xorBytes (beBytes width first.toNat) mask ++ firstRest) =
        beBytes 2 (secondPort ^^^ portMask).toNat ++
          (xorBytes (beBytes width second.toNat) mask ++ secondRest)) :
    firstPort = secondPort ∧ first = second := by
  have masked :
      ∀ bits : BitVec (8 * width),
        (beBytes width bits.toNat).length = mask.length := by
    intro bits
    rw [length_beBytes, covered]
  have bounded : ∀ bits : BitVec (8 * width), bits.toNat < 256 ^ width := by
    intro bits
    have bound := bits.isLt
    rw [pow_mul] at bound
    exact bound
  obtain ⟨ports, octets⟩ :=
    List.append_inj same (by rw [length_beBytes, length_beBytes])
  have octetsSame :=
    (List.append_inj octets (by
      rw [length_xorBytes (masked first), length_xorBytes (masked second),
        masked, masked])).1
  constructor
  · have unmasked :=
      UInt16.toNat_inj.mp
        (beBytes_inj (UInt16.toNat_lt _) (UInt16.toNat_lt _) ports)
    rw [← xor_portMask firstPort, unmasked, xor_portMask]
  · have unmasked := congrArg (fun bytes => xorBytes bytes mask) octetsSame
    simp only [xorBytes_xorBytes (masked _)] at unmasked
    exact BitVec.eq_of_toNat_eq
      (beBytes_inj (bounded first) (bounded second) unmasked)

/-- An attribute encodes at most one address. -/
theorem StunAttribute.Encodes.unique
    {header : List.Vector UInt8 20} {entry : StunAttribute}
    {first second : SocketAddr}
    (firstEncoded : entry.Encodes header first)
    (secondEncoded : entry.Encodes header second) :
    first = second := by
  obtain ⟨firstIp, firstPort⟩ := first
  obtain ⟨secondIp, secondPort⟩ := second
  have covered : (cookieBytes ++ header.toList.drop 8).length = 16 := by
    rw [List.length_append, length_cookieBytes, List.length_drop,
      header.toList_length]
  obtain ⟨_, _, ⟨bits, ip, value⟩ | ⟨bits, ip, value⟩⟩ := firstEncoded
  · obtain ⟨_, _, ⟨other, otherIp, same⟩ | ⟨other, otherIp, same⟩⟩ :=
      secondEncoded
    · rw [value, List.cons.injEq, List.cons.injEq] at same
      obtain ⟨ports, octets⟩ :=
        @masked_inj 4 _ _ _ _ _ bits other length_cookieBytes same.2.2
      simp only at ports ip otherIp
      rw [ports, ip, otherIp, octets]
    · rw [value, List.cons.injEq, List.cons.injEq] at same
      exact absurd same.2.1 (by decide)
  · obtain ⟨_, _, ⟨other, otherIp, same⟩ | ⟨other, otherIp, same⟩⟩ :=
      secondEncoded
    · rw [value, List.cons.injEq, List.cons.injEq] at same
      exact absurd same.2.1 (by decide)
    · rw [value, List.cons.injEq, List.cons.injEq] at same
      obtain ⟨ports, octets⟩ :=
        @masked_inj 16 _ _ _ _ _ bits other covered same.2.2
      simp only at ports ip otherIp
      rw [ports, ip, otherIp, octets]

section

variable
  {header : List.Vector UInt8 20} {message front tail : List UInt8}

theorem slice_transaction (starts : header.toList <+: message) :
    slice message 8 20 = .accept (header.toList.drop 8) := by
  obtain ⟨rest, whole⟩ := starts
  have twenty : header.toList.length = 20 := header.toList_length
  subst whole
  rw [slice_of_le (by omega) (by rw [List.length_append]; omega),
    List.drop_append_of_le_length (by omega),
    List.take_left' (by rw [List.length_drop]; omega)]

/-- Family and masked port of a value. -/
theorem family_port_read
    {reserved marker high low : UInt8} {more : List UInt8}
    (layout :
      message = front ++ (reserved :: marker :: high :: low :: more ++ tail)) :
    byteAt message (front.length + 1) = .accept marker ∧
      wordAt message (front.length + 2) =
        .accept (UInt16.ofNat (beValue [high, low])) := by
  rw [layout, byteAt_append, wordAt_append]
  exact ⟨rfl, rfl⟩

/-- The bytes of a value are those of the address that is read from them. -/
theorem masked_bytes
    {width : Nat} {high low : UInt8} {octets mask : List UInt8}
    (covered : octets.length = mask.length) (wide : octets.length = width)
    (rest : List UInt8) :
    high :: low :: (octets ++ rest) =
      beBytes 2
          (UInt16.ofNat (beValue [high, low]) ^^^ portMask ^^^
            portMask).toNat ++
        (xorBytes
            (beBytes width
              (BitVec.ofNat (8 * width)
                (beValue (xorBytes octets mask))).toNat)
            mask ++
          rest) := by
  have masked : (xorBytes octets mask).length = width := by
    rw [length_xorBytes covered, wide]
  rw [xor_portMask, beBytes_toNat_ofNat16 rfl, beBytes_toNat_bitVec masked,
    xorBytes_xorBytes covered]
  rfl

/-- The address of an attribute of family 1. -/
theorem xorMapped_v4
    {entry : StunAttribute}
    (layout : message = front ++ (entry.value ++ tail))
    (kind : entry.kind = 0x0020)
    (family : entry.value[1]? = some 0x01)
    (long : 8 ≤ entry.value.length) :
    ∃ address,
      xorMapped message entry.kind front.length entry.value.length =
          .accept (some address) ∧
        entry.Encodes header address := by
  obtain ⟨value, valueIs⟩ : ∃ value, value = entry.value := ⟨_, rfl⟩
  rw [← valueIs] at layout family long ⊢
  rcases value with _ | ⟨reserved, _ | ⟨marker, _ | ⟨high, _ | ⟨low,
    _ | ⟨first, _ | ⟨second, _ | ⟨third, _ | ⟨fourth, rest⟩⟩⟩⟩⟩⟩⟩⟩
  all_goals
    try
      simp only [List.length_cons, List.length_nil] at long
      omega
  cases family
  obtain ⟨familyRead, maskedRead⟩ := family_port_read layout
  have firstRead : byteAt message (front.length + 4) = .accept first := by
    rw [layout, byteAt_append]
    rfl
  have secondRead : byteAt message (front.length + 5) = .accept second := by
    rw [layout, byteAt_append]
    rfl
  have thirdRead : byteAt message (front.length + 6) = .accept third := by
    rw [layout, byteAt_append]
    rfl
  have fourthRead : byteAt message (front.length + 7) = .accept fourth := by
    rw [layout, byteAt_append]
    rfl
  refine
    ⟨⟨ipv4Addr (xorBytes [first, second, third, fourth] cookieBytes),
      UInt16.ofNat (beValue [high, low]) ^^^ portMask⟩,
      ?_, reserved, rest, Or.inl ⟨_, rfl, ?_⟩⟩
  · unfold xorMapped
    rw [if_pos ⟨kind, long⟩, familyRead, accept_bind, maskedRead, accept_bind]
    simp only
    rw [if_pos ⟨trivial, long⟩, firstRead, accept_bind, secondRead, accept_bind,
      thirdRead, accept_bind, fourthRead, accept_bind]
  · have octets : [first, second, third, fourth].length =
        cookieBytes.length := by
      rw [length_cookieBytes]
      rfl
    rw [← valueIs]
    exact congrArg (fun bytes => reserved :: 0x01 :: bytes)
      (masked_bytes octets rfl rest)

/-- The address of an attribute of family 2. -/
theorem xorMapped_v6
    {entry : StunAttribute}
    (starts : header.toList <+: message)
    (layout : message = front ++ (entry.value ++ tail))
    (kind : entry.kind = 0x0020)
    (family : entry.value[1]? = some 0x02)
    (long : 20 ≤ entry.value.length) :
    ∃ address,
      xorMapped message entry.kind front.length entry.value.length =
          .accept (some address) ∧
        entry.Encodes header address := by
  obtain ⟨value, valueIs⟩ : ∃ value, value = entry.value := ⟨_, rfl⟩
  rw [← valueIs] at layout family long ⊢
  rcases value with _ | ⟨reserved, _ | ⟨marker, _ | ⟨high, _ | ⟨low, more⟩⟩⟩⟩
  all_goals
    try
      simp only [List.length_cons, List.length_nil] at long
      omega
  have enough : 16 ≤ more.length := by
    simp only [List.length_cons] at long
    omega
  obtain ⟨octets, rest, split⟩ := exists_array_append 16 enough
  subst split
  cases family
  obtain ⟨familyRead, maskedRead⟩ := family_port_read layout
  have octetsRead :
      slice message (front.length + 4) (front.length + 20) =
        .accept octets.toList := by
    rw [layout, slice_append]
    have shape :
        reserved :: 0x02 :: high :: low :: (octets.toList ++ rest) ++ tail =
          [reserved, 0x02, high, low] ++
            (octets.toList ++ (rest ++ tail)) := by
      simp
    rw [shape]
    exact slice_array octets (rest ++ tail) rfl
  refine
    ⟨⟨ipv6Addr
        (xorBytes octets.toList (cookieBytes ++ header.toList.drop 8)),
      UInt16.ofNat (beValue [high, low]) ^^^ portMask⟩,
      ?_, reserved, rest, Or.inr ⟨_, rfl, ?_⟩⟩
  · have candidate :
        entry.kind = 0x0020 ∧
          (reserved :: 0x02 :: high :: low ::
            (octets.toList ++ rest)).length ≥ 8 :=
      ⟨kind, by omega⟩
    have notV4 : ¬ ((0x02 : UInt8) = 0x01 ∧
        (reserved :: 0x02 :: high :: low ::
          (octets.toList ++ rest)).length ≥ 8) := by
      intro impossible
      exact absurd impossible.1 (by decide)
    unfold xorMapped
    rw [if_pos candidate, familyRead, accept_bind, maskedRead, accept_bind]
    simp only
    rw [if_neg notV4, if_pos ⟨trivial, long⟩, slice_transaction starts,
      accept_bind, octetsRead, accept_bind]
  · have covered :
        octets.toList.length =
          (cookieBytes ++ header.toList.drop 8).length := by
      rw [List.length_append, length_cookieBytes, List.length_drop,
        header.toList_length, octets.toList_length]
    rw [← valueIs]
    exact congrArg (fun bytes => reserved :: 0x02 :: bytes)
      (masked_bytes covered octets.toList_length rest)

/-- An attribute that does not qualify is passed over. -/
theorem xorMapped_of_not_qualifies
    {entry : StunAttribute}
    (layout : message = front ++ (entry.value ++ tail))
    (other : ¬ entry.Qualifies) :
    xorMapped message entry.kind front.length entry.value.length =
      .accept none := by
  unfold xorMapped
  by_cases candidate : entry.kind = 0x0020 ∧ entry.value.length ≥ 8
  · obtain ⟨kind, long⟩ := candidate
    rw [if_pos ⟨kind, long⟩]
    obtain ⟨family, familyRead⟩ :=
      exists_byteAt (show 1 < entry.value.length by omega)
    have present := byteAt_eq_accept.mp familyRead
    have inMessage : byteAt message (front.length + 1) = .accept family := by
      rw [layout, byteAt_append, byteAt_eq_accept,
        List.getElem?_append_left (by omega)]
      exact present
    obtain ⟨masked, maskedRead⟩ :=
      exists_wordAt (show front.length + 2 + 1 < message.length by
        rw [layout, List.length_append, List.length_append]
        omega)
    rw [inMessage, accept_bind, maskedRead, accept_bind]
    simp only
    rw [if_neg, if_neg]
    · intro v6
      apply other
      exact ⟨kind, Or.inr ⟨by rw [present, v6.1], v6.2⟩⟩
    · intro v4
      apply other
      exact ⟨kind, Or.inl ⟨by rw [present, v4.1], v4.2⟩⟩
  · rw [if_neg candidate]

theorem xorMapped_of_qualifies
    {entry : StunAttribute}
    (starts : header.toList <+: message)
    (layout : message = front ++ (entry.value ++ tail))
    (qualifies : entry.Qualifies) :
    ∃ address,
      xorMapped message entry.kind front.length entry.value.length =
          .accept (some address) ∧
        entry.Encodes header address := by
  obtain ⟨kind, ⟨family, long⟩ | ⟨family, long⟩⟩ := qualifies
  · exact xorMapped_v4 layout kind family long
  · exact xorMapped_v6 starts layout kind family long

/-! ## All attributes -/

/-- What the loop reads of an encoded attribute, and where it goes on. -/
structure ReadsAttribute
    (message front : List UInt8) (entry : StunAttribute) : Prop where
  inside : front.length + 4 ≤ message.length
  kind : wordAt message front.length = .accept entry.kind
  length :
    ∃ length : UInt16,
      wordAt message (front.length + 2) = .accept length ∧
        length.toNat = entry.value.length
  complete : front.length + 4 + entry.value.length ≤ message.length
  next :
    (front.length + 4 + entry.value.length + 3) / 4 * 4 =
      (front ++ entry.encode).length

theorem readsAttribute
    {entry : StunAttribute}
    (layout : message = front ++ (entry.encode ++ tail))
    (aligned : front.length % 4 = 0) :
    ReadsAttribute message front entry := by
  have short := entry.short
  have padding := entry.aligned
  have encoded :
      entry.encode.length =
        4 + entry.value.length + entry.padding.length := by
    unfold StunAttribute.encode
    simp only [List.length_append, length_beBytes]
    omega
  have whole :
      message.length = front.length + (entry.encode.length + tail.length) := by
    rw [layout, List.length_append, List.length_append]
  have lengthValue :
      (UInt16.ofNat entry.value.length).toNat = entry.value.length := by
    rw [UInt16.toNat_ofNat']
    omega
  constructor
  · omega
  · have read := wordAt_append front (entry.encode ++ tail) 0
    rw [Nat.add_zero, ← layout] at read
    rw [read]
    unfold StunAttribute.encode
    rw [List.append_assoc]
    exact wordAt_beBytes _ _
  · refine ⟨UInt16.ofNat entry.value.length, ?_, lengthValue⟩
    have behind :=
      wordAt_append (beBytes 2 entry.kind.toNat)
        (beBytes 2 entry.value.length ++ (entry.value ++ entry.padding) ++
          tail) 0
    have written :=
      wordAt_beBytes (UInt16.ofNat entry.value.length)
        (entry.value ++ entry.padding ++ tail)
    rw [lengthValue] at written
    rw [length_beBytes, Nat.add_zero, List.append_assoc (beBytes 2 _),
      written] at behind
    rw [layout, wordAt_append]
    unfold StunAttribute.encode
    rw [List.append_assoc, List.append_assoc (beBytes 2 _)]
    exact behind
  · omega
  · rw [List.length_append]
    omega

theorem parseXorMappedFrom_found
    {entry : StunAttribute} {address : SocketAddr}
    (reads : ReadsAttribute message front entry)
    (found :
      xorMapped message entry.kind (front.length + 4) entry.value.length =
        .accept (some address)) :
    parseXorMappedFrom message front.length = .accept (.ok address) := by
  obtain ⟨length, lengthRead, lengthValue⟩ := reads.length
  have complete := reads.complete
  rw [parseXorMappedFrom, if_pos reads.inside, reads.kind, accept_bind,
    lengthRead, accept_bind]
  simp only [lengthValue]
  rw [if_neg (by omega), found]
  rfl

theorem parseXorMappedFrom_next
    {entry : StunAttribute}
    (reads : ReadsAttribute message front entry)
    (passed :
      xorMapped message entry.kind (front.length + 4) entry.value.length =
        .accept none) :
    parseXorMappedFrom message front.length =
      parseXorMappedFrom message (front ++ entry.encode).length := by
  obtain ⟨length, lengthRead, lengthValue⟩ := reads.length
  have complete := reads.complete
  rw [parseXorMappedFrom, if_pos reads.inside, reads.kind, accept_bind,
    lengthRead, accept_bind]
  simp only [lengthValue]
  rw [if_neg (by omega), passed, accept_bind, reads.next]

end

/-- The result for a list of attributes: the address of the first one that
qualifies, or an error when there is none. -/
def FirstMapped
    (header : List.Vector UInt8 20) (attributes : List StunAttribute)
    (result : Except String SocketAddr) : Prop :=
  (∃ earlier entry later address,
    attributes = earlier ++ entry :: later ∧
    (∀ other ∈ earlier, ¬ other.Qualifies) ∧
    entry.Qualifies ∧
    (∀ encoded, entry.Encodes header encoded ↔ encoded = address) ∧
    result = .ok address) ∨
  ((∀ entry ∈ attributes, ¬ entry.Qualifies) ∧
    result = .error "STUN response has no XOR-MAPPED-ADDRESS")

theorem FirstMapped.cons
    {header : List.Vector UInt8 20} {entry : StunAttribute}
    {rest : List StunAttribute} {result : Except String SocketAddr}
    (other : ¬ entry.Qualifies) (found : FirstMapped header rest result) :
    FirstMapped header (entry :: rest) result := by
  rcases found with
    ⟨earlier, first, later, address, parts, passed, found⟩ |
      ⟨nothing, failed⟩
  · left
    refine ⟨entry :: earlier, first, later, address, ?_, ?_, found⟩
    · rw [parts, List.cons_append]
    · intro another member
      rcases List.mem_cons.mp member with same | before
      · rw [same]
        exact other
      · exact passed another before
  · right
    refine ⟨?_, failed⟩
    intro another member
    rcases List.mem_cons.mp member with same | before
    · rw [same]
      exact other
    · exact nothing another before

/-- From the end of some attributes on the loop finds the first of the others
that qualifies. -/
theorem parseXorMappedFrom_attributes
    {header : List.Vector UInt8 20} {message front : List UInt8}
    {attributes : List StunAttribute}
    (starts : header.toList <+: message)
    (layout : message = front ++ attributes.flatMap StunAttribute.encode)
    (aligned : front.length % 4 = 0) :
    ∃ result,
      parseXorMappedFrom message front.length = .accept result ∧
        FirstMapped header attributes result := by
  induction attributes generalizing front with
  | nil =>
      have whole : message.length = front.length := by
        rw [layout, List.flatMap_nil, List.append_nil]
      rw [parseXorMappedFrom, if_neg (by omega)]
      refine ⟨_, rfl, Or.inr ⟨?_, rfl⟩⟩
      intro entry member
      cases member
  | cons entry rest inductionHypothesis =>
      rw [List.flatMap_cons] at layout
      have reads := readsAttribute layout aligned
      have valueLayout :
          message =
            (front ++ (beBytes 2 entry.kind.toNat ++
              beBytes 2 entry.value.length)) ++
              (entry.value ++
                (entry.padding ++ rest.flatMap StunAttribute.encode)) := by
        rw [layout]
        unfold StunAttribute.encode
        simp only [List.append_assoc]
      have valueStart :
          (front ++ (beBytes 2 entry.kind.toNat ++
            beBytes 2 entry.value.length)).length = front.length + 4 := by
        rw [List.length_append, List.length_append, length_beBytes,
          length_beBytes]
      by_cases qualifies : entry.Qualifies
      · obtain ⟨address, found, encodes⟩ :=
          xorMapped_of_qualifies starts valueLayout qualifies
        rw [valueStart] at found
        refine ⟨.ok address, parseXorMappedFrom_found reads found, Or.inl ?_⟩
        refine ⟨[], entry, rest, address, rfl, ?_, qualifies, ?_, rfl⟩
        · intro other member
          cases member
        · intro encoded
          constructor
          · intro also
            exact also.unique encodes
          · intro same
            rw [same]
            exact encodes
      · have passed := xorMapped_of_not_qualifies valueLayout qualifies
        rw [valueStart] at passed
        rw [parseXorMappedFrom_next reads passed]
        have nextAligned : (front ++ entry.encode).length % 4 = 0 := by
          rw [← reads.next]
          omega
        obtain ⟨result, parsed, expected⟩ :=
          inductionHypothesis (by rw [layout, List.append_assoc]) nextAligned
        exact ⟨result, parsed, expected.cons qualifies⟩

/-- Every byte string is parsed to a result, and a header with attributes to
the address of the first attribute that qualifies. -/
theorem parseXorMapped_exact :
    (∀ message, ∃ result, parseXorMapped message = .accept result) ∧
    ∀ (header : List.Vector UInt8 20) (attributes : List StunAttribute),
      ∃ result,
        parseXorMapped
            (header.toList ++ attributes.flatMap StunAttribute.encode) =
          .accept result ∧
        FirstMapped header attributes result := by
  constructor
  · intro message
    exact parseXorMappedFrom_returns (Nat.le_refl 20)
  · intro header attributes
    have twenty : header.toList.length = 20 := header.toList_length
    have parsed :=
      @parseXorMappedFrom_attributes header
        (header.toList ++ attributes.flatMap StunAttribute.encode)
        header.toList attributes (List.prefix_append _ _) rfl
        (by rw [twenty])
    rw [twenty] at parsed
    exact parsed

end WgLink
