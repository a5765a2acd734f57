import WgLink.Library.Reads
import WgLink.Library.Text
import WgLink.Library.Utf8
import Mathlib.Algebra.Order.Ring.Nat

/-!
# Reading a management request

`read_request` of `management.rs` collects a request from the reads of a
connection, first up to the end of the header and then up to the declared end
of the body.
-/

namespace WgLink

open WgLink.Library

/-- `MAX_REQUEST_BYTES`. -/
def maxRequestBytes : Nat := 64 * 1024

/-- A read of a connection into the buffer of `read_request`. -/
abbrev HttpRead := Read UInt8 4096

/-- `Request`. -/
structure Request where
  method : String
  path : String
  body : List UInt8
deriving DecidableEq

/-- `find_header_end`. -/
def findHeaderEnd (data : List UInt8) : Option Nat :=
  (windows 4 data).findIdx? fun window => window == [13, 10, 13, 10]

/-- An addition of `usize`.  Without overflow checks it wraps around. -/
def addUsize (overflowChecks : Bool) (left right : Nat) :
    Except Failure Nat :=
  if overflowChecks = true ∧ 2 ^ 64 ≤ left + right then
    .error .panic
  else
    .ok ((left + right) % 2 ^ 64)

/-- The length that a header line declares, if it does. -/
def contentLengthOf (line : List Char) : Option Nat :=
  match splitOnce ':' line with
  | none => none
  | some (name, value) =>
      if eqIgnoreAsciiCase name "content-length".toList then
        parseUnsigned (2 ^ 64) (trim value)
      else
        none

/-- The length that the header lines declare. -/
def contentLength (lines : List (List Char)) : Nat :=
  (lines.findSome? contentLengthOf).getD 0

/-- What `read_request` takes from the header. -/
structure Header where
  method : String
  path : String
  contentLength : Nat
  fits : contentLength < 2 ^ 64

theorem contentLengthOf_lt
    {line : List Char} {number : Nat}
    (declared : contentLengthOf line = some number) :
    number < 2 ^ 64 := by
  unfold contentLengthOf at declared
  cases parts : splitOnce ':' line with
  | none =>
      rw [parts] at declared
      cases declared
  | some pair =>
      obtain ⟨name, value⟩ := pair
      simp only [parts] at declared
      by_cases named :
          eqIgnoreAsciiCase name "content-length".toList = true
      · rw [if_pos named] at declared
        exact parseUnsigned_lt declared
      · rw [if_neg named] at declared
        cases declared

theorem contentLength_lt (lines : List (List Char)) :
    contentLength lines < 2 ^ 64 := by
  unfold contentLength
  cases found : lines.findSome? contentLengthOf with
  | none =>
      rw [Option.getD_none]
      omega
  | some number =>
      obtain ⟨line, _, declared⟩ := List.exists_of_findSome?_eq_some found
      exact contentLengthOf_lt declared

/-- An absent value is an error. -/
def context (value : Option α) (message : String) : Except Failure α :=
  match value with
  | none => .error (.error message)
  | some value => .ok value

/-- The part of `read_request` that reads the header. -/
def parseHeader (header : List UInt8) : Except Failure Header := do
  let headers ← context (fromUtf8 header) "invalid HTTP headers"
  let requestLine ←
    context (lines headers.toList).head? "missing HTTP request line"
  let words := splitWhitespace requestLine
  let method ← context words.head? "missing HTTP method"
  let path ← context words.tail.head? "missing HTTP path"
  let headerLines := (lines headers.toList).tail
  pure
    { method := String.ofList method
      path := String.ofList path
      contentLength := contentLength headerLines
      fits := contentLength_lt headerLines }

/-- The loop of `read_request` up to the end of the header. -/
def readHeader :
    List UInt8 → List HttpRead →
      Except Failure (List UInt8 × Nat × List HttpRead)
  | _, [] => .error (.error "empty HTTP request")
  | data, read :: reads => do
      let data ←
        receive maxRequestBytes "empty HTTP request" "HTTP request too large"
          data read
      match findHeaderEnd data with
      | some index => pure (data, index, reads)
      | none => readHeader data reads

/-- The loop of `read_request` up to the end of the body. -/
def readBody (bodyEnd : Nat) :
    List UInt8 → List HttpRead → Except Failure (List UInt8)
  | data, [] =>
      if data.length < bodyEnd then
        .error (.error "truncated HTTP request body")
      else
        pure data
  | data, read :: reads =>
      if data.length < bodyEnd then do
        let data ←
          receive maxRequestBytes "truncated HTTP request body"
            "HTTP request too large" data read
        readBody bodyEnd data reads
      else
        pure data

/-- The end of `read_request`, from the declared length on. -/
def finishRequest
    (overflowChecks : Bool) (data : List UInt8) (bodyStart : Nat)
    (header : Header) (reads : List HttpRead) : Except Failure Request := do
  let bodyEnd ← addUsize overflowChecks bodyStart header.contentLength
  let data ← readBody bodyEnd data reads
  let body ← sliceRange data bodyStart bodyEnd
  pure { method := header.method, path := header.path, body }

/-- `read_request` on what the reads of its connection return; after them the
stream has ended. -/
def readRequest (overflowChecks : Bool) (reads : List HttpRead) :
    Except Failure Request := do
  let (data, headerEnd, reads) ← readHeader [] reads
  let header ← sliceRange data 0 headerEnd
  let header ← parseHeader header
  let bodyStart ← addUsize overflowChecks headerEnd 4
  finishRequest overflowChecks data bodyStart header reads

/-! ## The parts of `read_request` -/

theorem addUsize_of_lt
    {left right : Nat} (overflowChecks : Bool)
    (fits : left + right < 2 ^ 64) :
    addUsize overflowChecks left right = .ok (left + right) := by
  unfold addUsize
  rw [if_neg (fun overflows => Nat.not_le.mpr fits overflows.2),
    Nat.mod_eq_of_lt fits]

theorem sliceRange_of_le
    {data : List UInt8} {start stop : Nat}
    (ordered : start ≤ stop) (inRange : stop ≤ data.length) :
    sliceRange data start stop = .ok ((data.take stop).drop start) :=
  if_pos ⟨ordered, inRange⟩

theorem stable_findHeaderEnd : Stable findHeaderEnd :=
  stable_findWindow 4 _

theorem findHeaderEnd_add_le
    {data : List UInt8} {headerEnd : Nat}
    (found : findHeaderEnd data = some headerEnd) :
    headerEnd + 4 ≤ data.length := by
  apply add_le_of_lt_windows
  unfold findHeaderEnd at found
  rw [List.findIdx?_eq_some_iff_findIdx_eq] at found
  exact found.1

theorem context_ne_panic
    {α : Type} (value : Option α) (message : String) :
    context value message ≠ .error .panic := by
  intro panics
  cases value with
  | none => cases panics
  | some value => cases panics

theorem bind_ne_panic
    {α β : Type} {first : Except Failure α} {second : α → Except Failure β}
    (firstReturns : first ≠ .error .panic)
    (secondReturns : ∀ value, second value ≠ .error .panic) :
    (first >>= second) ≠ .error .panic := by
  cases first with
  | error failure =>
      intro panics
      cases panics
      exact firstReturns rfl
  | ok value =>
      exact secondReturns value

theorem parseHeader_ne_panic (header : List UInt8) :
    parseHeader header ≠ .error .panic := by
  unfold parseHeader
  apply bind_ne_panic (context_ne_panic _ _)
  intro headers
  apply bind_ne_panic (context_ne_panic _ _)
  intro requestLine
  apply bind_ne_panic (context_ne_panic _ _)
  intro method
  apply bind_ne_panic (context_ne_panic _ _)
  intro path panics
  cases panics

/-- The first loop searches the header end in what has arrived. -/
theorem readHeader_eq_gather
    {data : List UInt8} (absent : findHeaderEnd data = none)
    (reads : List HttpRead) :
    readHeader data reads =
      gather maxRequestBytes "empty HTTP request" "HTTP request too large"
        findHeaderEnd data reads := by
  induction reads generalizing data with
  | nil =>
      rw [gather_ended absent]
      rfl
  | cons read rest inductionHypothesis =>
      rw [gather_cons absent]
      unfold readHeader
      congr 1
      funext next
      cases found : findHeaderEnd next with
      | none =>
          exact inductionHypothesis found
      | some index =>
          rw [gather_found found]
          rfl

/-- Has the whole body arrived? -/
def arrived (bodyEnd : Nat) (data : List UInt8) : Option Unit :=
  if data.length < bodyEnd then none else some ()

theorem stable_arrived (bodyEnd : Nat) : Stable (arrived bodyEnd) :=
  stable_length bodyEnd

theorem le_of_arrived
    {bodyEnd : Nat} {data : List UInt8} {value : Unit}
    (complete : arrived bodyEnd data = some value) :
    bodyEnd ≤ data.length := by
  apply Nat.le_of_not_lt
  intro short
  cases (if_pos short).symm.trans complete

/-- The second loop waits for the end of the body. -/
theorem readBody_eq_gather
    (bodyEnd : Nat) (data : List UInt8) (reads : List HttpRead) :
    readBody bodyEnd data reads =
      gather maxRequestBytes "truncated HTTP request body"
          "HTTP request too large" (arrived bodyEnd) data reads >>=
        fun outcome => pure outcome.1 := by
  induction reads generalizing data with
  | nil =>
      unfold readBody
      by_cases short : data.length < bodyEnd
      · have absent : arrived bodyEnd data = none := if_pos short
        rw [if_pos short, gather_ended absent]
        rfl
      · have complete : arrived bodyEnd data = some () := if_neg short
        rw [if_neg short, gather_found complete]
        rfl
  | cons read rest inductionHypothesis =>
      unfold readBody
      by_cases short : data.length < bodyEnd
      · have absent : arrived bodyEnd data = none := if_pos short
        rw [if_pos short, gather_cons absent, bind_assoc]
        congr 1
        funext next
        exact inductionHypothesis next
      · have complete : arrived bodyEnd data = some () := if_neg short
        rw [if_neg short, gather_found complete]
        rfl

/-- The end of a body within the received bytes. -/
theorem finishRequest_eq
    {overflowChecks : Bool} {data : List UInt8} {bodyStart : Nat}
    {header : Header} (fits : bodyStart + header.contentLength < 2 ^ 64)
    (reads : List HttpRead) :
    finishRequest overflowChecks data bodyStart header reads =
      gather maxRequestBytes "truncated HTTP request body"
          "HTTP request too large"
          (arrived (bodyStart + header.contentLength)) data reads >>=
        fun outcome =>
          sliceRange outcome.1 bodyStart
              (bodyStart + header.contentLength) >>=
            fun body =>
              pure { method := header.method, path := header.path, body } := by
  unfold finishRequest
  rw [addUsize_of_lt overflowChecks fits]
  change readBody _ data reads >>= _ = _
  rw [readBody_eq_gather, bind_assoc]
  rfl

/-- A declared length beyond the words of the machine ends in a panic, whether
or not the addition is checked. -/
theorem finishRequest_of_overflow
    {overflowChecks : Bool} {data : List UInt8} {bodyStart : Nat}
    {header : Header} (inData : bodyStart ≤ data.length)
    (overflows : 2 ^ 64 ≤ bodyStart + header.contentLength)
    (small : bodyStart < 2 ^ 64) (reads : List HttpRead) :
    finishRequest overflowChecks data bodyStart header reads =
      .error .panic := by
  unfold finishRequest addUsize
  cases overflowChecks with
  | true =>
      rw [if_pos ⟨rfl, overflows⟩]
      rfl
  | false =>
      have wrapped :
          (bodyStart + header.contentLength) % 2 ^ 64 < bodyStart := by
        have declared := header.fits
        omega
      rw [if_neg (fun checked => Bool.false_ne_true checked.1)]
      change readBody _ data reads >>= _ = _
      have complete :
          arrived ((bodyStart + header.contentLength) % 2 ^ 64) data =
            some () :=
        if_neg (by omega)
      rw [readBody_eq_gather, gather_found complete]
      change sliceRange data bodyStart _ >>= _ = _
      have reversed :
          sliceRange data bodyStart
              ((bodyStart + header.contentLength) % 2 ^ 64) =
            .error .panic :=
        if_neg (fun ordered => Nat.not_le.mpr wrapped ordered.1)
      rw [reversed]
      rfl

theorem finishRequest_ne_panic
    {overflowChecks : Bool} {data : List UInt8} {bodyStart : Nat}
    {header : Header} (fits : bodyStart + header.contentLength < 2 ^ 64)
    (reads : List HttpRead) :
    finishRequest overflowChecks data bodyStart header reads ≠
      .error .panic := by
  rw [finishRequest_eq fits]
  cases gathered :
      gather maxRequestBytes "truncated HTTP request body"
        "HTTP request too large"
        (arrived (bodyStart + header.contentLength)) data reads with
  | error failure =>
      intro panics
      cases panics
      exact gather_ne_panic data reads gathered
  | ok outcome =>
      obtain ⟨final, value, rest⟩ := outcome
      have complete := le_of_arrived (gather_ok gathered).1
      change sliceRange final _ _ >>= _ ≠ _
      rw [sliceRange_of_le (Nat.le_add_right _ _) complete]
      intro panics
      cases panics

/-- A body that is returned is a slice of the received bytes. -/
theorem finishRequest_ok
    {overflowChecks : Bool} {data : List UInt8} {bodyStart : Nat}
    {header : Header} {reads : List HttpRead} {request : Request}
    (fits : bodyStart + header.contentLength < 2 ^ 64)
    (returned :
      finishRequest overflowChecks data bodyStart header reads =
        .ok request) :
    ∃ front rest,
      reads = front.map .ok ++ rest ∧ Filled front ∧
        (data.length ≤ maxRequestBytes →
          (data ++ contents front).length ≤ maxRequestBytes) ∧
        bodyStart + header.contentLength ≤ (data ++ contents front).length ∧
        request.body =
          ((data ++ contents front).take
            (bodyStart + header.contentLength)).drop bodyStart := by
  rw [finishRequest_eq fits] at returned
  cases gathered :
      gather maxRequestBytes "truncated HTTP request body"
        "HTTP request too large"
        (arrived (bodyStart + header.contentLength)) data reads with
  | error failure =>
      rw [gathered] at returned
      cases returned
  | ok outcome =>
      obtain ⟨final, value, rest⟩ := outcome
      obtain ⟨seen, bounded, front, split, filled, collected⟩ :=
        gather_ok gathered
      have complete := le_of_arrived seen
      rw [gathered] at returned
      change sliceRange final _ _ >>= _ = _ at returned
      rw [sliceRange_of_le (Nat.le_add_right _ _) complete] at returned
      cases returned
      rw [collected] at bounded complete ⊢
      exact ⟨front, rest, split, filled, bounded, complete, rfl⟩

/-! ## Headers that have been received -/

/-- The reads bring a complete header, within the allowed size. -/
def HeaderReceived
    (reads : List HttpRead) (headerEnd : Nat) (header : Header) : Prop :=
  ∃ front rest,
    reads = front.map .ok ++ rest ∧ Filled front ∧
      (contents front).length ≤ maxRequestBytes ∧
      findHeaderEnd (contents front) = some headerEnd ∧
      parseHeader ((contents front).take headerEnd) = .ok header

/-- The part of `read_request` after the first loop. -/
theorem readRequest_of_found
    {overflowChecks : Bool} {reads rest : List HttpRead}
    {data : List UInt8} {headerEnd : Nat}
    (read : readHeader [] reads = .ok (data, headerEnd, rest))
    (found : findHeaderEnd data = some headerEnd)
    (bounded : data.length ≤ maxRequestBytes) :
    readRequest overflowChecks reads =
      parseHeader (data.take headerEnd) >>= fun header =>
        finishRequest overflowChecks data (headerEnd + 4) header rest := by
  have inData := findHeaderEnd_add_le found
  have small : headerEnd + 4 < 2 ^ 64 := by
    unfold maxRequestBytes at bounded
    omega
  unfold readRequest
  rw [read]
  change sliceRange data 0 headerEnd >>= _ = _
  rw [sliceRange_of_le (Nat.zero_le _) (by omega), List.drop_zero]
  change parseHeader (data.take headerEnd) >>= _ = _
  congr 1
  funext header
  rw [addUsize_of_lt overflowChecks small]
  rfl

/-- The first loop stops as soon as the header is complete. -/
theorem readHeader_of_arrived
    {front : List (Chunk UInt8 4096)} {headerEnd : Nat}
    (filled : Filled front)
    (bounded : (contents front).length ≤ maxRequestBytes)
    (found : findHeaderEnd (contents front) = some headerEnd)
    (rest : List HttpRead) :
    ∃ taken left,
      front = taken ++ left ∧
        findHeaderEnd (contents taken) = some headerEnd ∧
        readHeader [] (front.map .ok ++ rest) =
          .ok (contents taken, headerEnd, left.map .ok ++ rest) := by
  have arrives : findHeaderEnd ([] ++ contents front) = some headerEnd :=
    found
  have nothing : findHeaderEnd [] = none := rfl
  rw [readHeader_eq_gather nothing]
  exact gather_of_arrived stable_findHeaderEnd filled bounded arrives

/-- The header does not change when more has arrived. -/
theorem take_headerEnd_append
    {data : List UInt8} {headerEnd : Nat}
    (found : findHeaderEnd data = some headerEnd) (later : List UInt8) :
    (data ++ later).take headerEnd = data.take headerEnd := by
  have inData := findHeaderEnd_add_le found
  exact List.take_append_of_le_length (by omega)

/-- Once the header has been received, only the body remains. -/
theorem HeaderReceived.readRequest_eq
    {reads : List HttpRead} {headerEnd : Nat} {header : Header}
    (received : HeaderReceived reads headerEnd header)
    (overflowChecks : Bool) :
    ∃ front rest,
      reads = front.map .ok ++ rest ∧ Filled front ∧
        (contents front).length ≤ maxRequestBytes ∧
        headerEnd + 4 ≤ (contents front).length ∧
        readRequest overflowChecks reads =
          finishRequest overflowChecks (contents front) (headerEnd + 4)
            header rest := by
  obtain ⟨front, rest, split, filled, bounded, found, parsed⟩ := received
  obtain ⟨taken, left, parts, seen, read⟩ :=
    readHeader_of_arrived filled bounded found rest
  rw [← split] at read
  rw [parts, contents_append] at bounded parsed
  rw [take_headerEnd_append seen] at parsed
  have takenBounded : (contents taken).length ≤ maxRequestBytes := by
    rw [List.length_append] at bounded
    omega
  refine ⟨taken, left.map .ok ++ rest, ?_, ?_, takenBounded,
    findHeaderEnd_add_le seen, ?_⟩
  · rw [split, parts, List.map_append, List.append_assoc]
  · rw [parts] at filled
    exact (filled_append.mp filled).1
  · rw [readRequest_of_found read seen takenBounded, parsed]
    rfl

/-- Without a header the call returns an error. -/
theorem readRequest_of_no_header
    {overflowChecks : Bool} {reads : List HttpRead}
    (none : ¬ ∃ headerEnd header, HeaderReceived reads headerEnd header) :
    ∃ message,
      readRequest overflowChecks reads = .error (.error message) := by
  have nothing : findHeaderEnd [] = Option.none := rfl
  cases read : readHeader [] reads with
  | error failure =>
      have unread : readRequest overflowChecks reads = .error failure := by
        unfold readRequest
        rw [read]
        rfl
      cases failure with
      | panic =>
          rw [readHeader_eq_gather nothing] at read
          exact absurd read (gather_ne_panic _ _)
      | error message =>
          exact ⟨message, unread⟩
  | ok outcome =>
      obtain ⟨data, headerEnd, rest⟩ := outcome
      have gathered := read
      rw [readHeader_eq_gather nothing] at gathered
      obtain ⟨found, bounds, front, split, filled, collected⟩ :=
        gather_ok gathered
      have bounded := bounds (Nat.zero_le _)
      rw [List.nil_append] at collected
      rw [readRequest_of_found read found bounded]
      cases parsed : parseHeader (data.take headerEnd) with
      | error failure =>
          cases failure with
          | panic =>
              exact absurd parsed (parseHeader_ne_panic _)
          | error message =>
              exact ⟨message, rfl⟩
      | ok header =>
          rw [collected] at bounded found parsed
          exact absurd
            ⟨headerEnd, header, front, rest, split, filled, bounded, found,
              parsed⟩
            none

/-! ## What every call does -/

/-- `read_request` returns: the sum of the start of the body and its declared
length is what it should be, the body lies within the received bytes, and a
request that is declared too large is an error. -/
structure SafelyRead (overflowChecks : Bool) (reads : List HttpRead) :
    Prop where
  returns : readRequest overflowChecks reads ≠ .error .panic
  sum :
    ∀ headerEnd header,
      HeaderReceived reads headerEnd header →
      addUsize overflowChecks (headerEnd + 4) header.contentLength =
        .ok (headerEnd + 4 + header.contentLength)
  within :
    ∀ request,
      readRequest overflowChecks reads = .ok request →
      ∃ headerEnd header front rest,
        HeaderReceived reads headerEnd header ∧
          reads = front.map .ok ++ rest ∧ Filled front ∧
          headerEnd + 4 + header.contentLength ≤ (contents front).length ∧
          request.body =
            ((contents front).take
              (headerEnd + 4 + header.contentLength)).drop (headerEnd + 4)
  refuses :
    ∀ headerEnd header,
      HeaderReceived reads headerEnd header →
      maxRequestBytes < headerEnd + 4 + header.contentLength →
      ∃ message,
        readRequest overflowChecks reads = .error (.error message)

/-- No received header declares a body whose end is beyond the words of the
machine. -/
def DeclaresFitting (reads : List HttpRead) : Prop :=
  ∀ headerEnd header,
    HeaderReceived reads headerEnd header →
    headerEnd + 4 + header.contentLength < 2 ^ 64

theorem readRequest_panics
    {overflowChecks : Bool} {reads : List HttpRead} {headerEnd : Nat}
    {header : Header}
    (received : HeaderReceived reads headerEnd header)
    (overflows : 2 ^ 64 ≤ headerEnd + 4 + header.contentLength) :
    readRequest overflowChecks reads = .error .panic := by
  obtain ⟨front, rest, _, _, bounded, inData, continues⟩ :=
    received.readRequest_eq overflowChecks
  rw [continues]
  apply finishRequest_of_overflow inData overflows
  unfold maxRequestBytes at bounded
  omega

theorem readRequest_ne_panic
    {overflowChecks : Bool} {reads : List HttpRead}
    (fitting : DeclaresFitting reads) :
    readRequest overflowChecks reads ≠ .error .panic := by
  by_cases some : ∃ headerEnd header, HeaderReceived reads headerEnd header
  · obtain ⟨headerEnd, header, received⟩ := some
    obtain ⟨front, rest, _, _, _, _, continues⟩ :=
      received.readRequest_eq overflowChecks
    rw [continues]
    exact finishRequest_ne_panic (fitting headerEnd header received) rest
  · obtain ⟨message, failed⟩ := readRequest_of_no_header some
    rw [failed]
    intro panics
    cases panics

/-- A request that is returned lies within the received bytes and the allowed
size. -/
theorem readRequest_within
    {overflowChecks : Bool} {reads : List HttpRead} {headerEnd : Nat}
    {header : Header} {request : Request}
    (received : HeaderReceived reads headerEnd header)
    (fits : headerEnd + 4 + header.contentLength < 2 ^ 64)
    (returned : readRequest overflowChecks reads = .ok request) :
    ∃ front rest,
      reads = front.map .ok ++ rest ∧ Filled front ∧
        (contents front).length ≤ maxRequestBytes ∧
        headerEnd + 4 + header.contentLength ≤ (contents front).length ∧
        request.body =
          ((contents front).take
            (headerEnd + 4 + header.contentLength)).drop (headerEnd + 4) := by
  obtain ⟨early, rest, split, filled, bounded, _, continues⟩ :=
    received.readRequest_eq overflowChecks
  rw [continues] at returned
  obtain ⟨late, others, laterSplit, laterFilled, laterBounded, complete,
    body⟩ := finishRequest_ok fits returned
  refine ⟨early ++ late, others, ?_, filled_append.mpr ⟨filled, laterFilled⟩,
    ?_, ?_, ?_⟩
  · rw [split, laterSplit, List.map_append, List.append_assoc]
  · rw [contents_append]
    exact laterBounded bounded
  · rw [contents_append]
    exact complete
  · rw [contents_append]
    exact body

/-- `read_request` is safe exactly when the end of the declared body fits into
a word of the machine. -/
theorem readRequest_safe_iff
    (overflowChecks : Bool) (reads : List HttpRead) :
    SafelyRead overflowChecks reads ↔ DeclaresFitting reads := by
  constructor
  · intro safe headerEnd header received
    by_contra overflows
    exact safe.returns (readRequest_panics received (Nat.not_lt.mp overflows))
  · intro fitting
    have returns : readRequest overflowChecks reads ≠ .error .panic :=
      readRequest_ne_panic fitting
    refine ⟨returns, ?_, ?_, ?_⟩
    · intro headerEnd header received
      exact addUsize_of_lt overflowChecks (fitting _ _ received)
    · intro request returned
      by_cases some :
          ∃ headerEnd header, HeaderReceived reads headerEnd header
      · obtain ⟨headerEnd, header, received⟩ := some
        obtain ⟨front, rest, split, filled, _, complete, body⟩ :=
          readRequest_within received (fitting _ _ received) returned
        exact ⟨headerEnd, header, front, rest, received, split, filled,
          complete, body⟩
      · obtain ⟨message, failed⟩ := readRequest_of_no_header some
        cases failed.symm.trans returned
    · intro headerEnd header received tooLarge
      cases outcome : readRequest overflowChecks reads with
      | ok request =>
          obtain ⟨front, _, _, _, bounded, complete, _⟩ :=
            readRequest_within received (fitting _ _ received) outcome
          omega
      | error failure =>
          cases failure with
          | panic =>
              exact absurd outcome returns
          | error message =>
              exact ⟨message, rfl⟩

def overflowingText : String :=
  "GET / HTTP/1.1\r\nContent-Length: 18446744073709551615\r\n\r\n"

/-- One read with a header that declares the longest body. -/
def overflowingReads : List HttpRead :=
  [.ok ⟨asBytes overflowingText, by decide +kernel⟩]

/-- The declared length is added to the start of the body before anything
bounds it. -/
theorem declared_length_overflows :
    ¬ SafelyRead true overflowingReads ∧
      ¬ SafelyRead false overflowingReads := by
  constructor
  · intro safe
    exact safe.returns (by decide +kernel)
  · intro safe
    exact safe.returns (by decide +kernel)

/-! ## The reads do not matter -/

/-- The request that a whole stream makes up. -/
def requestOf (overflowChecks : Bool) (stream : List UInt8) :
    Except Failure Request := do
  let headerEnd ← context (findHeaderEnd stream) "empty HTTP request"
  let header ← parseHeader (stream.take headerEnd)
  let bodyEnd ←
    addUsize overflowChecks (headerEnd + 4) header.contentLength
  if stream.length < bodyEnd then
    .error (.error "truncated HTTP request body")
  else
    let body ← sliceRange stream (headerEnd + 4) bodyEnd
    pure { method := header.method, path := header.path, body }

theorem sliceRange_append
    {data : List UInt8} {stop : Nat} (inRange : stop ≤ data.length)
    (later : List UInt8) (start : Nat) :
    sliceRange (data ++ later) start stop = sliceRange data start stop := by
  have inLonger : stop ≤ (data ++ later).length := by
    rw [List.length_append]
    omega
  unfold sliceRange
  by_cases ordered : start ≤ stop
  · rw [if_pos ⟨ordered, inLonger⟩, if_pos ⟨ordered, inRange⟩,
      List.take_append_of_le_length inRange]
  · rw [if_neg (fun range => ordered range.1),
      if_neg (fun range => ordered range.1)]

/-- The second loop and the body, on a stream that ends after some chunks. -/
theorem readBody_of_chunks
    {data : List UInt8} {chunks : List (Chunk UInt8 4096)}
    (filled : Filled chunks)
    (bounded : (data ++ contents chunks).length ≤ maxRequestBytes)
    (start stop : Nat) :
    (readBody stop data (chunks.map .ok) >>= fun received =>
        sliceRange received start stop) =
      if (data ++ contents chunks).length < stop then
        .error (.error "truncated HTTP request body")
      else
        sliceRange (data ++ contents chunks) start stop := by
  rw [readBody_eq_gather]
  by_cases short : (data ++ contents chunks).length < stop
  · have absent : arrived stop (data ++ contents chunks) = none :=
      if_pos short
    rw [if_pos short,
      gather_of_absent (stable_arrived stop) filled bounded absent]
    rfl
  · have complete : arrived stop (data ++ contents chunks) = some () :=
      if_neg short
    obtain ⟨taken, left, parts, seen, gathered⟩ :=
      @gather_of_arrived _ _ _ _ "truncated HTTP request body"
        "HTTP request too large" _ (stable_arrived stop) data () chunks []
        filled bounded complete
    rw [List.append_nil] at gathered
    rw [if_neg short, gathered, parts, contents_append,
      ← List.append_assoc, sliceRange_append (le_of_arrived seen)]
    rfl

/-- A stream of the allowed size is read as a whole, however it is cut. -/
theorem readRequest_eq_requestOf
    (overflowChecks : Bool) {chunks : List (Chunk UInt8 4096)}
    (filled : Filled chunks)
    (bounded : (contents chunks).length ≤ maxRequestBytes) :
    readRequest overflowChecks (chunks.map .ok) =
      requestOf overflowChecks (contents chunks) := by
  unfold requestOf
  cases found : findHeaderEnd (contents chunks) with
  | none =>
      have nothing : findHeaderEnd [] = none := rfl
      have absent : findHeaderEnd ([] ++ contents chunks) = none := found
      unfold readRequest
      rw [readHeader_eq_gather nothing,
        gather_of_absent stable_findHeaderEnd filled bounded absent]
      rfl
  | some headerEnd =>
      obtain ⟨taken, left, parts, seen, read⟩ :=
        readHeader_of_arrived filled bounded found []
      rw [List.append_nil, List.append_nil] at read
      rw [parts] at filled
      rw [parts, contents_append] at bounded
      have takenBounded : (contents taken).length ≤ maxRequestBytes := by
        rw [List.length_append] at bounded
        omega
      rw [readRequest_of_found read seen takenBounded, parts,
        contents_append, ← take_headerEnd_append seen (contents left)]
      change _ = parseHeader _ >>= _
      congr 1
      funext header
      unfold finishRequest
      congr 1
      funext bodyEnd
      rw [← bind_assoc,
        readBody_of_chunks (filled_append.mp filled).2 bounded]
      by_cases short :
          (contents taken ++ contents left).length < bodyEnd
      · rw [if_pos short, if_pos short]
        rfl
      · rw [if_neg short, if_neg short]

/-- Two ways to cut a stream into reads give the same outcome. -/
theorem readRequest_segmentation
    (overflowChecks : Bool) {stream : List UInt8}
    {first second : List (Chunk UInt8 4096)}
    (bounded : stream.length ≤ maxRequestBytes)
    (firstFilled : Filled first) (firstContents : contents first = stream)
    (secondFilled : Filled second)
    (secondContents : contents second = stream) :
    readRequest overflowChecks (first.map .ok) =
      readRequest overflowChecks (second.map .ok) := by
  rw [← firstContents] at bounded
  rw [readRequest_eq_requestOf overflowChecks firstFilled bounded]
  rw [firstContents, ← secondContents] at bounded ⊢
  rw [readRequest_eq_requestOf overflowChecks secondFilled bounded]

/-- A request with a body of seven bytes, in one read. -/
def wholeRequest : List (Chunk UInt8 4096) :=
  [⟨asBytes
        "POST /api HTTP/1.1\r\ncontent-length: 7\r\n\r\npath-id",
      by decide +kernel⟩]

/-- The same request, cut within the end of the header and within the body. -/
def cutRequest : List (Chunk UInt8 4096) :=
  [⟨asBytes "POST /api HTTP/1.1\r\ncontent-length: 7\r\n\r",
      by decide +kernel⟩,
    ⟨asBytes "\npath", by decide +kernel⟩,
    ⟨asBytes "-id", by decide +kernel⟩]

theorem readRequest_segmentation_cut :
    readRequest true (wholeRequest.map .ok) =
        .ok ⟨"POST", "/api", asBytes "path-id"⟩ ∧
      readRequest true (cutRequest.map .ok) =
        .ok ⟨"POST", "/api", asBytes "path-id"⟩ := by
  have whole :
      readRequest true (wholeRequest.map .ok) =
        .ok ⟨"POST", "/api", asBytes "path-id"⟩ := by
    decide +kernel
  have same :
      readRequest true (wholeRequest.map .ok) =
        readRequest true (cutRequest.map .ok) :=
    @readRequest_segmentation true (contents wholeRequest) wholeRequest
      cutRequest (by decide +kernel) (by unfold Filled; decide +kernel) rfl
      (by unfold Filled; decide +kernel) (by decide +kernel)
  exact ⟨whole, same.symm.trans whole⟩

end WgLink
