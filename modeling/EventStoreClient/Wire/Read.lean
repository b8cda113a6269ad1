import EventStoreClient.Error
import EventStoreClient.Foundation.Transport
import EventStoreClient.Wire.TcpPackage

/-!
# The length-prefixed reader

`read_tcp_package_op` with its two completion handlers, and the receive loop that
starts the operation again after every frame.
-/

namespace EventStoreClient
namespace Wire

open Foundation

/-- The socket as a reader sees it: the pieces its bytes arrive in, and the error
reported once they have run out. -/
structure Socket where
  pieces : List Bytes
  failure : AsioErrors

namespace Socket

def bytes (s : Socket) : Bytes := s.pieces.flatten

end Socket

structure Completion where
  ec : ErrorCode
  count : Nat
  buffer : DynamicBuffer
  socket : Socket

/-- `boost::asio::async_read(socket, buffer_.prepare(n), ...)`: it completes with the
full count, or with the transport's error. -/
def readInto (buffer : DynamicBuffer) (socket : Socket) (n : Nat) : Completion :=
  let read := asyncRead socket.pieces n
  { ec := if read.1.length = n then none else some (Error.asio socket.failure)
    count := read.1.length
    buffer := (buffer.prepare n).fill read.1
    socket := { socket with pieces := read.2 } }

def readMessageHandler (read : Completion) : Completion :=
  match read.ec with
  | some e =>
      { read with
        ec := some e
        count := read.count + 4
        buffer := read.buffer.consume 4 }
  | none =>
      { read with
        count := read.count + 4
        buffer := read.buffer.commit read.count }

def LengthInRange (length : Int) : Prop :=
  ((kMandatorySize - kCommandOffset : Nat) : Int) ≤ length ∧
    length ≤ (kMaxPackageSize : Int)

instance (length : Int) : Decidable (LengthInRange length) :=
  inferInstanceAs (Decidable (_ ∧ _))

/-- The prefix, read as an `int` from the start of the storage before it is committed. -/
def lengthPrefix (bytes : Bytes) : Int :=
  signed32 (leNat (bytes.take 4))

def lengthCheckHandler (read : Completion) : Completion :=
  match read.ec with
  | some _ => read
  | none =>
      let length := lengthPrefix read.buffer.storage
      if LengthInRange length then
        -- commit length prefix
        readMessageHandler
          (readInto (read.buffer.commit 4) read.socket length.toNat)
      else
        { read with ec := some (Error.communication .badLengthPrefix) }

def readTcpPackageOp (buffer : DynamicBuffer) (socket : Socket) : Completion :=
  lengthCheckHandler (readInto (buffer.consume buffer.size) socket 4)

/-!
# One read

A read of a number of bytes has them all, or the error of the socket.
-/

theorem readInto_of_le (buffer : DynamicBuffer) {socket : Socket} {n : Nat}
    (hle : n ≤ socket.bytes.length) :
    (readInto buffer socket n).ec = none ∧
      (readInto buffer socket n).count = n ∧
      (readInto buffer socket n).buffer =
        (buffer.prepare n).fill (socket.bytes.take n) ∧
      (readInto buffer socket n).socket.bytes = socket.bytes.drop n ∧
      (readInto buffer socket n).socket.failure = socket.failure := by
  rcases asyncRead_flatten socket.pieces n with ⟨hgot, hleft⟩
  have hlength : (asyncRead socket.pieces n).1.length = n := by
    rw [hgot, List.length_take]
    exact Nat.min_eq_left hle
  refine ⟨?_, hlength, ?_, hleft, rfl⟩
  · simp [readInto, hlength]
  · simp [readInto, hgot, Socket.bytes]

theorem readInto_of_lt (buffer : DynamicBuffer) {socket : Socket} {n : Nat}
    (hlt : socket.bytes.length < n) :
    (readInto buffer socket n).ec = some (Error.asio socket.failure) ∧
      (readInto buffer socket n).socket.bytes = [] := by
  rcases asyncRead_flatten socket.pieces n with ⟨hgot, hleft⟩
  have hlength : (asyncRead socket.pieces n).1.length ≠ n := by
    rw [hgot, List.length_take]
    have : socket.pieces.flatten.length < n := hlt
    omega
  constructor
  · simp [readInto, hlength]
  · show (asyncRead socket.pieces n).2.flatten = []
    rw [hleft]
    exact List.drop_of_length_le (Nat.le_of_lt hlt)

/-!
# One frame

The second read appends the body to the committed prefix.  A read that hands over a frame
has taken bytes from the stream.
-/

/-- The first read leaves the prefix in the storage although none of it is committed
yet, and committing it makes it the whole of the buffer's data. -/
theorem readPrefix (buffer : DynamicBuffer) {socket : Socket}
    (hlong : 4 ≤ socket.bytes.length) :
    let read := readInto (buffer.consume buffer.size) socket 4
    read.ec = none ∧
      read.buffer.storage = socket.bytes.take 4 ∧
      (read.buffer.commit 4).data = socket.bytes.take 4 ∧
      read.socket.bytes = socket.bytes.drop 4 ∧
      read.socket.failure = socket.failure := by
  rcases readInto_of_le (buffer.consume buffer.size) hlong with
    ⟨hec, _, hbuffer, hsocket, hfailure⟩
  have hlength : (socket.bytes.take 4).length = 4 := by
    rw [List.length_take]
    omega
  have hempty : (buffer.consume buffer.size).data = [] := by
    rw [DynamicBuffer.data, buffer.consume_all_size, List.take_zero]
  refine ⟨hec, ?_, ?_, hsocket, hfailure⟩
  · rw [hbuffer, DynamicBuffer.prepare_fill_storage _ hlength, hempty, List.nil_append]
  · rw [hbuffer, DynamicBuffer.prepare_fill_commit_data _ hlength, hempty,
      List.nil_append]

theorem readBody (buffer : DynamicBuffer) {socket : Socket} {n : Nat}
    (hlong : n ≤ socket.bytes.length) :
    let read := readMessageHandler (readInto buffer socket n)
    read.ec = none ∧
      read.count = n + 4 ∧
      read.buffer.data = buffer.data ++ socket.bytes.take n ∧
      read.socket.bytes = socket.bytes.drop n ∧
      read.socket.failure = socket.failure := by
  rcases readInto_of_le buffer hlong with
    ⟨hec, hcount, hbuffer, hsocket, hfailure⟩
  have hlength : (socket.bytes.take n).length = n := by
    rw [List.length_take]
    exact Nat.min_eq_left hlong
  simp only [readMessageHandler, hec]
  refine ⟨trivial, ?_, ?_, hsocket, hfailure⟩
  · rw [hcount]
  · rw [hcount, hbuffer, DynamicBuffer.prepare_fill_commit_data _ hlength]

/-- A frame with a prefix in range is handed over whole, with its size, whatever the
buffer held before and however the stream is cut. -/
theorem readTcpPackageOp_frame (buffer : DynamicBuffer) {socket : Socket}
    {frame rest : Bytes} (hbytes : socket.bytes = frame ++ rest)
    (hlong : 4 ≤ frame.length)
    (hrange : LengthInRange (lengthPrefix frame))
    (hframeLength : lengthPrefix frame = ((frame.length - 4 : Nat) : Int)) :
    let read := readTcpPackageOp buffer socket
    read.ec = none ∧
      read.count = frame.length ∧
      read.buffer.data = frame ∧
      read.socket.bytes = rest ∧
      read.socket.failure = socket.failure := by
  have hfour : 4 ≤ socket.bytes.length := by
    rw [hbytes, List.length_append]
    omega
  have htake : socket.bytes.take 4 = frame.take 4 := by
    rw [hbytes, List.take_append_of_le_length hlong]
  have hdrop : socket.bytes.drop 4 = frame.drop 4 ++ rest := by
    rw [hbytes, List.drop_append_of_le_length hlong]
  rcases readPrefix buffer hfour with ⟨hec, hstorage, hcommitted, hsocket, hfailure⟩
  rw [htake] at hstorage hcommitted
  rw [hdrop] at hsocket
  have hread : lengthPrefix
      (readInto (buffer.consume buffer.size) socket 4).buffer.storage =
        lengthPrefix frame := by
    rw [hstorage, lengthPrefix, List.take_take, Nat.min_self, ← lengthPrefix]
  have hlength : (lengthPrefix frame).toNat = frame.length - 4 := by
    rw [hframeLength, Int.toNat_natCast]
  have hbody : frame.length - 4 ≤
      (readInto (buffer.consume buffer.size) socket 4).socket.bytes.length := by
    rw [hsocket, List.length_append, List.length_drop]
    omega
  rcases readBody ((readInto (buffer.consume buffer.size) socket 4).buffer.commit 4)
    hbody with ⟨hec', hcount', hdata', hsocket', hfailure'⟩
  rw [hsocket] at hdata' hsocket'
  rw [List.take_left' (by rw [List.length_drop]), hcommitted,
    List.take_append_drop] at hdata'
  rw [List.drop_left' (by rw [List.length_drop])] at hsocket'
  simp only [readTcpPackageOp, lengthCheckHandler, hec, hread, if_pos hrange, hlength]
  refine ⟨hec', ?_, hdata', hsocket', hfailure'.trans hfailure⟩
  rw [hcount']
  omega

theorem readMessageHandler_socket (read : Completion) :
    (readMessageHandler read).socket = read.socket := by
  cases hec : read.ec <;> simp [readMessageHandler, hec]

theorem readInto_left_le (buffer : DynamicBuffer) (socket : Socket) (n : Nat) :
    (readInto buffer socket n).socket.bytes.length ≤ socket.bytes.length := by
  show (asyncRead socket.pieces n).2.flatten.length ≤ socket.pieces.flatten.length
  rw [(asyncRead_flatten socket.pieces n).right, List.length_drop]
  exact Nat.sub_le _ _

theorem readTcpPackageOp_progress {buffer : DynamicBuffer} {socket : Socket}
    (hec : (readTcpPackageOp buffer socket).ec = none) :
    (readTcpPackageOp buffer socket).socket.bytes.length < socket.bytes.length := by
  rcases Nat.lt_or_ge socket.bytes.length 4 with hshort | hlong
  · rcases readInto_of_lt (buffer.consume buffer.size) hshort with ⟨hfail, _⟩
    rw [readTcpPackageOp, lengthCheckHandler, hfail] at hec
    simp [hfail] at hec
  · rcases readPrefix buffer hlong with ⟨hframeLength, _, _, hsocket, _⟩
    have hshorter :
        (readInto (buffer.consume buffer.size) socket 4).socket.bytes.length <
          socket.bytes.length := by
      rw [hsocket, List.length_drop]
      omega
    by_cases hrange : LengthInRange (lengthPrefix
        (readInto (buffer.consume buffer.size) socket 4).buffer.storage)
    · simp only [readTcpPackageOp, lengthCheckHandler, hframeLength, if_pos hrange]
      rw [readMessageHandler_socket]
      exact lt_of_le_of_lt (readInto_left_le _ _ _) hshorter
    · simp [readTcpPackageOp, lengthCheckHandler, hframeLength, if_neg hrange] at hec

/-!
# The receive loop

`async_start_receive` starts itself again after each frame, and ends with the first error.
-/

/-- What one completed read hands over: `frame_size` and `buffer_.data()`. -/
structure Frame where
  size : Nat
  bytes : Bytes
  deriving DecidableEq, Repr

/-- The frames handed over before the connection is closed, the error that closed
it, and the bytes that were not read. -/
structure Received where
  frames : List Frame
  error : Error
  left : Bytes

/-- `async_start_receive`, which starts itself again after each frame. -/
def asyncStartReceive (buffer : DynamicBuffer) (socket : Socket) : Received :=
  match _h : (readTcpPackageOp buffer socket).ec with
  | none =>
      let read := readTcpPackageOp buffer socket
      let later := asyncStartReceive read.buffer read.socket
      { later with
        frames := { size := read.count, bytes := read.buffer.data } :: later.frames }
  | some e =>
      { frames := []
        error := e
        left := (readTcpPackageOp buffer socket).socket.bytes }
termination_by socket.bytes.length
decreasing_by exact readTcpPackageOp_progress ‹_›

theorem asyncStartReceive_frame {buffer : DynamicBuffer} {socket : Socket}
    (hec : (readTcpPackageOp buffer socket).ec = none) :
    asyncStartReceive buffer socket =
      { asyncStartReceive (readTcpPackageOp buffer socket).buffer
          (readTcpPackageOp buffer socket).socket with
        frames :=
          { size := (readTcpPackageOp buffer socket).count
            bytes := (readTcpPackageOp buffer socket).buffer.data } ::
            (asyncStartReceive (readTcpPackageOp buffer socket).buffer
              (readTcpPackageOp buffer socket).socket).frames } := by
  rw [asyncStartReceive]
  split
  · rfl
  · rename_i e h
    rw [hec] at h
    cases h

theorem asyncStartReceive_error {buffer : DynamicBuffer} {socket : Socket} {e : Error}
    (hec : (readTcpPackageOp buffer socket).ec = some e) :
    asyncStartReceive buffer socket =
      { frames := []
        error := e
        left := (readTcpPackageOp buffer socket).socket.bytes } := by
  rw [asyncStartReceive]
  split
  · rename_i h
    rw [hec] at h
    cases h
  · rename_i e' h
    rw [hec] at h
    cases h
    rfl

end Wire
end EventStoreClient
