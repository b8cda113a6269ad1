import EventStoreClient.Wire.Read

/-!
# Framing

What the receive loop makes of any byte stream: the frames at its start, as far as they
go, and the reason why there is no further one.
-/

namespace EventStoreClient
namespace Wire

open Foundation

/-!
# Frames at the start of a stream

A stream that stops the reader does not start with a frame, and two frames at the start of
the same stream are the same.
-/

/-- Bytes that are a length prefix in range and as many bytes as it says. -/
structure IsFrame (bytes : Bytes) : Prop where
  four_le : 4 ≤ bytes.length
  in_range : LengthInRange (lengthPrefix bytes)
  length_eq : (bytes.length : Int) = lengthPrefix bytes + 4

/-- The stream is the frames and a rest, and no decomposition into frames goes further. -/
structure LongestFrames (stream : Bytes) (frames : List Bytes) (rest : Bytes) : Prop where
  stream_eq : stream = frames.flatten ++ rest
  are_frames : forall frame, frame ∈ frames -> IsFrame frame
  longest : forall frames' rest', stream = frames'.flatten ++ rest' ->
    (forall frame, frame ∈ frames' -> IsFrame frame) -> frames' <+: frames

/-- Why a stream has no frame at its start: the error that the reader stops with, and the
bytes that it has not asked for. -/
inductive Stops (failure : AsioErrors) : Bytes -> Error -> Bytes -> Prop where
  | truncatedPrefix {rest : Bytes} (hshort : rest.length < 4) :
      Stops failure rest (Error.asio failure) []
  | badLengthPrefix {rest : Bytes} (hlong : 4 ≤ rest.length)
      (hbad : ¬ LengthInRange (lengthPrefix rest)) :
      Stops failure rest (Error.communication .badLengthPrefix) (rest.drop 4)
  | truncatedBody {rest : Bytes} (hlong : 4 ≤ rest.length)
      (hrange : LengthInRange (lengthPrefix rest))
      (hshort : (rest.length : Int) < lengthPrefix rest + 4) :
      Stops failure rest (Error.asio failure) []

theorem lengthPrefix_append {bytes : Bytes} (hlong : 4 ≤ bytes.length) (rest : Bytes) :
    lengthPrefix (bytes ++ rest) = lengthPrefix bytes := by
  rw [lengthPrefix, lengthPrefix, List.take_append_of_le_length hlong]

theorem LengthInRange.pos {length : Int} (h : LengthInRange length) : 0 < length := by
  have hlow := h.left
  have hmandatory : ((kMandatorySize - kCommandOffset : Nat) : Int) = 18 := rfl
  omega

theorem Stops.no_frame {failure : AsioErrors} {rest left : Bytes} {e : Error}
    (hstops : Stops failure rest e left) {frame later : Bytes} (hframe : IsFrame frame) :
    rest ≠ frame ++ later := by
  intro heq
  have hfour := hframe.four_le
  have hsame : lengthPrefix rest = lengthPrefix frame := by
    rw [heq, lengthPrefix_append hfour]
  have hlength : rest.length = frame.length + later.length := by
    rw [heq, List.length_append]
  cases hstops with
  | truncatedPrefix hshort => omega
  | badLengthPrefix hlong hbad =>
      rw [hsame] at hbad
      exact hbad hframe.in_range
  | truncatedBody hlong hrange hshort =>
      have hframeLength := hframe.length_eq
      omega

theorem IsFrame.eq_of_append {frame other later rest : Bytes} (hframe : IsFrame frame)
    (hother : IsFrame other) (heq : frame ++ later = other ++ rest) : frame = other := by
  have hsame := congrArg lengthPrefix heq
  rw [lengthPrefix_append hframe.four_le, lengthPrefix_append hother.four_le] at hsame
  have hlength : frame.length = other.length := by
    have hl := hframe.length_eq
    have hr := hother.length_eq
    omega
  exact (List.append_inj heq hlength).left

/-- The frames in front of a rest that stops the reader are the longest decomposition. -/
theorem longestFrames_of_stops {failure : AsioErrors} {rest left : Bytes} {e : Error}
    (hstops : Stops failure rest e left) {frames : List Bytes}
    (hframes : forall frame, frame ∈ frames -> IsFrame frame) :
    LongestFrames (frames.flatten ++ rest) frames rest := by
  refine ⟨rfl, hframes, ?_⟩
  intro frames' rest' heq hframes'
  induction frames' generalizing frames with
  | nil => exact List.nil_prefix
  | cons other others ih =>
      have hother := hframes' other List.mem_cons_self
      rw [List.flatten_cons, List.append_assoc] at heq
      cases frames with
      | nil => exact absurd heq (hstops.no_frame hother)
      | cons frame frames =>
          rw [List.flatten_cons, List.append_assoc] at heq
          have hsame := (hframes frame List.mem_cons_self).eq_of_append hother heq
          rw [<- hsame] at heq ⊢
          rw [List.prefix_cons_inj]
          exact ih (fun f hf => hframes f (List.mem_cons_of_mem _ hf))
            (List.append_cancel_left heq)
            (fun f hf => hframes' f (List.mem_cons_of_mem _ hf))

/-!
# What one read does

A stream starts with a frame or stops the reader, and the reader hands over the frame at
its start.
-/

theorem frame_or_stops (failure : AsioErrors) (stream : Bytes) :
    (exists frame rest, stream = frame ++ rest ∧ IsFrame frame) ∨
      exists e left, Stops failure stream e left := by
  rcases Nat.lt_or_ge stream.length 4 with hshort | hlong
  · exact Or.inr ⟨_, _, Stops.truncatedPrefix hshort⟩
  · by_cases hrange : LengthInRange (lengthPrefix stream)
    · rcases lt_or_ge (stream.length : Int) (lengthPrefix stream + 4) with hshort | hfull
      · exact Or.inr ⟨_, _, Stops.truncatedBody hlong hrange hshort⟩
      · have hpos := hrange.pos
        let n := ((lengthPrefix stream).toNat + 4)
        have hn : (n : Int) = lengthPrefix stream + 4 := by
          show (((lengthPrefix stream).toNat + 4 : Nat) : Int) = _
          omega
        have htake : (stream.take n).length = n := by
          rw [List.length_take]
          omega
        have hsame : lengthPrefix (stream.take n) = lengthPrefix stream := by
          rw [lengthPrefix, lengthPrefix, List.take_take, Nat.min_eq_left (by omega)]
        refine Or.inl ⟨stream.take n, stream.drop n, (List.take_append_drop n stream).symm, ?_⟩
        constructor
        · omega
        · rw [hsame]
          exact hrange
        · rw [htake, hsame, hn]
    · exact Or.inr ⟨_, _, Stops.badLengthPrefix hlong hrange⟩

/-- The reader stops where there is no frame, with the error and the bytes that the stream
alone determines. -/
theorem readTcpPackageOp_stops (buffer : DynamicBuffer) {socket : Socket} {e : Error}
    {left : Bytes} (hstops : Stops socket.failure socket.bytes e left) :
    (readTcpPackageOp buffer socket).ec = some e ∧
      (readTcpPackageOp buffer socket).socket.bytes = left := by
  have hprefixRead : 4 ≤ socket.bytes.length -> lengthPrefix
      (readInto (buffer.consume buffer.size) socket 4).buffer.storage =
        lengthPrefix socket.bytes := by
    intro hlong
    rw [(readPrefix buffer hlong).right.left, lengthPrefix, List.take_take, Nat.min_self,
      <- lengthPrefix]
  cases hstops with
  | truncatedPrefix hshort =>
      rcases readInto_of_lt (buffer.consume buffer.size) hshort with ⟨hec, hleft⟩
      simp only [readTcpPackageOp, lengthCheckHandler, hec]
      exact ⟨trivial, hleft⟩
  | badLengthPrefix hlong hbad =>
      rcases readPrefix buffer hlong with ⟨hec, _, _, hsocket, _⟩
      simp only [readTcpPackageOp, lengthCheckHandler, hec, hprefixRead hlong, if_neg hbad]
      exact ⟨trivial, hsocket⟩
  | truncatedBody hlong hrange hshort =>
      rcases readPrefix buffer hlong with ⟨hec, _, _, hsocket, hfailure⟩
      have hpos := hrange.pos
      have hbody : (readInto (buffer.consume buffer.size) socket 4).socket.bytes.length <
          (lengthPrefix socket.bytes).toNat := by
        rw [hsocket, List.length_drop]
        omega
      rcases readInto_of_lt
        ((readInto (buffer.consume buffer.size) socket 4).buffer.commit 4) hbody with
        ⟨hec', hleft'⟩
      simp only [readTcpPackageOp, lengthCheckHandler, hec, hprefixRead hlong,
        if_pos hrange, readMessageHandler, hec']
      rw [hfailure]
      exact ⟨rfl, hleft'⟩

theorem readTcpPackageOp_isFrame (buffer : DynamicBuffer) {socket : Socket}
    {frame rest : Bytes} (hbytes : socket.bytes = frame ++ rest) (hframe : IsFrame frame) :
    let read := readTcpPackageOp buffer socket
    read.ec = none ∧
      read.count = frame.length ∧
      read.buffer.data = frame ∧
      read.socket.bytes = rest ∧
      read.socket.failure = socket.failure := by
  have hfour := hframe.four_le
  have hlength := hframe.length_eq
  exact readTcpPackageOp_frame buffer hbytes hfour hframe.in_range (by omega)

/-!
# The receive loop

The loop takes one frame after another off the stream, until it is stopped.
-/

/-- The loop hands over frame after frame, each whole and with its size, until the stream
stops it. -/
theorem asyncStartReceive_frames (buffer : DynamicBuffer) (socket : Socket) :
    exists (frames : List Bytes) (rest : Bytes), socket.bytes = frames.flatten ++ rest ∧
      (forall frame, frame ∈ frames -> IsFrame frame) ∧
      (asyncStartReceive buffer socket).frames =
        frames.map (fun frame => { size := frame.length, bytes := frame }) ∧
      Stops socket.failure rest (asyncStartReceive buffer socket).error
        (asyncStartReceive buffer socket).left := by
  -- each frame makes the stream shorter
  induction hsize : socket.bytes.length using Nat.strong_induction_on
    generalizing buffer socket with
  | _ size ih =>
      rcases frame_or_stops socket.failure socket.bytes with
        ⟨frame, rest, hbytes, hframe⟩ | ⟨e, left, hstops⟩
      · rcases readTcpPackageOp_isFrame buffer hbytes hframe with
          ⟨hec, hcount, hdata, hrest, hfailure⟩
        have hshorter := readTcpPackageOp_progress hec
        rcases ih _ (hsize ▸ hshorter) (readTcpPackageOp buffer socket).buffer
          (readTcpPackageOp buffer socket).socket rfl with
          ⟨frames, last, hlater, hframes, hreceived, hstops⟩
        rw [asyncStartReceive_frame hec]
        refine ⟨frame :: frames, last, ?_, ?_, ?_, ?_⟩
        · rw [hbytes, <- hrest, hlater, List.flatten_cons, List.append_assoc]
        · rw [List.forall_mem_cons]
          exact ⟨hframe, hframes⟩
        · rw [hcount, hdata, hreceived]
          rfl
        · rw [<- hfailure]
          exact hstops
      · rcases readTcpPackageOp_stops buffer hstops with ⟨hec, hleft⟩
        rw [asyncStartReceive_error hec, hleft]
        exact ⟨[], socket.bytes, rfl, fun _ hmem => absurd hmem List.not_mem_nil, rfl,
          hstops⟩

/-- Whatever the stream, however it is cut, and whatever the buffer holds at first: the
frames of the longest decomposition are handed over, and then the loop stops. -/
theorem asyncStartReceive_longestFrames (buffer : DynamicBuffer) (socket : Socket) :
    exists (frames : List Bytes) (rest : Bytes),
      LongestFrames socket.bytes frames rest ∧
      (asyncStartReceive buffer socket).frames =
        frames.map (fun frame => { size := frame.length, bytes := frame }) ∧
      Stops socket.failure rest (asyncStartReceive buffer socket).error
        (asyncStartReceive buffer socket).left := by
  rcases asyncStartReceive_frames buffer socket with
    ⟨frames, rest, hbytes, hframes, hreceived, hstops⟩
  refine ⟨frames, rest, ?_, hreceived, hstops⟩
  rw [hbytes]
  exact longestFrames_of_stops hstops hframes

end Wire
end EventStoreClient
