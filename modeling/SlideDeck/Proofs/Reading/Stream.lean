import Mathlib.Data.PNat.Defs
import SlideDeck.Reading.Stream

/-!
# Cuts of a stream

The answer for a stream depends on its bytes and on whether it fails, but not on where its chunks
are cut: not even a cut inside a character matters. Nor does the room that there is for each read,
although a read takes no more of a chunk than there is room for, which cuts the chunk once more.

Results:
* `ByteStream.contents_eq_afterRead`: what a stream comes to, told by its first read.
* `ByteStream.readAll_eq`: reading to the end, with any room for each read, comes to the contents.
* `cuts_irrelevant`: the answer for a stream, however it is cut.
-/

namespace SlideDeck

namespace ByteStream

/-! ## One read -/

/-- One read: as much of the first chunk as there is room for, and what later reads find. -/
def read (room : ℕ+) : ByteStream → Except String (List UInt8 × ByteStream)
  | ⟨[], some reason⟩ => .error reason
  | ⟨[], none⟩ => .ok ([], ⟨[], none⟩)
  | ⟨chunk :: rest, failure⟩ =>
    if chunk.length ≤ room then .ok (chunk, ⟨rest, failure⟩)
    else .ok (chunk.take room, ⟨chunk.drop room :: rest, failure⟩)

/-- A read loses no bytes. -/
theorem flatten_read {room : ℕ+} {s rest : ByteStream} {bytes : List UInt8}
    (h : s.read room = .ok (bytes, rest)) :
    s.chunks.flatten = bytes ++ rest.chunks.flatten := by
  revert h
  fun_cases read room s with
  | case1 => nofun
  | case2 | case3 =>
    intro h
    cases h
    rfl
  | case4 chunk =>
    intro h
    cases h
    simp only [List.flatten_cons, ← List.append_assoc, List.take_append_drop]

/-- What a stream comes to whose first read comes to this. A read that hands out nothing is the end
of the stream. -/
def afterRead : Except String (List UInt8 × ByteStream) → Except ReadError (List UInt8)
  | .error reason => .error (.failed reason)
  | .ok ([], _) => .ok []
  | .ok (b :: bs, rest) => rest.contents.map (b :: bs ++ ·)

theorem afterRead_ok {bytes : List UInt8} (h : bytes ≠ []) (rest : ByteStream) :
    afterRead (.ok (bytes, rest)) = rest.contents.map (bytes ++ ·) := by
  obtain ⟨b, bs, rfl⟩ := List.exists_cons_of_ne_nil h
  rfl

/-- A chunk may be cut in two. -/
theorem gather_cut {failure : Option String} {front behind : List UInt8}
    {rest : List (List UInt8)} (hfront : front ≠ []) (hbehind : behind ≠ []) :
    gather failure ((front ++ behind) :: rest) = gather failure (front :: behind :: rest) := by
  rw [gather_cons (List.append_ne_nil_of_left_ne_nil hfront _), gather_cons hfront,
    gather_cons hbehind, map_map_append]

theorem contents_eq_afterRead (room : ℕ+) (s : ByteStream) :
    s.contents = afterRead (s.read room) := by
  fun_cases read room s with
  | case1 reason => rfl
  | case2 => rfl
  | case3 chunk rest failure =>
    cases chunk with
    | nil => rfl
    | cons b bs => exact gather_cons (List.cons_ne_nil b bs)
  | case4 chunk rest failure h =>
    have hfront : chunk.take room ≠ [] := by
      simp only [ne_eq, List.take_eq_nil_iff, PNat.ne_zero, false_or]
      rintro rfl
      exact h (Nat.zero_le _)
    have hbehind : chunk.drop room ≠ [] := fun hnil => h (List.drop_eq_nil_iff.1 hnil)
    rw [afterRead_ok hfront]
    calc gather failure (chunk :: rest)
        = gather failure ((chunk.take room ++ chunk.drop room) :: rest) := by
          rw [List.take_append_drop]
      _ = gather failure (chunk.take room :: chunk.drop room :: rest) := gather_cut hfront hbehind
      _ = (gather failure (chunk.drop room :: rest)).map (chunk.take room ++ ·) :=
          gather_cons hfront

/-! ## Reading to the end -/

/-- Reads until a read hands out nothing or fails. How much room there is for a read may depend on
what is in the buffer by then. -/
def readAll (room : List UInt8 → ℕ+) (buffer : List UInt8) (s : ByteStream) :
    Except ReadError (List UInt8) :=
  match _h : s.read (room buffer) with
  | .error reason => .error (.failed reason)
  | .ok ([], _) => .ok buffer
  | .ok (b :: bs, rest) => readAll room (buffer ++ b :: bs) rest
termination_by s.chunks.flatten.length
decreasing_by
  rw [flatten_read _h, List.length_append]
  exact Nat.lt_add_of_pos_left (Nat.succ_pos _)

/-- Reading to the end adds the contents of the stream to the buffer. -/
theorem readAll_eq (room : List UInt8 → ℕ+) (buffer : List UInt8) (s : ByteStream) :
    s.readAll room buffer = s.contents.map (buffer ++ ·) := by
  -- The buffer and the contents still to come are, taken together, the same before every read.
  fun_induction readAll room buffer s with
  | case1 buffer s reason h =>
    rw [contents_eq_afterRead (room buffer) s, h]
    rfl
  | case2 buffer s rest h =>
    rw [contents_eq_afterRead (room buffer) s, h]
    exact congrArg Except.ok (List.append_nil _).symm
  | case3 buffer s b bs rest h ih =>
    rw [ih, contents_eq_afterRead (room buffer) s, h, afterRead, map_map_append]

end ByteStream

/-! ## The answer -/

theorem readDeckFrom_of_source_eq_error (config : Config) {s : ByteStream} {e : ReadError}
    (h : s.source = .error e) : readDeckFrom config s = some (.error e) := by
  rw [readDeckFrom, h]

/-- However the bytes are cut, reading to the end comes to the contents, with any room for each
read. If the bytes encode a source, the answer is that for the source; if they encode none, or if
the stream fails behind them, the answer says so and holds no diagnostics. -/
theorem cuts_irrelevant (config : Config) (room : List UInt8 → ℕ+) {chunks : List (List UInt8)}
    (hchunks : ∀ chunk ∈ chunks, chunk ≠ []) :
    let stream (failure : Option String) : ByteStream := ⟨chunks, failure⟩
    let bytes := chunks.flatten.toByteArray
    (∀ failure, (stream failure).readAll room [] = (stream failure).contents) ∧
    (∀ source : String, bytes = source.toByteArray →
      readDeckFrom config (stream none) = (readDeck config source).map (·.mapError .faulty)) ∧
    (¬ bytes.IsValidUTF8 → readDeckFrom config (stream none) = some (.error .notUtf8) ∧
      ReadError.notUtf8.diagnostics? = none) ∧
    ∀ reason, readDeckFrom config (stream (some reason)) = some (.error (.failed reason)) ∧
      (ReadError.failed reason).diagnostics? = none := by
  intro stream bytes
  refine ⟨fun failure => ?_, fun source hsource => readDeckFrom_whole config hchunks hsource,
    fun hinvalid => ⟨?_, rfl⟩, fun reason => ⟨?_, rfl⟩⟩
  · rw [ByteStream.readAll_eq]
    cases (stream failure).contents <;> rfl
  · apply readDeckFrom_of_source_eq_error
    rw [ByteStream.source, ByteStream.contents_whole hchunks]
    exact decodeUtf8_eq_error hinvalid
  · apply readDeckFrom_of_source_eq_error
    rw [ByteStream.source, ByteStream.contents_failing reason hchunks]
    rfl

/-- Both characters of several bytes are cut, so that no chunk alone encodes a text. Bytes that
encode none do not hide the failure behind them. -/
theorem cuts_irrelevant_insideCharacters :
    let source := "#😀\nslide ß \x7b\x7d"
    let chunks : List (List UInt8) := [[35, 240, 159],
      [152, 128, 10, 115, 108, 105, 100, 101, 32, 195], [159, 32, 123, 125]]
    let broken : List (List UInt8) := [[115], [255, 254]]
    let room : List UInt8 → ℕ+ := fun buffer => ⟨buffer.length % 3 + 1, Nat.succ_pos _⟩
    (∀ chunk ∈ chunks, ¬ chunk.toByteArray.IsValidUTF8) ∧
      chunks.flatten.toByteArray = source.toByteArray ∧
      (ByteStream.mk chunks none).readAll room [] = .ok chunks.flatten ∧
      readDeckFrom ⟨some 256⟩ ⟨chunks, none⟩ = some (.ok ⟨[{}]⟩) ∧
      readDeckFrom ⟨some 256⟩ ⟨broken, none⟩ = some (.error .notUtf8) ∧
      readDeckFrom ⟨some 256⟩ ⟨broken, some "disk on fire"⟩ =
        some (.error (.failed "disk on fire")) := by
  intro source chunks broken room
  have hsource : chunks.flatten.toByteArray = source.toByteArray := by decide +kernel
  have hdeck : readDeck ⟨some 256⟩ source = some (.ok ⟨[{}]⟩) := by decide +kernel
  have hinvalid : ¬ broken.flatten.toByteArray.IsValidUTF8 := by decide +kernel
  obtain ⟨hread, hwhole, -, -⟩ :=
    cuts_irrelevant ⟨some 256⟩ room (show ∀ chunk ∈ chunks, chunk ≠ [] by decide)
  obtain ⟨-, -, hbroken, hfailing⟩ :=
    cuts_irrelevant ⟨some 256⟩ room (show ∀ chunk ∈ broken, chunk ≠ [] by decide)
  refine ⟨by decide +kernel, hsource, hread none, ?_, (hbroken hinvalid).1, (hfailing _).1⟩
  rw [hwhole source hsource, hdeck]
  rfl

end SlideDeck
