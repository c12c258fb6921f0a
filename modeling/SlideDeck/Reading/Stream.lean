import SlideDeck.Reading.Stages

/-!
# Reading decks from a stream

A stream hands out its bytes in chunks. An empty chunk ends it; after the last chunk it ends too, or
fails. The bytes are decoded when all of them are there, so it does not matter where they were cut.

Results:
* `ByteStream.contents_whole`, `ByteStream.contents_failing`: a stream that does not fail yields its
  chunks joined together, and one that fails yields nothing of them.
* `decodeUtf8_eq_ok`, `decodeUtf8_eq_error`: bytes are decoded exactly if they encode a text.
* `readDeckFrom_whole`: reading a stream of the encoding of a source is reading the source.
-/

namespace SlideDeck

structure ByteStream where
  chunks : List (List UInt8)
  /-- Why the stream fails after the last chunk, if it does. -/
  failure : Option String := none

/-- Why no deck could be read (`SlyError`). -/
inductive ReadError where
  /-- The stream failed. -/
  | failed (reason : String)
  /-- The bytes are not the UTF-8 encoding of a text. -/
  | notUtf8
  /-- A stage found faults. -/
  | faulty (diagnostics : List Diagnostic)
deriving DecidableEq, Repr

namespace ReadError

def message : ReadError → String
  | failed reason => "failed to read source: " ++ reason
  | notUtf8 => "failed to read source: stream did not contain valid UTF-8"
  | faulty ds => Diagnostic.renderAll ds

/-- The diagnostics, if there was a source to find faults in (`SlyError::diagnostics`). -/
def diagnostics? : ReadError → Option (List Diagnostic)
  | faulty ds => some ds
  | _ => none

end ReadError

namespace ByteStream

/-- The bytes of the chunks, if the stream ends before it fails. -/
def gather (failure : Option String) : List (List UInt8) → Except ReadError (List UInt8)
  | [] =>
    match failure with
    | some reason => .error (.failed reason)
    | none => .ok []
  | [] :: _ => .ok []
  | chunk :: rest => (gather failure rest).map (chunk ++ ·)

/-- All bytes of the stream. -/
def contents (s : ByteStream) : Except ReadError (List UInt8) := gather s.failure s.chunks

theorem gather_cons {failure : Option String} {chunk : List UInt8} {rest : List (List UInt8)}
    (h : chunk ≠ []) : gather failure (chunk :: rest) = (gather failure rest).map (chunk ++ ·) := by
  rw [gather]
  exact h

theorem map_map_append (front behind : List UInt8) (result : Except ReadError (List UInt8)) :
    (result.map (behind ++ ·)).map (front ++ ·) = result.map (front ++ behind ++ ·) := by
  cases result with
  | error e => rfl
  | ok bytes => exact congrArg Except.ok (List.append_assoc ..).symm

/-- The chunks come before whatever the stream ends with. -/
theorem gather_eq_map {failure : Option String} {chunks : List (List UInt8)}
    (h : ∀ chunk ∈ chunks, chunk ≠ []) :
    gather failure chunks = (gather failure []).map (chunks.flatten ++ ·) := by
  induction chunks with
  | nil => cases failure <;> rfl
  | cons chunk rest ih =>
    obtain ⟨hchunk, hrest⟩ := List.forall_mem_cons.1 h
    rw [gather_cons hchunk, ih hrest, map_map_append, List.flatten_cons]

theorem contents_whole {chunks : List (List UInt8)} (h : ∀ chunk ∈ chunks, chunk ≠ []) :
    (ByteStream.mk chunks none).contents = .ok chunks.flatten :=
  (gather_eq_map h).trans (congrArg Except.ok (List.append_nil _))

theorem contents_failing {chunks : List (List UInt8)} (reason : String)
    (h : ∀ chunk ∈ chunks, chunk ≠ []) :
    (ByteStream.mk chunks (some reason)).contents = .error (.failed reason) :=
  gather_eq_map h

end ByteStream

/-- The text that the bytes encode. -/
def decodeUtf8 (bytes : List UInt8) : Except ReadError String :=
  match String.fromUTF8? bytes.toByteArray with
  | some text => .ok text
  | none => .error .notUtf8

/-- The source in the stream (`read_to_string`). -/
def ByteStream.source (s : ByteStream) : Except ReadError String := s.contents.bind decodeUtf8

/-- The deck that the source in the stream describes (`read_show_from`). -/
def readDeckFrom (config : Config) (stream : ByteStream) : Option (Except ReadError Deck) :=
  match stream.source with
  | .ok source => (readDeck config source).map (·.mapError .faulty)
  | .error e => some (.error e)

theorem decodeUtf8_eq_ok {bytes : List UInt8} {source : String}
    (h : bytes.toByteArray = source.toByteArray) : decodeUtf8 bytes = .ok source := by
  have hv : source.toByteArray.IsValidUTF8 := source.isValidUTF8
  simp [decodeUtf8, String.fromUTF8?, h, hv]
  rfl

theorem decodeUtf8_eq_error {bytes : List UInt8} (h : ¬ bytes.toByteArray.IsValidUTF8) :
    decodeUtf8 bytes = .error .notUtf8 := by
  simp [decodeUtf8, String.fromUTF8?, h]

theorem readDeckFrom_whole (config : Config) {chunks : List (List UInt8)} {source : String}
    (hne : ∀ chunk ∈ chunks, chunk ≠ []) (h : chunks.flatten.toByteArray = source.toByteArray) :
    readDeckFrom config ⟨chunks, none⟩ = (readDeck config source).map (·.mapError .faulty) := by
  simp [readDeckFrom, ByteStream.source, ByteStream.contents_whole hne, decodeUtf8_eq_ok h,
    Except.bind]

end SlideDeck
