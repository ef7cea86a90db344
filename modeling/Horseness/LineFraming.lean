import Horseness.Generators
import Horseness.DelimitedStreams
import Horseness.JsonWriting
import Horseness.RecordedRuns

/-!
Newline-delimited frames. The reader splits what it has at line feeds, drops a carriage return before
one, and bounds frames and what is left of the buffer. It reads the same from every cutting of a
stream exactly when no line is one byte over the limit and ends in a carriage return: such a line fits
as a frame, and does not fit in the buffer while its line feed is still to come.
-/

namespace Horseness.LineFraming

open Generators DelimitedStreams ScriptText JsonValues JsonText ScriptEngine Utf8Text
  FallibleRuns WellFormedText JsonWriting

section Reader

inductive FramingError where
  | limitInvalid
  | oversized
  | malformed
  | incomplete
  deriving DecidableEq

/-- The class of an error. -/
inductive ErrorKind where
  | rangeError
  | syntaxError
  deriving DecidableEq

def FramingError.kind : FramingError → ErrorKind
  | .limitInvalid | .oversized => .rangeError
  | .malformed | .incomplete => .syntaxError

def FramingError.message : FramingError → String
  | .limitInvalid => "maxFrameBytes must be a positive safe integer"
  | .oversized => "JSON-RPC frame exceeds maximum size"
  | .malformed => "Malformed JSON-RPC frame"
  | .incomplete => "Incomplete JSON-RPC frame"

/-- A limit that `frameLimit` lets through. -/
structure FrameLimit where
  bytes : Nat
  positive : 1 ≤ bytes
  safe : bytes ≤ 9007199254740991

def defaultMaxFrameBytes : Nat := 1024 * 1024

def frameLimit (maxFrameBytes : Option JsNumber) : Except FramingError FrameLimit :=
  match maxFrameBytes.getD (.finite defaultMaxFrameBytes) with
  | .finite value =>
      if whole : value.den = 1 ∧ 1 ≤ value.num ∧ value.num ≤ 9007199254740991 then
        .ok ⟨value.num.toNat, by omega, by omega⟩
      else .error .limitInvalid
  | _ => .error .limitInvalid

def lineFeed : Nat := 0x0A
def carriageReturn : Nat := 0x0D

def frameOf (line : List Nat) : List Nat :=
  if line.getLast? = some carriageReturn then line.dropLast else line

variable [NumberFormat]

abbrev Reading (Final : Type) := Generated JsValue FramingError Final

def readFrame (limit : FrameLimit) (line : List Nat) : Reading Unit :=
  let frame := frameOf line
  if frame = [] then pure ()
  else if limit.bytes < frame.length then raise .oversized
  else match parse (decodeUtf8 frame) with
    | none => raise .malformed
    | some value => emit value

/-- One turn of the outer loop: `pending` is what the chunks before left past. -/
def readChunk (limit : FrameLimit) (pending chunk : List Nat) : Reading (List Nat) := do
  let buffer := pending ++ chunk
  if limit.bytes < buffer.length ∧ lineFeed ∉ buffer then raise .oversized
  let split := lines lineFeed buffer
  forM split.1 (readFrame limit)
  if limit.bytes < split.2.length then raise .oversized
  return split.2

def readFrames (limit : FrameLimit) (chunks : List (List Nat)) : Reading Unit := do
  let pending ← chunks.foldlM (readChunk limit) []
  if pending ≠ [] then raise .incomplete

def writeFrame (limit : FrameLimit) (value : JsValue) : Except FramingError (List Nat) :=
  let frame := utf8 (stringify value ++ js "\n")
  if limit.bytes < frame.length - 1 then .error .oversized else .ok frame

end Reader

section Lines

variable [NumberFormat] {limit : FrameLimit} {line rest stream : List Nat}

/-- The lines of a stream one after the other, and then its rest. -/
def readRest (limit : FrameLimit) (rest : List Nat) : Reading Unit :=
  if limit.bytes < rest.length then raise .oversized
  else if rest ≠ [] then raise .incomplete
  else pure ()

def readLines (limit : FrameLimit) (stream : List Nat) : Reading Unit := do
  forM (lines lineFeed stream).1 (readFrame limit)
  readRest limit (lines lineFeed stream).2

def Edge (limit : FrameLimit) (line : List Nat) : Prop :=
  line.length = limit.bytes + 1 ∧ line.getLast? = some carriageReturn

/-- The reader comes to no such line: each of them stands behind a line that it refuses. -/
def Clear (limit : FrameLimit) (stream : List Nat) : Prop :=
  ∀ before line after, (lines lineFeed stream).1 = before ++ line :: after →
    (forM before (readFrame limit)).ending = .ok () → ¬ Edge limit line

theorem long_frame (long : limit.bytes < line.length) (plain : ¬ Edge limit line) :
    readFrame limit line = raise .oversized := by
  have positive := limit.positive
  have shorter : (frameOf line).length = line.length ∨
      ((frameOf line).length = line.length - 1 ∧ line.getLast? = some carriageReturn) := by
    rw [frameOf]
    split
    · exact .inr ⟨List.length_dropLast, ‹_›⟩
    · exact .inl rfl
  have past : limit.bytes < (frameOf line).length := by
    rcases shorter with same | ⟨less, ends⟩
    · omega
    · have apart : line.length ≠ limit.bytes + 1 := fun exactly => plain ⟨exactly, ends⟩
      omega
  have filled : frameOf line ≠ [] := by
    intro empty
    rw [empty] at past
    exact Nat.not_lt_zero _ past
  rw [readFrame, if_neg filled, if_pos past]

omit [NumberFormat] in
theorem edge_frame (edge : Edge limit line) : (frameOf line).length = limit.bytes ∧ frameOf line ≠ [] := by
  obtain ⟨long, ends⟩ := edge
  have positive := limit.positive
  have same : (frameOf line).length = limit.bytes := by
    rw [frameOf, if_pos ends, List.length_dropLast, long, Nat.add_sub_cancel]
  refine ⟨same, ?_⟩
  intro empty
  rw [empty, List.length_nil] at same
  omega

-- What is past the limit before its line feed came is refused with it as well.
theorem long_rest {more : List Nat} (unmarked : lineFeed ∉ rest) (long : limit.bytes < rest.length)
    (clear : Clear limit (rest ++ more)) : readLines limit (rest ++ more) = raise .oversized := by
  by_cases marked : lineFeed ∈ more
  · obtain ⟨front, back, rfl, unseen⟩ := List.eq_append_cons_of_mem marked
    have whole : lineFeed ∉ rest ++ front :=
      fun found => (List.mem_append.mp found).elim unmarked unseen
    have first := lines_cons whole back
    rw [← List.append_assoc] at clear ⊢
    have past : limit.bytes < (rest ++ front).length := by
      rw [List.length_append]
      omega
    have refused := long_frame past (clear [] _ _ (congrArg Prod.fst first) rfl)
    rw [readLines, first, List.forM_cons, refused, raise_bind, raise_bind]
  · have whole : lineFeed ∉ rest ++ more :=
      fun found => (List.mem_append.mp found).elim unmarked marked
    have past : limit.bytes < (rest ++ more).length := by
      rw [List.length_append]
      omega
    rw [readLines, lines_open whole, readRest, if_pos past]
    rfl

theorem clear_rest {front back : List Nat} (clear : Clear limit (front ++ back))
    (finished : (forM (lines lineFeed front).1 (readFrame limit)).ending = .ok ()) :
    Clear limit ((lines lineFeed front).2 ++ back) := by
  intro before line after shape ended
  apply clear ((lines lineFeed front).1 ++ before) line after
  · rw [lines_append, shape, List.append_assoc]
  · rw [List.forM_append, bind_ended finished]
    exact ended

theorem read_lines_append (front back : List Nat) : readLines limit (front ++ back) = (do
    forM (lines lineFeed front).1 (readFrame limit)
    readLines limit ((lines lineFeed front).2 ++ back)) := by
  rw [readLines, lines_append, List.forM_append, bind_assoc]
  rfl

-- By induction on the chunks, from a buffer that is within the limit.
theorem read_chunks (chunks : List (List Nat)) {pending : List Nat} (unmarked : lineFeed ∉ pending)
    (fits : pending.length ≤ limit.bytes) (clear : Clear limit (pending ++ chunks.flatten)) :
    (do
      let pending ← chunks.foldlM (readChunk limit) pending
      if pending ≠ [] then raise .incomplete) = readLines limit (pending ++ chunks.flatten) := by
  induction chunks generalizing pending with
  | nil =>
      rw [List.flatten_nil, List.append_nil, readLines, lines_open unmarked, readRest,
        if_neg (Nat.not_lt.mpr fits), List.foldlM_nil, pure_bind]
      rfl
  | cons chunk rest ih =>
      rw [List.flatten_cons, ← List.append_assoc] at clear ⊢
      by_cases early : limit.bytes < (pending ++ chunk).length ∧ lineFeed ∉ pending ++ chunk
      · have stopped : readChunk limit pending chunk = raise .oversized := by
          rw [readChunk, if_pos early, raise_bind]
        rw [List.foldlM_cons, stopped, raise_bind, raise_bind, long_rest early.2 early.1 clear]
      · have stepped : readChunk limit pending chunk = (do
            forM (lines lineFeed (pending ++ chunk)).1 (readFrame limit)
            if limit.bytes < (lines lineFeed (pending ++ chunk)).2.length then raise .oversized
            return (lines lineFeed (pending ++ chunk)).2) := by
          rw [readChunk, if_neg early]
        rw [List.foldlM_cons, stepped, read_lines_append]
        simp only [bind_assoc]
        apply bind_congr_ended
        intro _ finished
        have later := clear_rest clear finished
        have left := (lines_joined lineFeed (pending ++ chunk)).2.2
        by_cases long : limit.bytes < (lines lineFeed (pending ++ chunk)).2.length
        · rw [if_pos long, raise_bind, raise_bind, long_rest left long later]
        · rw [if_neg long, ← ih left (Nat.not_lt.mp long) later]
          rfl

theorem read_frames_lines {chunks : List (List Nat)} (clear : Clear limit chunks.flatten) :
    readFrames limit chunks = readLines limit chunks.flatten :=
  read_chunks chunks List.not_mem_nil (Nat.zero_le _) clear

end Lines

section Cuttings

variable [NumberFormat] {limit : FrameLimit} {stream : List Nat}

/-- The same values, and then an end without an error or an error of the same kind. -/
def SameReading (one other : Reading Unit) : Prop :=
  one.items = other.items ∧
    one.ending.mapError FramingError.kind = other.ending.mapError FramingError.kind

omit [NumberFormat] in
theorem edge_cut {before after : List (List Nat)} {line : List Nat}
    (shape : (lines lineFeed stream).1 = before ++ line :: after) :
    ∃ front back, stream = front ++ lineFeed :: back ∧ lines lineFeed front = (before, line) := by
  obtain ⟨whole, each, _⟩ := lines_joined lineFeed stream
  refine ⟨joined lineFeed before line, joined lineFeed after (lines lineFeed stream).2, ?_, ?_⟩
  · calc stream
        _ = joined lineFeed (before ++ line :: after) (lines lineFeed stream).2 := by rw [← shape, whole]
        _ = _ := by rw [joined_append, joined_cons, joined_rest]
  · rw [shape] at each
    exact joined_lines (fun part member => each part (List.mem_append_left _ member))
      (each line (List.mem_append_right _ List.mem_cons_self))

-- Cut before its line feed, the line is past the limit of the buffer.
theorem edge_cut_read {front line : List Nat} {before chunks : List (List Nat)}
    (cut : lines lineFeed front = (before, line))
    (finished : (forM before (readFrame limit)).ending = .ok ()) (edge : Edge limit line) :
    readFrames limit (front :: chunks) =
      ⟨(forM before (readFrame limit)).items, .error .oversized⟩ := by
  have past : limit.bytes < line.length := by
    rw [edge.1]
    omega
  have stopped : readChunk limit [] front =
      ⟨(forM before (readFrame limit)).items, .error .oversized⟩ := by
    rw [readChunk, List.nil_append, cut]
    by_cases early : limit.bytes < front.length ∧ lineFeed ∉ front
    · obtain ⟨rfl, -⟩ := Prod.mk.inj ((lines_open early.2).symm.trans cut)
      rw [if_pos early, raise_bind]
      rfl
    · rw [if_neg early, bind_ended finished, if_pos past, raise_bind]
      exact Generated.ext (List.append_nil _) rfl
  rw [readFrames, List.foldlM_cons, stopped]
  rfl

theorem whole_read (marked : lineFeed ∈ stream) : readFrames limit [stream] = readLines limit stream := by
  have late : ¬ (limit.bytes < stream.length ∧ lineFeed ∉ stream) := fun early => early.2 marked
  rw [readFrames, List.foldlM_cons, readChunk, List.nil_append, if_neg late, readLines, bind_assoc,
    bind_assoc]
  refine bind_congr_ended fun _ _ => ?_
  by_cases past : limit.bytes < (lines lineFeed stream).2.length
  · rw [if_pos past, readRest, if_pos past, raise_bind, raise_bind]
  · rw [if_neg past, readRest, if_neg past]
    rfl

theorem edge_whole_read {before after : List (List Nat)} {line : List Nat}
    (shape : (lines lineFeed stream).1 = before ++ line :: after)
    (finished : (forM before (readFrame limit)).ending = .ok ()) : ∃ later : Unit → Reading Unit,
      readFrames limit [stream] = ⟨(forM before (readFrame limit)).items ++
        (readFrame limit line >>= later).items, (readFrame limit line >>= later).ending⟩ := by
  obtain ⟨front, back, rfl, _⟩ := edge_cut shape
  refine ⟨fun _ => forM after (readFrame limit) >>= fun _ =>
    readRest limit (lines lineFeed (front ++ lineFeed :: back)).2, ?_⟩
  rw [whole_read (by simp), readLines, shape, List.forM_append, List.forM_cons, bind_assoc,
    bind_ended finished, bind_assoc]

-- Cut before its line feed, the line is refused; in one piece it is read.
theorem edge_differs {before after : List (List Nat)} {line : List Nat}
    (shape : (lines lineFeed stream).1 = before ++ line :: after)
    (finished : (forM before (readFrame limit)).ending = .ok ()) (edge : Edge limit line) :
    ∃ one other, one.flatten = stream ∧ other.flatten = stream ∧
      ¬ SameReading (readFrames limit one) (readFrames limit other) := by
  obtain ⟨front, back, whole, cut⟩ := edge_cut shape
  refine ⟨[stream], [front, lineFeed :: back], by simp, by simp [whole], ?_⟩
  obtain ⟨later, read⟩ := edge_whole_read shape finished
  rw [edge_cut_read cut finished edge, read]
  rintro ⟨items, ending⟩
  obtain ⟨fits, filled⟩ := edge_frame edge
  have framed : readFrame limit line = match parse (decodeUtf8 (frameOf line)) with
      | none => raise .malformed
      | some value => emit value := by
    rw [readFrame, if_neg filled, if_neg (by omega)]
  cases parsed : parse (decodeUtf8 (frameOf line)) with
  | none =>
      simp only [parsed] at framed
      rw [framed, raise_bind] at ending
      cases ending
  | some value =>
      simp only [parsed] at framed
      have more := congrArg List.length items
      rw [framed, List.length_append, bind_ended rfl, emit, List.length_append, List.length_singleton]
        at more
      simp only at more
      omega

/-- The reader reads a stream the same from every cutting exactly when it comes to no such line. -/
theorem cuttings_agree_iff (limit : FrameLimit) (stream : List Nat) :
    (∀ one other : List (List Nat), one.flatten = stream → other.flatten = stream →
      SameReading (readFrames limit one) (readFrames limit other)) ↔ Clear limit stream := by
  constructor
  · intro agree before line after shape finished edge
    obtain ⟨one, other, first, second, differ⟩ := edge_differs shape finished edge
    exact differ (agree one other first second)
  · rintro clear one other rfl same
    rw [read_frames_lines clear, read_frames_lines (same ▸ clear), same]
    exact ⟨rfl, rfl⟩

end Cuttings

section Refusals

attribute [local instance] RecordedRuns.recordedNumbers

def oneByte : FrameLimit := ⟨1, by decide, by decide⟩

/-- A digit, a carriage return and a line feed: one piece is read, and a cut before the line feed is
refused. -/
theorem return_cut_refused :
    [[49, 13, 10]].flatten = [[49, 13], [10]].flatten ∧
      readFrames oneByte [[49, 13, 10]] = ⟨[.num (.finite 1)], .ok ()⟩ ∧
      readFrames oneByte [[49, 13], [10]] = ⟨[], .error .oversized⟩ ∧
      ¬ SameReading (readFrames oneByte [[49, 13, 10]]) (readFrames oneByte [[49, 13], [10]]) := by
  have first : readFrames oneByte [[49, 13, 10]] = ⟨[.num (.finite 1)], .ok ()⟩ := by rfl
  have second : readFrames oneByte [[49, 13], [10]] = ⟨[], .error .oversized⟩ := by rfl
  refine ⟨rfl, first, second, ?_⟩
  rw [first, second]
  rintro ⟨items, -⟩
  cases items

end Refusals

section RoundTrip

theorem utf8_visible {text : JsString} (line : OneLine text) : ∀ byte ∈ utf8 text, 0x20 ≤ byte := by
  obtain ⟨valid, visible⟩ := line
  fun_induction validUnicode text with
  | case1 => simp [utf8]
  | case2 unit high => simp at valid
  | case3 unit high next tail ih =>
      rw [Bool.and_eq_true] at valid
      rw [List.forall_mem_cons, List.forall_mem_cons] at visible
      rw [utf8_pair high valid.1]
      simp only [List.forall_mem_cons]
      exact ⟨by omega, by omega, by omega, by omega, ih valid.2 visible.2.2⟩
  | case4 unit rest plain ih =>
      simp only [Bool.not_eq_true] at plain
      rw [Bool.and_eq_true, Bool.not_eq_true'] at valid
      rw [List.forall_mem_cons] at visible
      rw [utf8_alone (by simp [plain]), List.forall_mem_append]
      refine ⟨?_, ih valid.2 visible.2⟩
      rw [unitBytes]
      split_ifs <;> simp [visible.1] <;> omega

theorem utf8_filled {text : JsString} (line : OneLine text) (filled : text ≠ []) : utf8 text ≠ [] := by
  intro empty
  have back := decode_utf8 line.1
  rw [empty] at back
  exact filled back.symm

variable [NumberFormat] {limit : FrameLimit}

def valueLine (value : JsValue) : List Nat := utf8 (stringify value)

theorem line_unmarked (value : JsValue) : lineFeed ∉ valueLine value :=
  fun found => absurd (utf8_visible (stringify_line value) _ found) (by decide)

theorem line_no_return (value : JsValue) : (valueLine value).getLast? ≠ some carriageReturn :=
  fun ends => absurd (utf8_visible (stringify_line value) _ (List.mem_of_getLast? ends)) (by decide)

theorem frame_written (value : JsValue) :
    utf8 (stringify value ++ js "\n") = valueLine value ++ [lineFeed] := by
  rw [utf8_append _ _ (valid_last (stringify_line value).1)]
  rfl

theorem line_read {value : JsValue} (fits : (valueLine value).length ≤ limit.bytes) :
    readFrame limit (valueLine value) = emit (reread value) := by
  have same : frameOf (valueLine value) = valueLine value := if_neg (line_no_return value)
  have filled : valueLine value ≠ [] := utf8_filled (stringify_line value) (stringify_filled value)
  have parsed : parse (decodeUtf8 (valueLine value)) = some (reread value) := by
    rw [valueLine, decode_utf8 (stringify_line value).1, parse_stringify]
  rw [readFrame, same, if_neg filled, if_neg (Nat.not_lt.mpr fits), parsed]

theorem lines_read {values : List JsValue} (fits : ∀ value ∈ values, (valueLine value).length ≤ limit.bytes) :
    forM (values.map valueLine) (readFrame limit) = ⟨values.map reread, .ok ()⟩ := by
  induction values with
  | nil => rfl
  | cons value rest ih =>
      rw [List.forall_mem_cons] at fits
      rw [List.map_cons, List.forM_cons, line_read fits.1, bind_ended rfl, ih fits.2]
      rfl

/-- Every cutting of what was written is read as the values that were written. -/
theorem framing_round_trip (limit : FrameLimit) (values : List JsValue)
    (fits : ∀ value ∈ values, (utf8 (stringify value)).length ≤ limit.bytes) :
    ∃ frames, values.mapM (writeFrame limit) = .ok frames ∧ ∀ chunks : List (List Nat),
      chunks.flatten = frames.flatten → (readFrames limit chunks).ending = .ok () ∧
        (readFrames limit chunks).items.map meaning = values.map meaning := by
  have written : values.mapM (writeFrame limit) =
      .ok (values.map fun value => valueLine value ++ [lineFeed]) := by
    rw [mapM_ok_iff, List.forall₂_map_right_iff, List.forall₂_same]
    intro value member
    have within : ¬ limit.bytes < (valueLine value ++ [lineFeed]).length - 1 := by
      rw [List.length_append, List.length_singleton, Nat.add_sub_cancel]
      exact Nat.not_lt.mpr (fits value member)
    rw [writeFrame, frame_written, if_neg within]
  refine ⟨_, written, ?_⟩
  intro chunks cut
  have stream : chunks.flatten = joined lineFeed (values.map valueLine) [] := by
    rw [cut, joined, List.append_nil, List.flatMap_map, List.flatMap_def]
  have split : lines lineFeed chunks.flatten = (values.map valueLine, []) := by
    rw [stream]
    exact joined_lines (List.forall_mem_map.mpr fun value _ => line_unmarked value) List.not_mem_nil
  have clear : Clear limit chunks.flatten := by
    intro before line after shape _ edge
    have shape : values.map valueLine = before ++ line :: after := by rw [← shape, split]
    have listed : line ∈ values.map valueLine := by simp [shape]
    obtain ⟨value, _, rfl⟩ := List.mem_map.mp listed
    exact line_no_return value edge.2
  have read : readFrames limit chunks = ⟨values.map reread, .ok ()⟩ := by
    rw [read_frames_lines clear, readLines, split, lines_read fits, bind_ended rfl]
    exact Generated.ext (List.append_nil _) rfl
  rw [read, List.map_map]
  exact ⟨rfl, List.map_congr_left fun value _ => meaning_reread value⟩

end RoundTrip

section Samples

attribute [local instance] RecordedRuns.recordedNumbers

theorem framing_round_trip_digit : ∃ frames,
    [JsValue.num (.finite 1)].mapM (writeFrame oneByte) = .ok frames ∧ ∀ chunks : List (List Nat),
      chunks.flatten = frames.flatten → (readFrames oneByte chunks).ending = .ok () ∧
        (readFrames oneByte chunks).items.map meaning = [JsValue.num (.finite 1)].map meaning := by
  have fits : ∀ value ∈ [JsValue.num (.finite 1)], (utf8 (stringify value)).length ≤ oneByte.bytes := by
    decide
  exact framing_round_trip oneByte _ fits

end Samples

end Horseness.LineFraming
