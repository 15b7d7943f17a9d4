import SreAgent.Lib.Framing
import SreAgent.Lib.Json

/-!
# Server-sent events

`_sse` of `webapp/chat.py` and the loop of `sendMessage` in `static/app.js` that reads the events
back. What is sent is printable ASCII but for the line breaks between events, so the pieces that
`TextDecoder` makes of the bytes received are the pieces of the text that was sent, wherever the
network cuts it. `JSON.parse` is a parameter.

The network may cut the bytes anywhere, in the middle of an event or between the two line breaks
that end it. The reader keeps what is behind the last blank line and goes on with the next piece.
That this loses nothing is a fact about framing (`SreAgent.Lib.Framing`); what is added here is that
no event has a blank line in it.
-/

namespace SreAgent.Webapp.Sse

open Py (Json)

/-! ## The server

An event is an object on one line. JSON escapes the line breaks of its texts, so the only ones in
the stream are those between events. -/

/-- The arguments of one `_sse`. -/
structure SseEvent where
  eventType : String
  data      : List (String × Json)

/-- `{"type": event_type, **data}`. -/
def SseEvent.object (e : SseEvent) : Json :=
  .obj (("type", (Py.member e.data "type").getD (.str e.eventType)) ::
    e.data.filter fun kv => kv.1 != "type")

/-- `"data: "`. -/
def field : List Char := ['d', 'a', 't', 'a', ':', ' ']

/-- The text of an event, up to the blank line. -/
def SseEvent.line (e : SseEvent) : List Char := field ++ e.object.dumps [' ']

/-- `"\n\n"`. -/
def blankLine : List Char := ['\n', '\n']

def sse (e : SseEvent) : List Char := e.line ++ blankLine

/-! ## The browser

The loop of the page, with its trimming and its test for empty lines. Whatever `JSON.parse` raises
ends it. -/

/-- What `trim` takes away. -/
def isJsSpace (c : Char) : Bool :=
  (9 ≤ c.toNat && c.toNat ≤ 13) || c.toNat == 32 ||
  [0xA0, 0x1680, 0x2028, 0x2029, 0x202F, 0x205F, 0x3000, 0xFEFF].contains c.toNat ||
  (0x2000 ≤ c.toNat && c.toNat ≤ 0x200A)

/-- `s.trim()`. -/
def trim (cs : List Char) : List Char :=
  ((cs.dropWhile isJsSpace).reverse.dropWhile isJsSpace).reverse

/-- `ev.replace(/^data: /, "")`. -/
def dropField (ev : List Char) : List Char :=
  if field.isPrefixOf ev then ev.drop field.length else ev

/-- The variables of the loop: what is kept of the text received, and the messages handled. -/
structure Reader where
  buf      : List Char := []
  messages : List Json := []

/-- `JSON.parse`; `none` is the `SyntaxError` that ends the loop. -/
abbrev Parse := List Char → Option Json

/-- The body of `for (const ev of events)`. -/
def onEvent (parse : Parse) (messages : List Json) (ev : List Char) : Option (List Json) :=
  let line := trim (dropField ev)
  if line.isEmpty then some messages else (parse line).map fun msg => messages ++ [msg]

/-- One turn of the loop. -/
def onPiece (parse : Parse) (r : Reader) (piece : List Char) : Option Reader :=
  let events := Framing.split blankLine (r.buf ++ piece)
  (events.dropLast.foldlM (onEvent parse) r.messages).map fun messages =>
    { buf := events.getLastD [], messages := messages }

/-- The reader loop of `sendMessage`, over everything that is received. The pieces are cut wherever
the network cut them, within a frame or within its separator. -/
def sendMessage (parse : Parse) (pieces : List (List Char)) : Option Reader :=
  pieces.foldlM (onPiece parse) {}

/-! ## One event

What the reader gets of an event is the line it was sent as. -/

/-- There is no line break in the line of an event. -/
theorem line_noBreak (e : SseEvent) : '\n' ∉ e.line := by
  intro hmem
  rcases List.mem_append.mp hmem with hmem | hmem
  · revert hmem
    decide
  · have hspace : ∀ c ∈ [' '], Py.isPrintable c = true := List.forall_mem_singleton.mpr rfl
    have hbreak := Py.isPrintable_dumps hspace e.object '\n' hmem
    cases hbreak

/-- Nothing is trimmed off an object. -/
theorem trim_dumps (ms : List (String × Json)) :
    trim ((Json.obj ms).dumps [' ']) = (Json.obj ms).dumps [' '] := by
  obtain ⟨cs, hcs⟩ := Py.dumps_obj [' '] ms
  have hfront : ('{' :: (cs ++ ['}'])).dropWhile isJsSpace = '{' :: (cs ++ ['}']) :=
    List.dropWhile_cons_of_neg (by decide)
  have hback : ('{' :: (cs ++ ['}'])).reverse = '}' :: (cs.reverse ++ ['{']) := by simp
  rw [hcs, trim, hfront, hback, List.dropWhile_cons_of_neg (by decide), ← hback,
    List.reverse_reverse]

variable {parse : Parse} (hparse : ∀ v : Json, parse (v.dumps [' ']) = some v)

include hparse

/-- **An event is handled as what it was made of.** -/
theorem onEvent_line (messages : List Json) (e : SseEvent) :
    onEvent parse messages e.line = some (messages ++ [e.object]) := by
  have hfield : dropField e.line = e.object.dumps [' '] := by
    rw [dropField, SseEvent.line, if_pos (List.isPrefixOf_iff_prefix.mpr (List.prefix_append _ _)),
      List.drop_left]
  have htrim : trim (e.object.dumps [' ']) = e.object.dumps [' '] := trim_dumps _
  obtain ⟨c, cs, htext, -⟩ := Py.dumps_head [' '] e.object
  have hne : (e.object.dumps [' ']).isEmpty = false := by
    rw [htext]
    rfl
  rw [onEvent, hfield, htrim, hne, hparse]
  rfl

/-- Events are handled one after the other. -/
theorem foldlM_lines (messages : List Json) (events : List SseEvent) :
    (events.map SseEvent.line).foldlM (onEvent parse) messages =
      some (messages ++ events.map SseEvent.object) := by
  induction events generalizing messages with
  | nil => exact congrArg some (List.append_nil _).symm
  | cons e events ih =>
      rw [List.map_cons, List.foldlM_cons, onEvent_line hparse]
      show (events.map SseEvent.line).foldlM (onEvent parse) (messages ++ [e.object]) = _
      rw [ih, List.append_assoc]
      rfl

omit hparse

/-! ## The loop

Reading pieces is reading frames, whatever the pieces, and nothing is left over if the last piece
ends with an event. -/

/-- The loop reads frames and handles them as it goes. -/
theorem foldlM_pieces (parse : Parse) (r : Reader) (pieces : List (List Char)) :
    pieces.foldlM (onPiece parse) r =
      ((Framing.read blankLine r.buf pieces).1.foldlM (onEvent parse) r.messages).map fun messages =>
        { buf := (Framing.read blankLine r.buf pieces).2, messages := messages } := by
  induction pieces generalizing r with
  | nil => rfl
  | cons piece pieces ih =>
      rw [List.foldlM_cons, onPiece, Framing.read, Framing.feed]
      dsimp only
      rw [List.foldlM_append]
      -- a frame that does not parse ends the loop, whatever was still to come
      cases hfed : (Framing.split blankLine (r.buf ++ piece)).dropLast.foldlM (onEvent parse)
          r.messages with
      | none => rfl
      | some messages => exact ih _

/-- **However the stream is cut.** For every sequence of events and every way of cutting what `_sse`
makes of them into pieces, the loop handles exactly these events, in order, and keeps nothing. -/
theorem sendMessage_reads {parse : Parse} (hparse : ∀ v : Json, parse (v.dumps [' ']) = some v)
    {events : List SseEvent} {pieces : List (List Char)} (h : pieces.flatten = events.flatMap sse) :
    sendMessage parse pieces = some { buf := [], messages := events.map SseEvent.object } := by
  -- line breaks are escaped in the data, so a frame never holds the separator
  have hclean : ∀ f ∈ events.map SseEvent.line, '\n' ∉ f := by
    intro f hf
    obtain ⟨e, -, rfl⟩ := List.mem_map.mp hf
    exact line_noBreak e
  have hstream : [] ++ pieces.flatten = Framing.stream blankLine (events.map SseEvent.line) := by
    rw [List.nil_append, h, Framing.stream, List.flatMap_map]
    rfl
  -- nothing is buffered at the start
  have hbegun : Framing.Begun blankLine [] (events.map SseEvent.line) := by
    cases events with
    | nil => rfl
    | cons e events =>
        show 0 < (e.line ++ blankLine).length
        rw [List.length_append]
        exact Nat.lt_of_lt_of_le (by decide) (Nat.le_add_left _ _)
  have hread : Framing.read blankLine [] pieces = (events.map SseEvent.line, []) :=
    Framing.read_stream hclean hbegun hstream
  rw [sendMessage, foldlM_pieces, hread, foldlM_lines hparse]
  rfl

def chatEvents : List SseEvent :=
  [{ eventType := "delta", data := [("text", .str "line one\nline two")] },
   { eventType := "done", data := [("trace", .arr []), ("llm", .bool true)] }]

/-- Three pieces are read as the two events. -/
theorem sendMessage_reads_chat :
    sendMessage Py.loads
        [((chatEvents.flatMap sse).take 10), ((chatEvents.flatMap sse).drop 10).take 44,
          (chatEvents.flatMap sse).drop 54] =
      some { buf := [], messages := chatEvents.map SseEvent.object } :=
  sendMessage_reads (Py.loads_dumps (List.forall_mem_singleton.mpr rfl)) rfl

end SreAgent.Webapp.Sse
