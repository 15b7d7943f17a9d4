import SreAgent.Webapp.Chat

/-!
# The two chats

`run_chat` and `stream_chat` are two copies of one loop. They send the model the same messages and
end with the same trace (`runRounds_sent`, `runRounds_trace`), but they do not say the same: the
reply is the text of the last turn, the stream has the text of every turn. `agree_iff` says when that
makes no difference.

A model may say something in a turn that calls a tool. `run_chat` returns the text of the last turn
and drops what was said before. The stream has shown it by then. At the limit of rounds it is the
other way round: only `run_chat` says why it stops.
-/

namespace SreAgent.Webapp.Chat

open Py (Json)

/-! ## What is compared

The messages sent, the calls, the closing event and the text. Blanks at the ends of the text do not
count, since the code strips its reply. -/

/-- The text of a `delta`. -/
def Event.text : Event → List Char
  | .delta text => text.toList
  | _           => []

/-- The name in a `tool` event. -/
def Event.toolName : Event → Option String
  | .tool name => some name
  | _          => none

/-- The texts streamed, joined. -/
def streamed (events : List Event) : List Char := events.flatMap Event.text

/-- A run of `run_chat` and one of `stream_chat` agree: they send the model the same lists, call the
same tools, record the same trace, and what is shown comes to the same reply. -/
structure Agree (chat : ChatRun) (stream : StreamRun) : Prop where
  sent  : stream.sent = chat.sent
  calls : stream.events.filterMap Event.toolName = chat.trace.map Prod.fst
  done  : stream.events.getLast? = some (.done chat.trace chat.llm)
  reply : Py.strip (streamed stream.events) = chat.reply.toList

/-- What `text_stream` yields for a turn are pieces of its text blocks. -/
def Streams (model : Model) : Prop :=
  ∀ messages, Py.join "" (model messages).deltas = (model messages).text

/-! ## The turns of a run

Both loops take the same turns, and everything they say is a function of the turns. So the loops are
followed once each, and what is left is to compare two functions of a list. -/

/-- The turns the model takes with `rounds` rounds left. -/
def turnsTaken (tools : List Tool) (model : Model) : (rounds : Nat) → List Message → List Turn
  | 0,          _        => []
  | rounds + 1, messages =>
    let turn := model messages
    if turn.stopReason ≠ "tool_use" then [turn]
    else turn :: turnsTaken tools model rounds (messages ++ roundMessages tools turn)

/-- The last turn is an answer and not a call of tools. -/
def ended (turns : List Turn) : Bool := turns.getLast?.any fun turn => turn.stopReason != "tool_use"

/-- What `run_chat` says at the limit. -/
def notice : String := "Stopped after the maximum number of tool steps."

/-- Nothing is lost by showing the last turn alone: what came before it is blank. Without a last
turn, all that was said is the notice itself. -/
def SaysOnce (turns : List Turn) : Prop :=
  if ended turns then ∀ turn ∈ turns.dropLast, ∀ c ∈ turn.text.toList, Py.isSpace c = true
  else Py.strip (turns.flatMap fun turn => turn.text.toList) = notice.toList

variable (tools : List Tool) (model : Model)

/-- The same messages are sent, round by round. -/
theorem streamRounds_sent (rounds : Nat) (messages : List Message)
    (trace : List (String × List (String × Json))) :
    (streamRounds tools model rounds messages trace).sent =
      (runRounds tools model rounds messages trace).sent := by
  induction rounds generalizing messages trace with
  | zero => rfl
  | succ rounds ih =>
      rw [streamRounds, runRounds]
      dsimp only
      split
      · rfl
      · rw [ih]

/-- Both loops add the calls of the turns taken to the trace. -/
theorem runRounds_trace (rounds : Nat) (messages : List Message)
    (trace : List (String × List (String × Json))) :
    (runRounds tools model rounds messages trace).llm = true ∧
      (streamRounds tools model rounds messages trace).events.getLast? =
        some (.done (runRounds tools model rounds messages trace).trace true) := by
  induction rounds generalizing messages trace with
  | zero => exact ⟨rfl, rfl⟩
  | succ rounds ih =>
      rw [streamRounds, runRounds]
      dsimp only
      split
      · exact ⟨rfl, List.getLast?_concat ..⟩
      · -- the events of this round stand before those of the next, so the last one is theirs
        obtain ⟨hllm, hdone⟩ :=
          ih (messages ++ roundMessages tools (model messages)) (trace ++ calls (model messages))
        refine ⟨hllm, ?_⟩
        rw [List.getLast?_append, hdone]
        rfl

/-- A piece of text announces no call. -/
theorem filterMap_deltas (deltas : List String) :
    (deltas.map Event.delta).filterMap Event.toolName = [] := by
  rw [List.filterMap_map, List.filterMap_eq_nil_iff]
  intro delta _
  rfl

/-- The `tool` events announce what the trace lists. -/
theorem streamRounds_calls (rounds : Nat) (messages : List Message)
    (trace : List (String × List (String × Json))) :
    trace.map Prod.fst ++
        (streamRounds tools model rounds messages trace).events.filterMap Event.toolName =
      (runRounds tools model rounds messages trace).trace.map Prod.fst := by
  induction rounds generalizing messages trace with
  | zero => exact List.append_nil _
  | succ rounds ih =>
      rw [streamRounds, runRounds]
      dsimp only
      split
      · rw [List.filterMap_append, filterMap_deltas]
        exact List.append_nil _
      · -- every call is announced by one event, in the order of the calls
        have hnames : ((model messages).toolUses.map fun use => Event.tool use.name).filterMap
            Event.toolName = (calls (model messages)).map Prod.fst := by
          rw [calls, List.map_map, List.filterMap_map]
          exact congrFun List.filterMap_eq_map _
        rw [← ih, List.filterMap_append, List.filterMap_append, filterMap_deltas, hnames,
          List.map_append]
        simp only [List.nil_append, List.append_assoc]

/-- Joined with nothing between them. -/
theorem join_empty (parts : List String) : (Py.join "" parts).toList = parts.flatMap String.toList := by
  have hsep : "".toList = [] := rfl
  rw [Py.join, String.toList_ofList, hsep, List.flatMap_def]
  generalize parts.map String.toList = parts
  induction parts with
  | nil => rfl
  | cons p ps ih =>
      cases ps with
      | nil => simp
      | cons p' ps =>
          rw [List.intercalate_cons_cons, List.append_nil, ih]
          rfl

/-- Everything the turns say is streamed. -/
theorem streamRounds_text {model : Model} (hmodel : Streams model) (rounds : Nat)
    (messages : List Message) (trace : List (String × List (String × Json))) :
    streamed (streamRounds tools model rounds messages trace).events =
      (turnsTaken tools model rounds messages).flatMap fun turn => turn.text.toList := by
  -- what was streamed of a turn is the turn's text
  have hdeltas : ∀ messages, streamed ((model messages).deltas.map Event.delta) =
      (model messages).text.toList := by
    intro messages
    rw [← hmodel messages, join_empty, streamed, List.flatMap_map]
    rfl
  induction rounds generalizing messages trace with
  | zero => rfl
  | succ rounds ih =>
      rw [streamRounds, turnsTaken]
      dsimp only
      split
      · rw [streamed, List.flatMap_append, ← streamed, hdeltas]
        rfl
      · -- the tools' events carry no text
        have hsilent : ((model messages).toolUses.map fun use => Event.tool use.name).flatMap
            Event.text = [] := by
          rw [List.flatMap_map, List.flatMap_eq_nil_iff]
          intro use _
          rfl
        rw [streamed, List.flatMap_append, List.flatMap_append, hsilent, ← streamed, ← streamed,
          hdeltas, ih, List.flatMap_cons, List.append_nil]

/-! ## The reply

Stripping what all turns say gives what the last turn says, stripped, exactly if there is nothing
but blanks before it. -/

/-- What `run_chat` replies to the turns it took. -/
def replyTo (turns : List Turn) : List Char :=
  if ended turns then Py.strip ((turns.getLast?.map fun turn => turn.text.toList).getD [])
  else notice.toList

/-- A turn that calls tools leaves the reply to those behind it. -/
theorem replyTo_cons {turn : Turn} (h : turn.stopReason = "tool_use") (turns : List Turn) :
    replyTo (turn :: turns) = replyTo turns := by
  cases turns with
  | nil => simp [replyTo, ended, h]
  | cons next turns => rw [replyTo, replyTo, ended, ended, List.getLast?_cons_cons]

/-- The reply is that to the turns taken. -/
theorem runRounds_reply (rounds : Nat) (messages : List Message)
    (trace : List (String × List (String × Json))) :
    (runRounds tools model rounds messages trace).reply.toList =
      replyTo (turnsTaken tools model rounds messages) := by
  induction rounds generalizing messages trace with
  | zero => rfl
  | succ rounds ih =>
      rw [runRounds, turnsTaken]
      dsimp only
      split
      · next hstop => simp [replyTo, ended, hstop]
      · next hcall => rw [ih, replyTo_cons (not_not.mp hcall)]

/-- **Once is enough.** The texts of all turns come to the reply exactly if the turns say it once. -/
theorem strip_texts_iff (turns : List Turn) :
    Py.strip (turns.flatMap fun turn => turn.text.toList) = replyTo turns ↔ SaysOnce turns := by
  rcases List.eq_nil_or_concat' turns with rfl | ⟨before, last, rfl⟩
  · exact Iff.rfl
  · unfold replyTo SaysOnce
    split
    · -- stripping the whole gives the last text alone only if all before it is blank
      rw [List.getLast?_concat, List.dropLast_concat, List.flatMap_append, List.flatMap_singleton,
        Option.map_some, Option.getD_some, Py.strip_append_eq_iff]
      simp only [List.mem_flatMap]
      constructor
      · intro h turn hturn c hc
        exact h c ⟨turn, hturn, hc⟩
      · rintro h c ⟨turn, hturn, hc⟩
        exact h turn hturn c hc
    · exact Iff.rfl

/-- **Exactly when the two chats agree.** Whatever the tools, the history, the message and the turns
the model takes: the messages sent, the calls and the trace are the same, and the reply is what was
streamed iff the turns say it once. -/
theorem agree_iff {model : Model} (hmodel : Streams model) (registered : List Tool)
    (history : List Json) (message : String) :
    Agree (runChat registered model history message) (streamChat registered model history message) ↔
      SaysOnce (turnsTaken (collectTools registered) model maxToolRounds
        (opening history message)) := by
  rw [← strip_texts_iff, ← runRounds_reply _ _ _ _ [], ← streamRounds_text _ hmodel _ _ []]
  constructor
  · -- the two loops always agree in what they send, call and record; only the reply can differ
    exact fun h => h.reply
  · intro h
    obtain ⟨hllm, hdone⟩ :=
      runRounds_trace (collectTools registered) model maxToolRounds (opening history message) []
    refine ⟨streamRounds_sent _ _ _ _ _, streamRounds_calls _ _ _ _ [], ?_, h⟩
    rw [runChat, hllm]
    exact hdone

/-! ## A model that talks while it works

It says what it is going to do, calls a tool, and answers in the next turn. -/

/-- The first turn says what it is about to do, the second one answers. -/
def narrator : Model := fun messages =>
  if messages.length = 1 then
    { deltas := ["Let me ", "look. "]
      stopReason := "tool_use"
      content := [.text "Let me look. ", .toolUse "t1" "list_clusters" []] }
  else
    { deltas := ["All is well."]
      stopReason := "end_turn"
      content := [.text "All is well."] }

/-- It streams what it says. -/
theorem narrator_streams : Streams narrator := by
  intro messages
  unfold narrator
  split <;> decide

/-- The two chats agree if it says everything once. -/
theorem agree_iff_narrator :
    Agree (runChat [] narrator [] "how are my clusters?")
        (streamChat [] narrator [] "how are my clusters?") ↔
      SaysOnce (turnsTaken (collectTools []) narrator maxToolRounds
        (opening [] "how are my clusters?")) :=
  agree_iff narrator_streams [] [] "how are my clusters?"

/-- The stream begins with what the reply leaves out. -/
theorem narrator_says_more :
    Streams narrator ∧
      ¬ Agree (runChat [] narrator [] "how are my clusters?")
        (streamChat [] narrator [] "how are my clusters?") := by
  refine ⟨narrator_streams, fun h => absurd h.reply ?_⟩
  decide

end SreAgent.Webapp.Chat
