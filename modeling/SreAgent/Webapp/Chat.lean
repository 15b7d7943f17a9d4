import SreAgent.Resilience

/-!
# The dashboard chat

`collect_tools` of `webapp/agent_tools.py` and the two tool-use loops of `webapp/chat.py` with an API
key at hand. The model is a function of the messages it is sent, so the turns it takes may be any.
Besides what a run returns or streams it records the message lists it sent, in order.

Both loops are written out, as they are in the source, and not one in terms of the other. That they
do the same is a theorem (`SreAgent.Webapp.Streaming`). The fuel is the number of rounds the source
allows.
-/

namespace SreAgent.Webapp.Chat

open Py (Json)

/-! ## Tools

The dashboard takes the plain functions out of the modules by importing them with a stand-in for the
server. It imports eight modules and leaves out two names. -/

def excluded : List String := ["slack_post", "teams_post"]

/-- The modules that `collect_tools` registers with its `_Capture`. The search in the knowledge base
and `list_clusters` are not among them. -/
def capturedModules : List ToolModule :=
  [.kubernetes, .logs, .metrics, .gitops, .cicd, .incidents, .istio, .rcaEngine]

/-- A function of this name in this module is a tool of the dashboard. -/
def offered (name : String) (definedIn : ToolModule) : Bool :=
  capturedModules.contains definedIn && !excluded.contains name

/-- `collect_tools`: the functions themselves, without any guard. -/
def collectTools (registered : List Tool) : List Tool :=
  registered.filter fun tool => offered tool.name tool.definedIn

/-- `tools.get(name)`: of two functions of one name the one registered last is in the dict. -/
def findTool (tools : List Tool) (name : String) : Option Tool :=
  tools.reverse.find? fun tool => tool.name == name

/-! ## Messages

Content blocks of a kind the code does not know are kept, since they are sent back to the model as
they came. -/

inductive Block where
  | text (s : String)
  | toolUse (id name : String) (input : List (String × Json))
  | other (type : String)

/-- One turn of the model: what it streams, why it stops and its content blocks. -/
structure Turn where
  deltas     : List String := []
  stopReason : String
  content    : List Block

/-- A `tool_use` block, taken apart. -/
structure ToolUse where
  id    : String
  name  : String
  input : List (String × Json)

/-- A `tool_result` block. -/
structure ToolResult where
  toolUseId : String
  content   : String
  deriving DecidableEq, Repr

inductive Message where
  | given (entry : Json)               -- an entry of `history`
  | user (text : String)
  | assistant (content : List Block)
  | toolResults (results : List ToolResult)

abbrev Model := List Message → Turn

/-- The `tool_use` blocks of a turn, in order. -/
def Turn.toolUses (turn : Turn) : List ToolUse :=
  turn.content.filterMap fun block => match block with
    | .toolUse id name input => some ⟨id, name, input⟩
    | _                      => none

/-- The texts of a turn, joined. -/
def Turn.text (turn : Turn) : String :=
  Py.join "" (turn.content.filterMap fun block => match block with
    | .text s => some s
    | _       => none)

/-! ## Dispatch

A call of an unknown tool is answered with an error object, and so is one that raises. Every answer
is cut after 20000 characters, in the middle of the JSON if it comes to that. -/

/-- `output = ..` of one `tool_use` block. -/
def toolOutput (tools : List Tool) (use : ToolUse) : Json :=
  match findTool tools use.name with
  | none      => .obj [("error", .str ("unknown tool " ++ use.name))]
  | some tool =>
    match tool.run use.input with
    | .ok output => output
    | .error exc => .obj [("error", .str (exc.name ++ ": " ++ exc.text))]

/-- `json.dumps(output, default=str)[:20000]`. -/
def shown (output : Json) : String := String.ofList ((output.dumps [' ']).take 20000)

/-- The `tool_result` for one `tool_use` block. -/
def answer (tools : List Tool) (use : ToolUse) : ToolResult :=
  ⟨use.id, shown (toolOutput tools use)⟩

/-- What a round with tool calls appends to the messages. -/
def roundMessages (tools : List Tool) (turn : Turn) : List Message :=
  [.assistant turn.content, .toolResults (turn.toolUses.map (answer tools))]

/-- What it appends to `trace`. -/
def calls (turn : Turn) : List (String × List (String × Json)) :=
  turn.toolUses.map fun use => (use.name, use.input)

def maxToolRounds : Nat := 8

/-! ## `run_chat`

The loop ends with the first turn that calls no tool, or after eight rounds with a notice. -/

structure ChatRun where
  reply : String
  trace : List (String × List (String × Json))
  llm   : Bool
  sent  : List (List Message)

/-- The loop of `run_chat` with `rounds` rounds left. -/
def runRounds (tools : List Tool) (model : Model) :
    (rounds : Nat) → List Message → List (String × List (String × Json)) → ChatRun
  | 0,          _,        trace =>
    { reply := "Stopped after the maximum number of tool steps.", trace, llm := true, sent := [] }
  | rounds + 1, messages, trace =>
    let turn := model messages
    if turn.stopReason ≠ "tool_use" then
      { reply := String.ofList (Py.strip turn.text.toList), trace, llm := true, sent := [messages] }
    else
      let run := runRounds tools model rounds (messages ++ roundMessages tools turn)
        (trace ++ calls turn)
      { run with sent := messages :: run.sent }

/-- `list(history or []) + [{"role": "user", "content": message}]`. -/
def opening (history : List Json) (message : String) : List Message :=
  history.map .given ++ [.user message]

def runChat (registered : List Tool) (model : Model) (history : List Json) (message : String) :
    ChatRun :=
  runRounds (collectTools registered) model maxToolRounds (opening history message) []

/-! ## `stream_chat`

The same loop as a generator: texts are streamed as they come, and calls are announced. At the limit
there is no notice, only the closing event. -/

/-- A server-sent event. -/
inductive Event where
  | delta (text : String)
  | tool (name : String)
  | done (trace : List (String × List (String × Json))) (llm : Bool)

structure StreamRun where
  events : List Event
  sent   : List (List Message)

/-- The loop of `stream_chat` with `rounds` rounds left. -/
def streamRounds (tools : List Tool) (model : Model) :
    (rounds : Nat) → List Message → List (String × List (String × Json)) → StreamRun
  | 0,          _,        trace => { events := [.done trace true], sent := [] }
  | rounds + 1, messages, trace =>
    let turn := model messages
    let deltas := turn.deltas.map Event.delta
    if turn.stopReason ≠ "tool_use" then
      { events := deltas ++ [.done trace true], sent := [messages] }
    else
      let run := streamRounds tools model rounds (messages ++ roundMessages tools turn)
        (trace ++ calls turn)
      { events := deltas ++ turn.toolUses.map (fun use => Event.tool use.name) ++ run.events
        sent := messages :: run.sent }

def streamChat (registered : List Tool) (model : Model) (history : List Json) (message : String) :
    StreamRun :=
  streamRounds (collectTools registered) model maxToolRounds (opening history message) []

/-! ## Runs see tools through their answers

A tool set enters a run only where a call is answered. So two of them that answer alike cannot be
told apart by any model, however long it tries. -/

section Congruence

variable {tools tools' : List Tool} (h : ∀ use, answer tools use = answer tools' use)

include h

/-- Where every call is answered alike, a round adds the same messages. -/
theorem roundMessages_congr (turn : Turn) :
    roundMessages tools turn = roundMessages tools' turn := by
  have hmap : turn.toolUses.map (answer tools) = turn.toolUses.map (answer tools') :=
    List.map_congr_left fun use _ => h use
  rw [roundMessages, roundMessages, hmap]

/-- **Two tool sets with the same answers** lead `run_chat` through the same run. -/
theorem runRounds_congr (model : Model) (rounds : Nat) (messages : List Message)
    (trace : List (String × List (String × Json))) :
    runRounds tools model rounds messages trace = runRounds tools' model rounds messages trace := by
  induction rounds generalizing messages trace with
  | zero => rfl
  | succ rounds ih =>
      rw [runRounds, runRounds]
      dsimp only
      split
      · rfl
      · rw [roundMessages_congr h, ih]

theorem streamRounds_congr (model : Model) (rounds : Nat) (messages : List Message)
    (trace : List (String × List (String × Json))) :
    streamRounds tools model rounds messages trace =
      streamRounds tools' model rounds messages trace := by
  induction rounds generalizing messages trace with
  | zero => rfl
  | succ rounds ih =>
      rw [streamRounds, streamRounds]
      dsimp only
      split
      · rfl
      · rw [roundMessages_congr h, ih]

end Congruence

end SreAgent.Webapp.Chat
