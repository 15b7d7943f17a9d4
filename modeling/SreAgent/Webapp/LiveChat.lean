import SreAgent.Tools.Posts

/-!
# The chat with its tools at work

`run_chat` and `stream_chat` as programs: they ask the model for a turn, and a tool they call asks
upstream. What is answered is open, the model's turns included.

* With answers that depend on the question alone, the program is the loop of `Chat.lean` over tools
  that are functions (`eval_runChatLive`).
* Both loops do the same outside (`streamChatLive_outline`).

Here tools are programs and not functions, so that two chats, or a chat and an overview, can be run
side by side. The same tool called twice may be answered differently in the same chat.
-/

namespace SreAgent.Webapp.Chat

open Interaction (Prog)
open Py (Json)
open Tools (Effect)

/-! ## Tools at work

A chat does two kinds of things outside, and the model is one of them. What a tool does is carried
over as it is. -/

/-- What a chat does outside. -/
inductive Deed where
  | model (messages : List Message)
  | tool (effect : Effect)

def Deed.Reply : Deed → Type
  | .model _ => Turn
  | .tool e  => e.Reply

abbrev Live (α : Type) := Prog Deed.Reply Raised α

/-- A registered function. -/
structure LiveTool where
  name      : String
  definedIn : ToolModule
  run       : List (String × Json) → Prog Effect.Reply Raised Json

def collectLive (registered : List LiveTool) : List LiveTool :=
  registered.filter fun tool => offered tool.name tool.definedIn

/-- `tools.get(name)`. -/
def findLive (tools : List LiveTool) (name : String) : Option LiveTool :=
  tools.reverse.find? fun tool => tool.name == name

/-- A tool of the chat, called. -/
def LiveTool.call (tool : LiveTool) (input : List (String × Json)) : Live Json :=
  (tool.run input).reask Deed.tool fun _ reply => reply

/-- `output = ..` of one `tool_use` block. -/
def toolOutputLive (tools : List LiveTool) (use : ToolUse) : Live Json :=
  match findLive tools use.name with
  -- the model may name a tool that was not offered
  | none      => pure (.obj [("error", .str ("unknown tool " ++ use.name))])
  | some tool => do
    let output ← (tool.call use.input).attempt
    match output with
    | .ok output => pure output
    -- the text of the exception goes to the model
    | .error exc => pure (.obj [("error", .str (exc.name ++ ": " ++ exc.text))])

/-- The `tool_result`s of a round, one call after the other. -/
def answersLive (tools : List LiveTool) : List ToolUse → Live (List ToolResult)
  | []          => pure []
  | use :: uses => do
    let output ← toolOutputLive tools use
    let results ← answersLive tools uses
    return ⟨use.id, shown output⟩ :: results

/-! ## The loops

The same two loops as before, with questions in the place of functions. -/

/-- `client.messages.create(..)`, or the final message of a stream. -/
def askModel (messages : List Message) : Live Turn := Prog.request (Deed.model messages)

/-- The loop of `run_chat` with `rounds` rounds left. -/
def runRoundsLive (tools : List LiveTool) :
    (rounds : Nat) → List Message → List (String × List (String × Json)) → Live ChatRun
  | 0,          _,        trace =>  -- the loop has run out: nothing more is asked
    pure { reply := "Stopped after the maximum number of tool steps.", trace, llm := true, sent := [] }
  | rounds + 1, messages, trace => do
    let turn ← askModel messages
    if turn.stopReason ≠ "tool_use" then
      return { reply := String.ofList (Py.strip turn.text.toList), trace, llm := true, sent := [messages] }
    else
      let results ← answersLive tools turn.toolUses
      let run ← runRoundsLive tools rounds
        (messages ++ [.assistant turn.content, .toolResults results]) (trace ++ calls turn)
      return { run with sent := messages :: run.sent }

def runChatLive (registered : List LiveTool) (history : List Json) (message : String) : Live ChatRun :=
  runRoundsLive (collectLive registered) maxToolRounds (opening history message) []

/-- The loop of `stream_chat` with `rounds` rounds left. -/
def streamRoundsLive (tools : List LiveTool) :
    (rounds : Nat) → List Message → List (String × List (String × Json)) → Live StreamRun
  | 0,          _,        trace => pure { events := [.done trace true], sent := [] }
  | rounds + 1, messages, trace => do
    let turn ← askModel messages
    let deltas := turn.deltas.map Event.delta
    if turn.stopReason ≠ "tool_use" then
      return { events := deltas ++ [.done trace true], sent := [messages] }
    else
      let results ← answersLive tools turn.toolUses
      let run ← streamRoundsLive tools rounds
        (messages ++ [.assistant turn.content, .toolResults results]) (trace ++ calls turn)
      return {
        events := deltas ++ turn.toolUses.map (fun use => Event.tool use.name) ++ run.events
        sent := messages :: run.sent }

def streamChatLive (registered : List LiveTool) (history : List Json) (message : String) :
    Live StreamRun :=
  streamRoundsLive (collectLive registered) maxToolRounds (opening history message) []

/-! ## Tools that are functions

In a world with one answer to each question a program is a function of its arguments. Then the chat
is the one of `Chat.lean`, by induction on its rounds. -/

/-- The tool in a world that answers each question in one way. -/
def LiveTool.settled (reply : (e : Effect) → e.Reply) (tool : LiveTool) : Tool where
  name := tool.name
  definedIn := tool.definedIn
  run input := (tool.run input).eval reply

/-- A model, and such a world. -/
def world (model : Model) (reply : (e : Effect) → e.Reply) : (d : Deed) → d.Reply
  | .model messages => model messages
  | .tool e         => reply e

section

variable (model : Model) (reply : (e : Effect) → e.Reply)

/-- The tool found under a name is the same, with the same results, so a call is answered alike, and
all calls of a turn are. -/
theorem findTool_settled (tools : List LiveTool) (name : String) :
    findTool (tools.map (LiveTool.settled reply)) name =
      (findLive tools name).map (LiveTool.settled reply) := by
  unfold findTool findLive
  rw [← List.map_reverse, List.find?_map]
  rfl

theorem eval_call (tool : LiveTool) (input : List (String × Json)) :
    (tool.call input).eval (world model reply) = (tool.settled reply).run input :=
  Prog.eval_reask _ _

theorem eval_toolOutputLive (tools : List LiveTool) (use : ToolUse) :
    (toolOutputLive tools use).eval (world model reply) =
      .ok (toolOutput (tools.map (LiveTool.settled reply)) use) := by
  unfold toolOutputLive toolOutput
  rw [findTool_settled]
  cases findLive tools use.name with
  | none => rfl
  | some tool =>
      rw [Prog.eval_bind, Prog.eval_attempt, eval_call, Option.map_some]
      dsimp only [Except.bind]
      cases (tool.settled reply).run use.input with
      | ok output => rfl
      | error exc => rfl

theorem eval_answersLive (tools : List LiveTool) (uses : List ToolUse) :
    (answersLive tools uses).eval (world model reply) =
      .ok (uses.map (answer (tools.map (LiveTool.settled reply)))) := by
  induction uses with
  | nil => rfl
  | cons use uses ih =>
      rw [answersLive, Prog.eval_bind, eval_toolOutputLive]
      dsimp only [Except.bind]
      rw [Prog.eval_bind, ih]
      rfl

/-- The model answers as the function does. -/
theorem eval_askModel (messages : List Message) :
    (askModel messages).eval (world model reply) = .ok (model messages) := rfl

/-- So the loops go through the same rounds. -/
theorem eval_runRoundsLive (tools : List LiveTool) (rounds : Nat) (messages : List Message)
    (trace : List (String × List (String × Json))) :
    (runRoundsLive tools rounds messages trace).eval (world model reply) =
      .ok (runRounds (tools.map (LiveTool.settled reply)) model rounds messages trace) := by
  induction rounds generalizing messages trace with
  | zero => rfl
  | succ rounds ih =>
      rw [runRoundsLive, Prog.eval_bind, eval_askModel, runRounds]
      dsimp only [Except.bind]
      show Prog.eval (world model reply) (if (model messages).stopReason ≠ "tool_use" then _ else _) = _
      split
      · rfl
      · rw [Prog.eval_bind, eval_answersLive]
        dsimp only [Except.bind]
        rw [Prog.eval_bind, ih]
        rfl

/-- The same tools are offered. -/
theorem collectTools_settled (registered : List LiveTool) :
    collectTools (registered.map (LiveTool.settled reply)) =
      (collectLive registered).map (LiveTool.settled reply) := by
  unfold collectTools collectLive
  rw [List.filter_map]
  rfl

/-- **The chat of `Chat.lean`** is this one in a world that answers each question in one way. -/
theorem eval_runChatLive (registered : List LiveTool) (history : List Json) (message : String) :
    (runChatLive registered history message).eval (world model reply) =
      .ok (runChat (registered.map (LiveTool.settled reply)) model history message) := by
  rw [runChatLive, eval_runRoundsLive, runChat, collectTools_settled]

end

/-! ## Streaming makes no difference outside

The outline of a program is what it asks, with all it returns left out. The two loops return
different things, and ask the same. -/

/-- By induction on the rounds: the same turn is asked for, the same calls are made, and then the
rest is the same. -/
theorem streamRoundsLive_outline (tools : List LiveTool) (rounds : Nat) (messages : List Message)
    (trace : List (String × List (String × Json))) :
    (streamRoundsLive tools rounds messages trace).outline =
      (runRoundsLive tools rounds messages trace).outline := by
  induction rounds generalizing messages trace with
  | zero => rfl
  | succ rounds ih =>
      rw [streamRoundsLive, runRoundsLive]
      apply Prog.outline_bind_congr
      intro turn
      dsimp only
      split
      · rfl
      · apply Prog.outline_bind_congr
        intro results
        rw [Prog.outline_map, Prog.outline_map]
        exact ih _ _

/-- **Streaming makes no difference outside**: the same questions are asked, in the same order,
whatever the model says and whatever upstream answers. -/
theorem streamChatLive_outline (registered : List LiveTool) (history : List Json)
    (message : String) :
    (streamChatLive registered history message).outline =
      (runChatLive registered history message).outline :=
  streamRoundsLive_outline _ _ _ _

end SreAgent.Webapp.Chat
