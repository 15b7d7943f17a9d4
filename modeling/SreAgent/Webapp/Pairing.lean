import SreAgent.Webapp.Streaming

/-!
# Calls and their results

The API takes a list of messages only if every call of a tool in it is answered in the message behind
it. Both chats add messages in pairs that do so, whatever the model calls and whatever becomes of the
call (`chats_answered`).

A call that is not answered, or answered twice, makes the next request an error. So it matters that
a tool that raises is answered as well, and that several calls of a turn are answered in one
message.
-/

namespace SreAgent.Webapp.Chat

open Py (Json)

/-- The `tool_use` blocks of a message of the model. -/
def toolUsesIn (content : List Block) : List ToolUse :=
  content.filterMap fun block => match block with
    | .toolUse id name input => some ⟨id, name, input⟩
    | _                      => none

def Message.calls : Message → List (String × List (String × Json))
  | .assistant content => (toolUsesIn content).map fun use => (use.name, use.input)
  | _                  => []

/-- Messages of the model, each with one message behind it that has the results of its calls, by id
and in order. -/
inductive Paired : List Message → Prop
  | nil : Paired []
  | round {content : List Block} {results : List ToolResult} {rest : List Message}
      (ids : results.map ToolResult.toolUseId = (toolUsesIn content).map ToolUse.id)
      (tail : Paired rest) : Paired (.assistant content :: .toolResults results :: rest)

/-- A run that starts and ends with these messages and sends the model the lists `sent` has answered
every call once: the results stand right behind the calls, in their order and with their ids. -/
structure AnsweredOnce (start final : List Message) (sent : List (List Message))
    (trace : List (String × List (String × Json))) : Prop where
  built    : ∃ added, final = start ++ added ∧ Paired added ∧ trace = added.flatMap Message.calls
  requests : ∀ messages ∈ sent, messages <+: final ∧ ∃ added, messages = start ++ added ∧ Paired added
  rounds   : sent.length ≤ maxToolRounds

/-! ## A run, round by round

A run is described by the turns that call tools. Each adds a pair of messages, and everything that
is sent is what was built before some of these turns. -/

/-- `messages` after the loop of `run_chat` with `rounds` rounds left. The statements of `stream_chat` about
them are the same. -/
def messagesAfter (tools : List Tool) (model : Model) : (rounds : Nat) → List Message → List Message
  | 0,          messages => messages
  | rounds + 1, messages =>
    let turn := model messages
    if turn.stopReason ≠ "tool_use" then messages
    else messagesAfter tools model rounds (messages ++ roundMessages tools turn)

variable (tools : List Tool)

/-- What the rounds of some turns add. -/
theorem paired_rounds (turns : List Turn) : Paired (turns.flatMap (roundMessages tools)) := by
  induction turns with
  | nil => exact .nil
  | cons turn turns ih =>
      apply Paired.round _ ih
      rw [List.map_map]
      rfl

/-- The calls in the messages are those of the turns. -/
theorem calls_rounds (turns : List Turn) :
    (turns.flatMap (roundMessages tools)).flatMap Message.calls = turns.flatMap calls := by
  rw [List.flatMap_assoc]
  apply List.flatMap_congr
  intro turn _
  simp only [roundMessages, List.flatMap_cons, List.flatMap_nil, Message.calls, List.append_nil]
  rfl

/-- A run with the turns that call tools: each adds its round, and what is sent are the messages before
some of them. -/
structure RunOf (messages built : List Message) (trace trace' : List (String × List (String × Json)))
    (sent : List (List Message)) (turns : List Turn) : Prop where
  built : built = messages ++ turns.flatMap (roundMessages tools)
  trace : trace' = trace ++ turns.flatMap calls
  sent  : ∀ s ∈ sent, ∃ before, before <+: turns ∧ s = messages ++ before.flatMap (roundMessages tools)

/-- By induction on the rounds: every run is the run of some turns, and has no more requests than
rounds. -/
theorem exists_runOf (model : Model) (rounds : Nat) (messages : List Message)
    (trace : List (String × List (String × Json))) :
    ∃ turns, RunOf tools messages (messagesAfter tools model rounds messages) trace
      (runRounds tools model rounds messages trace).trace
      (runRounds tools model rounds messages trace).sent turns := by
  -- what was sent is the opening and the rounds of some turns taken before
  have hnow : ∀ turns, ∃ before : List Turn, before <+: turns ∧
      messages = messages ++ before.flatMap (roundMessages tools) :=
    fun turns => ⟨[], List.nil_prefix, (List.append_nil _).symm⟩
  induction rounds generalizing messages trace with
  | zero => exact ⟨[], (List.append_nil _).symm, (List.append_nil _).symm, by simp [runRounds]⟩
  | succ rounds ih =>
      rw [messagesAfter, runRounds]
      dsimp only
      split
      · refine ⟨[], (List.append_nil _).symm, (List.append_nil _).symm, ?_⟩
        simp
      · -- one more turn in front: its two messages, its calls and one more request
        obtain ⟨turns, hbuilt, htrace, hsent⟩ := ih (messages ++ roundMessages tools (model messages))
          (trace ++ calls (model messages)) fun turns => ⟨[], List.nil_prefix, (List.append_nil _).symm⟩
        refine ⟨model messages :: turns, ?_, ?_, ?_⟩
        · rw [hbuilt, List.flatMap_cons, List.append_assoc]
        · rw [htrace, List.flatMap_cons, List.append_assoc]
        · rw [List.forall_mem_cons]
          refine ⟨hnow _, fun s hs => ?_⟩
          obtain ⟨before, hbefore, rfl⟩ := hsent s hs
          refine ⟨model messages :: before, List.cons_prefix_cons.mpr ⟨rfl, hbefore⟩, ?_⟩
          rw [List.flatMap_cons, List.append_assoc]

theorem runRounds_length (model : Model) (rounds : Nat) (messages : List Message)
    (trace : List (String × List (String × Json))) :
    (runRounds tools model rounds messages trace).sent.length ≤ rounds := by
  induction rounds generalizing messages trace with
  | zero => exact le_rfl
  | succ rounds ih =>
      rw [runRounds]
      dsimp only
      split
      · simp
      · exact Nat.succ_le_succ (ih _ _)

/-- So whatever `run_chat` sends has every call answered. -/
theorem runRounds_answered (model : Model) (start : List Message) :
    AnsweredOnce start (messagesAfter tools model maxToolRounds start)
      (runRounds tools model maxToolRounds start []).sent
      (runRounds tools model maxToolRounds start []).trace := by
  obtain ⟨turns, hbuilt, htrace, hsent⟩ := exists_runOf tools model maxToolRounds start []
  refine ⟨⟨_, hbuilt, paired_rounds tools turns, ?_⟩, fun messages hmem => ?_, runRounds_length ..⟩
  · rw [htrace, calls_rounds, List.nil_append]
  · obtain ⟨before, ⟨after, rfl⟩, rfl⟩ := hsent messages hmem
    refine ⟨?_, _, rfl, paired_rounds tools before⟩
    rw [hbuilt, List.flatMap_append, ← List.append_assoc]
    exact List.prefix_append _ _

/-- **Every call is answered exactly once**, in both chats, and the trace lists the calls. -/
theorem chats_answered (registered : List Tool) (model : Model) (history : List Json)
    (message : String) :
    AnsweredOnce (opening history message)
        (messagesAfter (collectTools registered) model maxToolRounds (opening history message))
        (runChat registered model history message).sent
        (runChat registered model history message).trace ∧
      ∃ trace, (streamChat registered model history message).events.getLast? =
          some (.done trace true) ∧
        AnsweredOnce (opening history message)
          (messagesAfter (collectTools registered) model maxToolRounds (opening history message))
          (streamChat registered model history message).sent trace := by
  have hrun := runRounds_answered (collectTools registered) model (opening history message)
  refine ⟨hrun, _, (runRounds_trace _ model maxToolRounds (opening history message) []).2, ?_⟩
  rw [streamChat, streamRounds_sent]  -- the streamed loop sends the same conversation
  exact hrun

end SreAgent.Webapp.Chat
