import SreAgent.Tools.Reading
import SreAgent.Webapp.Fallback
import SreAgent.Webapp.Registered

/-!
# The dashboard reads only

Everybody at the dashboard may chat, open the overview of a namespace, or ask without a key, as often
as they like and all at the same time. Whatever the model says in its turns and whatever upstream answers, no
message is posted, and no cluster is asked about a namespace that the registry does not allow
(`visits_read_only`). The dashboard takes the functions of the server without their guards, so this rests
on what the functions do.

The statement is one about all interleavings: visits run in threads, and a thread may be stopped
between any two of its effects. Since nothing is assumed of the answers, it does not matter what the
others do meanwhile.
-/

namespace SreAgent.Webapp.Chat

open Interaction (Prog)
open Py (Json)
open Tools (Effect ServerCall)

/-! ## The dashboard

What can be done there: two kinds of chat, the overview, and a question without a key. An overview
runs in three threads, so it is three programs. -/

/-- The functions the modules of the tools register. Called with some arguments, each of them raises at
once or is the tool of its name at work. -/
structure Toolbox (server : Tools.Server) where
  tools   : List LiveTool
  genuine : ∀ tool ∈ tools, ∀ input, (∃ e, tool.run input = .fail e) ∨
    ∃ call : ServerCall, call.name = tool.name ∧
      (tool.run input).outline = (call.program server).outline

/-- `tools[name](..)`. -/
def callNamed (tools : List LiveTool) (name : String) (input : List (String × Json)) : Live Json :=
  match findLive tools name with
  | none      => .fail { name := "KeyError", text := Py.repr name }
  | some tool => tool.call input

/-- A section of `api_namespace_overview`. -/
def overviewSection (tools : List LiveTool) (cluster ns name : String) : Live Json := do
  match ← (callNamed tools name [("namespace", .str ns), ("cluster", .str cluster)]).attempt with
  | .ok output => return output
  | .error exc => return .obj [("error", .str (exc.name ++ ": " ++ exc.text))]

/-- The sections of `api_namespace_overview`. Each has a thread of its own. -/
def overviewSections : List String := ["k8s_get_pods", "k8s_get_deployments", "k8s_get_events"]

/-- The arguments of the `rca_diagnose` of `_fallback`. -/
def rcaInput (call : Fallback.RcaCall) : List (String × Json) :=
  [("cluster", call.cluster.elim .null .str), ("namespace", .str call.namespace_),
    ("subject", .str call.subject)]

/-- What somebody does at the dashboard. -/
inductive Visit where
  | chat (history : List Json) (message : String)
  | stream (history : List Json) (message : String)
  | overview (cluster ns : String)
  | withoutKey (off : Fallback.Offline) (message : String)

def Visit.programs (registered : List LiveTool) : Visit → List (Live Unit)
  | .chat history message   => [discard (runChatLive registered history message)]
  | .stream history message => [discard (streamChatLive registered history message)]
  | .overview cluster ns    => overviewSections.map fun name =>
    discard (overviewSection (collectLive registered) cluster ns name)
  | .withoutKey off message => (Fallback.fallback off message).called.map fun call =>
    discard (callNamed (collectLive registered) "rca_diagnose" (rcaInput call))

/-! ## What holds of every tool holds of every chat

Every effect of a chat is a question to the model or one of a tool. So a property of effects that
holds of the tools it is given, and of every question to the model, holds of the chat. -/

section

variable {P : Deed → Prop} {tools : List LiveTool}

/-- What is found under a name is one of the tools. -/
theorem mem_of_findLive {name : String} {tool : LiveTool} (h : findLive tools name = some tool) :
    tool ∈ tools := List.mem_reverse.mp (List.mem_of_find?_eq_some h)

variable (htools : ∀ tool ∈ tools, ∀ input, (tool.call input).All P)

include htools

/-- A call does what its tool does, or nothing, and so do all calls of a turn, every round of a
chat, a call by name, and a section of the overview. -/
theorem toolOutputLive_all (use : ToolUse) : (toolOutputLive tools use).All P := by
  unfold toolOutputLive
  cases hfind : findLive tools use.name with
  | none => exact Prog.All.pure _
  | some tool =>
      apply Prog.All.bind (Prog.All.attempt (htools tool (mem_of_findLive hfind) use.input))
      rintro (exc | output) <;> exact Prog.All.pure _

theorem answersLive_all (uses : List ToolUse) : (answersLive tools uses).All P := by
  induction uses with
  | nil => exact Prog.All.pure _
  | cons use uses ih =>
      apply Prog.All.bind (toolOutputLive_all htools use)
      intro output
      exact Prog.All.bind ih fun results => Prog.All.pure _

theorem runRoundsLive_all (hmodel : ∀ messages, P (.model messages)) (rounds : Nat)
    (messages : List Message) (trace : List (String × List (String × Json))) :
    (runRoundsLive tools rounds messages trace).All P := by
  induction rounds generalizing messages trace with
  | zero => exact Prog.All.pure _
  | succ rounds ih =>
      apply Prog.All.bind (Prog.All.request (hmodel messages))
      intro turn
      split
      · exact Prog.All.pure _
      · apply Prog.All.bind (answersLive_all htools turn.toolUses)
        intro results
        exact Prog.All.bind (ih _ _) fun run => Prog.All.pure _

theorem callNamed_all (name : String) (input : List (String × Json)) :
    (callNamed tools name input).All P := by
  unfold callNamed
  cases hfind : findLive tools name with
  | none => trivial
  | some tool => exact htools tool (mem_of_findLive hfind) input

theorem overviewSection_all (cluster ns name : String) :
    (overviewSection tools cluster ns name).All P := by
  apply Prog.All.bind (Prog.All.attempt (callNamed_all htools name _))
  rintro (exc | output) <;> exact Prog.All.pure _

end

/-- The same of every visit. -/
theorem programs_all {P : Deed → Prop} {registered : List LiveTool}
    (htools : ∀ tool ∈ collectLive registered, ∀ input, (tool.call input).All P)
    (hmodel : ∀ messages, P (.model messages)) (visit : Visit) :
    ∀ p ∈ visit.programs registered, p.All P := by
  have hchat : ∀ history message, (runChatLive registered history message).All P := fun _ _ =>
    runRoundsLive_all htools hmodel _ _ _
  cases visit with  -- a visit is a chat with the model, or a list of calls that the page chooses
  | chat history message =>
      intro p hp
      rw [List.mem_singleton.mp hp]
      exact Prog.All.bind (hchat history message) fun _ => Prog.All.pure _
  | stream history message =>
      intro p hp
      rw [List.mem_singleton.mp hp]
      apply Prog.All.bind _ fun _ => Prog.All.pure _
      exact Prog.All.of_outline (streamChatLive_outline registered history message)
        (hchat history message)
  | overview cluster ns =>
      intro p hp
      obtain ⟨name, -, rfl⟩ := List.mem_map.mp hp
      exact Prog.All.bind (overviewSection_all htools cluster ns name) fun _ => Prog.All.pure _
  | withoutKey off message =>
      intro p hp
      obtain ⟨call, -, rfl⟩ := List.mem_map.mp hp
      exact Prog.All.bind (callNamed_all htools _ _) fun _ => Prog.All.pure _

/-! ## Reading only

A tool of the box is the tool of its name at work, of which `SreAgent.Tools.Reading` says what it
reads and `SreAgent.Tools.Posts` that it posts under two names only. The dashboard is given neither
name. -/

/-- No message is posted, and what is read of a cluster is permitted. -/
def Deed.ReadsOnly (registry : ClusterRegistry) : Deed → Prop
  | .model _         => True
  | .tool (.post _)  => False
  | .tool e          => e.Permitted registry

variable {server : Tools.Server}

/-- A tool that is left to the dashboard is none of the two that post. -/
theorem call_readsOnly (box : Toolbox server) {tool : LiveTool} (h : tool ∈ collectLive box.tools)
    (input : List (String × Json)) :
    (tool.call input).All (Deed.ReadsOnly server.site.registry) := by
  obtain ⟨hmem, hkept⟩ := List.mem_filter.mp h
  -- what is offered to the dashboard is not one of the tools that post
  have hname : tool.name ∉ excluded := by
    rw [offered, Bool.and_eq_true] at hkept
    simpa using hkept.2
  apply Prog.All.reask
  rcases box.genuine tool hmem input with ⟨e, hfail⟩ | ⟨call, hcall, houtline⟩
  · rw [hfail]
    trivial
  · apply Prog.All.of_outline houtline
    -- a genuine tool does what its program does, and that posts by permission only
    have hboth := (call.program_posts server).and (call.program_permitted server)
    apply hboth.mono
    rintro e ⟨hposts, hpermitted⟩
    cases e with
    | post request => exact hname (hcall ▸ hposts.excluded)
    | ask q => exact hpermitted
    | search => trivial

/-- **The dashboard reads only**, whoever is there, and whatever the model says and upstream answers. -/
theorem visits_read_only (box : Toolbox server) (visits : List Visit) {deeds : List Deed}
    (h : Prog.Asks (visits.flatMap (Visit.programs box.tools)) deeds) :
    ∀ d ∈ deeds, d.ReadsOnly server.site.registry := by
  refine Prog.All.asks ?_ h
  intro p hp
  obtain ⟨visit, -, hp⟩ := List.mem_flatMap.mp hp
  exact programs_all (fun tool htool => call_readsOnly box htool) (fun _ => trivial) visit p hp

/-! ## A model that wants to post

All tools are registered, notifications are enabled, and the model asks for a post. It is answered
that there is no such tool. -/

/-- A server that may post, with one cluster. -/
def paymentsServer : Tools.Server where
  settings := { allowNotifications := true, slackAllowedChannels := "#sre", slackBotToken := "xoxb" }
  registry := { defaultCluster := "prod", clusters := [{ Tools.paymentsCluster with }] }
  now := Tools.paymentsSite.now

/-- Everything that server registers. -/
def paymentsBox : Toolbox paymentsServer where
  tools := signatures.map (Signature.tool paymentsServer)
  genuine := by
    intro tool htool input
    obtain ⟨s, -, rfl⟩ := List.mem_map.mp htool
    exact s.tool_genuine paymentsServer input

/-- The model wants to post, and to see the pods. -/
def eagerTurn : Turn where
  stopReason := "tool_use"
  content := [.toolUse "1" "slack_post" [("channel", .str "#sre"), ("text", .str "hello")],
    .toolUse "2" "k8s_get_pods" [("namespace", .str "payments")]]

/-- It does so once, and no cluster answers. -/
def eagerWorld (past : List Deed) : (d : Deed) → d.Reply
  | .model _ => if past.isEmpty then eagerTurn else { stopReason := "end_turn", content := [] }
  | .tool e  => match e with
    | .ask (.connect _) => .ok ()
    | e                 => e.noReply

/-- The model is asked, the pods are read, and the model is asked again. -/
theorem visits_read_only_payments :
    ∃ deeds, Prog.Asks ([Visit.chat [] "post hello"].flatMap (Visit.programs paymentsBox.tools)) deeds ∧
      deeds.length = 4 ∧ ∀ d ∈ deeds, d.ReadsOnly paymentsServer.site.registry := by
  have hrun := Prog.asks_run (discard (runChatLive paymentsBox.tools [] "post hello")) eagerWorld []
  exact ⟨_, hrun, by decide +kernel, visits_read_only paymentsBox [.chat [] "post hello"] hrun⟩

end SreAgent.Webapp.Chat
