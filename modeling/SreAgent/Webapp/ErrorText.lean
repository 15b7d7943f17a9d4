import SreAgent.Lib.PrefixCode
import SreAgent.Webapp.Chat

/-!
# What the model learns of an exception

The MCP server hands the model what `tool_guard` makes of an exception, which does not depend on its
text. The dashboard calls the same functions without the guard and hands on class and text. A cut
after 20000 characters is all that hides anything there: two texts are told apart exactly when they
differ, escaped, before the cut (`visible`). JSON escapes are a prefix code, so `PrefixCode` says
what survives.

An observer of a chat sees what the model is sent, and the model can be anybody's program. So the
question is not what the text says but whether two texts can be told apart, by any model, in any
number of rounds.
-/

namespace SreAgent.Webapp.Chat

open Py (Json)

/-! ## The dashboard's error object

The object is written as JSON and cut. The class comes first and the text behind it, so with a long
name of a class there is less room for the text. -/

/-- What a chat run makes of an exception. -/
def errorObject (exc : Raised) : Json := .obj [("error", .str (exc.name ++ ": " ++ exc.text))]

/-- Its text up to where that of the exception begins. -/
def errorHead (name : String) : List Char :=
  '{' :: Py.stringText "error" ++ [':', ' ', '"'] ++ (name ++ ": ").toList.flatMap Py.escapeChar

/-- As much of the escaped text as the cut leaves room for. -/
def visible (exc : Raised) : List Char :=
  (exc.text.toList.flatMap Py.escapeChar).take (20000 - (errorHead exc.name).length)

/-- How it is written: the head, the escaped text, and what closes it. -/
theorem dumps_errorObject (exc : Raised) :
    (errorObject exc).dumps [' '] =
      errorHead exc.name ++ (exc.text.toList.flatMap Py.escapeChar ++ '"' :: ['}']) := by
  simp [errorObject, errorHead, Json.dumps, Py.membersText, Py.stringText, String.toList_append]

/-- Exceptions of one class are shown alike when what is visible of their texts is alike. -/
theorem shown_errorObject_iff {exc exc' : Raised} (h : exc.name = exc'.name) :
    shown (errorObject exc) = shown (errorObject exc') ↔ visible exc = visible exc' := by
  have hcode := @PrefixCode.take_eq_iff Char Char Py.escapeChar '"'
    (fun _ _ => Py.escapeChar_prefix) Py.escapeChar_head exc.text.toList exc'.text.toList ['}']
    (20000 - (errorHead exc.name).length)
  unfold shown visible
  rw [String.ofList_inj, dumps_errorObject, dumps_errorObject, ← h]
  exact PrefixCode.take_append_left_inj.trans hcode

/-! ## Two tools that differ in what they raise

The tools may raise or not, as long as they do it on the same arguments. Adding either of them to
the registered ones gives two dashboards to compare. -/

/-- The same tool, but for the texts of the exceptions it raises. It has the same name, is defined
in the same module, and fails on the same arguments with the same type of exception. -/
structure SameButText (tool tool' : Tool) : Prop where
  name      : tool.name = tool'.name
  definedIn : tool.definedIn = tool'.definedIn
  run       : ∀ input, tool.run input = tool'.run input ∨
    ∃ exc exc', tool.run input = .error exc ∧ tool'.run input = .error exc' ∧ Alike exc exc'

/-- The texts do not differ before the cut: an answer is cut to 20000 characters, and what it shows
of the two errors up to there is equal. -/
def SameVisible (tool tool' : Tool) : Prop :=
  ∀ input exc exc', tool.run input = .error exc → tool'.run input = .error exc' →
    visible exc = visible exc'

variable {tool tool' : Tool}

/-- Behind the guard they are the same. -/
theorem SameButText.guarded (h : SameButText tool tool') (input : List (String × Json)) :
    toolGuard tool input = toolGuard tool' input := by
  rcases h.run input with heq | ⟨exc, exc', hrun, hrun', halike⟩
  · unfold toolGuard
    rw [heq, h.name]
  · exact toolGuard_alike h.name halike hrun hrun'

/-- The tool registered last is found under its name, and under other names the others are. -/
theorem findTool_concat_self (tools : List Tool) (tool : Tool) :
    findTool (tools ++ [tool]) tool.name = some tool := by
  simp [findTool]

theorem findTool_concat_other (tools : List Tool) {name : String} (h : name ≠ tool.name) :
    findTool (tools ++ [tool]) name = findTool tools name := by
  simp [findTool, h.symm]

/-- A tool the dashboard leaves out is not missed. -/
theorem collectTools_left_out {registered : List Tool}
    (h : offered tool.name tool.definedIn = false) :
    collectTools (registered ++ [tool]) = collectTools registered := by
  simp [collectTools, h]

/-- One that is offered is registered last. -/
theorem collectTools_offered {registered : List Tool}
    (h : offered tool.name tool.definedIn = true) :
    collectTools (registered ++ [tool]) = collectTools registered ++ [tool] := by
  simp [collectTools, h]

/-- Both are offered, or neither. -/
theorem SameButText.offered_eq (h : SameButText tool tool') :
    offered tool'.name tool'.definedIn = offered tool.name tool.definedIn := by
  rw [h.name, h.definedIn]

/-- A call that raises is answered with the error object. -/
theorem answer_error {registered : List Tool} (h : offered tool.name tool.definedIn = true)
    {exc : Raised} {input : List (String × Json)} (hrun : tool.run input = .error exc) (id : String) :
    answer (collectTools (registered ++ [tool])) ⟨id, tool.name, input⟩ =
      ⟨id, shown (errorObject exc)⟩ := by
  unfold answer toolOutput
  dsimp only
  rw [collectTools_offered h, findTool_concat_self]
  dsimp only
  rw [hrun]
  rfl

/-- If nothing of the texts is visible, every call is answered alike. -/
theorem SameButText.answer_eq (h : SameButText tool tool') {registered : List Tool}
    (hcond : offered tool.name tool.definedIn = false ∨ SameVisible tool tool') (use : ToolUse) :
    answer (collectTools (registered ++ [tool])) use =
      answer (collectTools (registered ++ [tool'])) use := by
  cases hoffered : offered tool.name tool.definedIn with
  | false =>
    -- a tool that is not offered is unknown on both sides
    rw [collectTools_left_out hoffered, collectTools_left_out (h.offered_eq.trans hoffered)]
  | true =>
    have hoffered' := h.offered_eq.trans hoffered
    have hvis : SameVisible tool tool' := hcond.resolve_left (by simp [hoffered])
    obtain ⟨id, used, input⟩ := use
    by_cases hname : used = tool.name  -- only a call of the tool itself can tell the two apart
    · subst hname
      rcases h.run input with heq | ⟨exc, exc', hrun, hrun', halike⟩
      · unfold answer toolOutput
        dsimp only
        rw [collectTools_offered hoffered, collectTools_offered hoffered', findTool_concat_self, h.name,
          findTool_concat_self]
        dsimp only
        rw [heq]
      · -- the error is cut before it is shown, and within the cut the two agree
        have hshown := (shown_errorObject_iff halike.name).mpr (hvis input exc exc' hrun hrun')
        rw [answer_error hoffered hrun, h.name, answer_error hoffered' hrun', hshown]
    · have hname' : used ≠ tool'.name := h.name ▸ hname
      unfold answer toolOutput
      dsimp only
      rw [collectTools_offered hoffered, collectTools_offered hoffered', findTool_concat_other _ hname,
        findTool_concat_other _ hname']

/-! ## What the model is sent

For one direction a model is needed that tells the two apart: one that makes the call that raises.
For the other every answer is the same, and so every run is. -/

/-- A model that makes the same call in every turn. -/
def insistent (name : String) (input : List (String × Json)) : Model :=
  fun _ => ⟨[], "tool_use", [.toolUse "" name input]⟩

/-- The second message list it is sent ends with the tool's answer. -/
theorem sent_insistent (registered : List Tool) (name : String) (input : List (String × Json))
    (history : List Json) (message : String) :
    (runChat registered (insistent name input) history message).sent[1]? =
      some (opening history message ++ [.assistant [.toolUse "" name input],
        .toolResults [answer (collectTools registered) ⟨"", name, input⟩]]) := rfl

/-- Nobody can tell the two tools apart: not by calling them behind the guard, and no model that
talks to `run_chat` or `stream_chat`. -/
structure Indistinguishable (registered : List Tool) (tool tool' : Tool) : Prop where
  guarded : ∀ input, toolGuard tool input = toolGuard tool' input
  run     : ∀ model history message,
    (runChat (registered ++ [tool]) model history message).sent =
      (runChat (registered ++ [tool']) model history message).sent
  stream  : ∀ model history message,
    (streamChat (registered ++ [tool]) model history message).sent =
      (streamChat (registered ++ [tool']) model history message).sent

/-- A model that insists on one call tells the two answers to it apart. -/
theorem Indistinguishable.answer_eq {registered : List Tool}
    (h : Indistinguishable registered tool tool') (name : String) (input : List (String × Json)) :
    answer (collectTools (registered ++ [tool])) ⟨"", name, input⟩ =
      answer (collectTools (registered ++ [tool'])) ⟨"", name, input⟩ := by
  have hsent := congrArg (·[1]?) (h.run (insistent name input) [] "")
  simpa only [sent_insistent, Option.some.injEq, List.append_cancel_left_eq, List.cons.injEq,
    Message.toolResults.injEq, true_and, and_true] using hsent

/-- **What keeps the text of exceptions from the model**: the tool is not offered on the dashboard,
or its texts do not differ before the cut. -/
theorem indistinguishable_iff (registered : List Tool) (tool tool' : Tool)
    (h : SameButText tool tool') :
    Indistinguishable registered tool tool' ↔
      offered tool.name tool.definedIn = false ∨ SameVisible tool tool' := by
  constructor
  · intro hsame
    cases hoffered : offered tool.name tool.definedIn with
    | false => exact .inl rfl
    | true =>
      right
      intro input exc exc' hrun hrun'
      -- the dashboard's answer to the failing call shows the text
      have hanswer := hsame.answer_eq tool.name input
      rw [answer_error hoffered hrun, h.name,
        answer_error (h.offered_eq.trans hoffered) hrun'] at hanswer
      have hshown : shown (errorObject exc) = shown (errorObject exc') :=
        congrArg ToolResult.content hanswer
      rcases h.run input with heq | ⟨e, e', he, he', halike⟩
      · rw [heq, hrun'] at hrun
        rw [Except.error.inj hrun]
      · -- a call has one outcome, so the exceptions are those of the hypothesis
        obtain rfl := Except.error.inj (hrun.symm.trans he)
        obtain rfl := Except.error.inj (hrun'.symm.trans he')
        exact (shown_errorObject_iff halike.name).mp hshown
  · intro hcond
    have hanswer := fun use => @SameButText.answer_eq tool tool' h registered hcond use
    constructor
    · exact h.guarded
    · intro model history message
      -- both loops use the tools only through their answers
      rw [runChat, runChat, runRounds_congr hanswer]
    · intro model history message
      rw [streamChat, streamChat, streamRounds_congr hanswer]

/-- A tool whose database driver names the server it cannot reach. -/
def kaboom (host : String) : Tool :=
  ⟨"k8s_get_pods", .kubernetes, fun _ => .error ⟨"RuntimeError", "kaboom: " ++ host, none, none, none⟩⟩

/-- Two servers make two texts, and nothing else. -/
theorem kaboom_sameButText (host host' : String) : SameButText (kaboom host) (kaboom host') :=
  ⟨rfl, rfl, fun _ => .inr ⟨_, _, rfl, rfl, ⟨rfl, rfl, rfl, rfl, rfl, by simp⟩⟩⟩

/-- Whether they can be told apart is a matter of what is visible. -/
theorem indistinguishable_iff_kaboom :
    Indistinguishable [] (kaboom "secret-host:5432") (kaboom "other-host:5432") ↔
      offered (kaboom "secret-host:5432").name (kaboom "secret-host:5432").definedIn = false ∨
        SameVisible (kaboom "secret-host:5432") (kaboom "other-host:5432") :=
  indistinguishable_iff [] _ _ (kaboom_sameButText _ _)

/-- The host name that the guard holds back reaches the model on the dashboard. -/
theorem dashboard_shows_text :
    ¬ (∀ registered tool tool', SameButText tool tool' →
        Indistinguishable registered tool tool') ∧
      toolGuard (kaboom "secret-host:5432") [] = toolGuard (kaboom "") [] ∧
      answer (collectTools [kaboom "secret-host:5432"]) ⟨"id", "k8s_get_pods", []⟩ =
        ⟨"id", "\x7b\"error\": \"RuntimeError: kaboom: secret-host:5432\"\x7d"⟩ := by
  refine ⟨?_, rfl, by decide⟩
  intro h
  have hanswer := (h [] _ _ (kaboom_sameButText "a" "b")).answer_eq "k8s_get_pods" []
  revert hanswer
  decide

end SreAgent.Webapp.Chat
