import SreAgent.Tools.Confinement
import SreAgent.Tools.Outlines
import SreAgent.Webapp.Chat

/-!
# What the agent says outside

Only two tools write anything anywhere. Whatever is called at the same time, and whatever is answered,
each post is the message of a call that was allowed to make it (`posts_allowed`); the dashboard, which is
not given the two tools, posts nothing. As programs the two tools do what `Incidents.lean` says of them
(`run_slackPostCalls`, `run_teamsPostCalls`).

Posting is modelled twice: as a function of what the network does (`Incidents.lean`), which counts
acceptances, and as a program, which can be run beside others. The two are connected here, so that
what is proved of one holds of the other.
-/

namespace SreAgent.Tools

open Interaction (Prog)
open Py (Json)

/-! ## Posts against a network

The `k`-th attempt meets the `k`-th answer of the network. A run of the program is then a list of
posts, one for each attempt, and the result is what the last one came to. -/

def Effect.noReply : (e : Effect) → e.Reply
  | .ask (.connect _)   => .error (.other "no cluster")
  | .ask (.kube ..)     => .error (.apiException 503)
  | .ask (.get _)       => .raised (.transportError "ConnectError")
  | .ask (.knowledge _) => .ok []
  | .search ..          => .ok []
  | .post _             => .raised (.transportError "ConnectError")

/-- A network where the `k`-th effect, a post, ends as `network k`. -/
def postNetwork (network : ℕ → Attempt) (past : List Effect) : (e : Effect) → e.Reply
  | .post _ => (network past.length).answer
  | e       => e.noReply

def Posted.effects (posted : Posted) : List Effect :=
  match posted.request with
  | none         => []
  | some request => List.replicate posted.attempts.length (.post request)

/-- By induction on the attempts that are left: those made are those of the retry, from this place
of the network on. -/
theorem run_postJsonWithin (network : ℕ → Attempt) (request : Request) (more : Nat)
    (past : List Effect) :
    (postJsonWithin request more).run (postNetwork network) past =
      (List.replicate (Retry.made Attempt.again network (more + 1) past.length).length
          (.post request),
        ((Retry.made Attempt.again network (more + 1) past.length).getLastD
          (network past.length)).answer.toResult) := by
  induction more generalizing past with
  | zero =>
      have hmade : Retry.made Attempt.again network 1 past.length = [network past.length] := by
        unfold Retry.made
        split <;> rfl
      rw [postJsonWithin, Prog.run_request_bind, Prog.run_lift, hmade]
      rfl
  | succ more ih =>
      have hlength : past.length + 1 = (past ++ [Effect.post request]).length := by
        rw [List.length_append]
        rfl
      rw [postJsonWithin, Prog.run_request_bind, Retry.made]
      by_cases hagain : Attempt.again (network past.length) = true
      · have hretry : retryable (Answer.toResult
            (postNetwork network past (.post request))) = true := hagain
        rw [if_pos hretry, ih, if_pos hagain, hlength, List.getLastD_cons]
        rfl  -- there is a further attempt, so it does not matter what the last of none would be
      · have hretry : ¬ retryable (Answer.toResult
            (postNetwork network past (.post request))) = true := hagain
        rw [if_neg hretry, Prog.run_lift, if_neg hagain]
        rfl

/-- So the program makes the posts of `postJson`, and ends as it does. -/
theorem run_postJsonCalls (network : ℕ → Attempt) (request : Request) :
    (postJsonCalls request).run (postNetwork network) [] =
      ((postJson network request).effects, (postJson network request).result) :=
  run_postJsonWithin network request (maxAttempts - 1) []

/-- `slack_post` as a program makes the posts, and ends as the call does. -/
theorem run_slackPostCalls (settings : Settings) (network : ℕ → Attempt) (channel text : String) :
    (slackPostCalls settings channel text).run (postNetwork network) [] =
      ((slackPost settings network channel text).effects,
        (slackPost settings network channel text).result) := by
  unfold slackPostCalls slackPost
  split
  · rfl
  split
  · rfl
  · exact run_postJsonCalls network (slackRequest settings channel text)

/-- `teams_post` as a program makes the posts, and ends as the call does. -/
theorem run_teamsPostCalls (settings : Settings) (network : ℕ → Attempt) (text : String) :
    (teamsPostCalls settings text).run (postNetwork network) [] =
      ((teamsPost settings network text).effects, (teamsPost settings network text).result) := by
  unfold teamsPostCalls teamsPost
  split
  · rfl
  split
  · rfl
  · rw [Prog.run_map, run_postJsonCalls]
    rfl

/-! ## Every post is allowed

A post is looked up in what its call may send. The other tools post nothing, which is plain from the
type of their programs: they ask, and asking is not posting. -/

/-- The messages a call may send: its own, with notifications enabled, to a channel of the list or to
the webhook. -/
inductive ServerCall.MayPost (settings : Settings) : ServerCall → Request → Prop
  | slack {channel text : String} (enabled : settings.allowNotifications = true)
    (listed : channel ∈ settings.allowedSlackChannels) :
    MayPost settings (.slackPost channel text) (slackRequest settings channel text)
  | teams {text : String} (enabled : settings.allowNotifications = true)
    (configured : settings.teamsWebhookUrl ≠ "") :
    MayPost settings (.teamsPost text) (teamsRequest settings text)

/-- A call that may post is one the dashboard cannot make. -/
theorem ServerCall.MayPost.excluded {settings : Settings} {call : ServerCall} {request : Request}
    (h : call.MayPost settings request) : call.name ∈ Webapp.Chat.excluded := by
  cases h with
  | slack => exact List.mem_cons_self
  | teams => exact List.mem_cons_of_mem _ List.mem_cons_self

/-- An effect that, if it is a post, is one of these. -/
def Posts (may : Request → Prop) : Effect → Prop
  | .post request => may request
  | _             => True

variable {may : Request → Prop}

/-- A tool that only asks posts nothing. -/
theorem asking_posts {α : Type} (p : Run α) : (asking p).All (Posts may) := by
  apply Prog.All.reask
  induction p with
  | done a => trivial
  | fail e => trivial
  | ask q next ih => exact ⟨trivial, ih⟩

/-- A tool posts what its call may. -/
theorem ServerCall.program_posts (server : Server) (call : ServerCall) :
    (call.program server).All (Posts (call.MayPost server.settings.toSettings)) := by
  -- two tools post, and two ask for something other than a reading; the rest only read
  cases call with
  | slackPost channel text =>
      have hmay : (slackPostCalls server.settings.toSettings channel text).Limited
          (Posts (MayPost server.settings.toSettings (.slackPost channel text))) 3 :=
        slackPostCalls_limited MayPost.slack
      exact (discard_limited (by decide) hmay).all
  | teamsPost text =>
      have hmay : (teamsPostCalls server.settings.toSettings text).Limited
          (Posts (MayPost server.settings.toSettings (.teamsPost text))) 3 :=
        teamsPostCalls_limited MayPost.teams
      exact (discard_limited (by decide) hmay).all
  | kbSearch => exact (discard_limited (by decide) (kbSearch_limited (fun _ => trivial) _)).all
  | listClusters => exact (discard_limited (Nat.zero_le _) listClusters_limited).all
  | _ => simp only [ServerCall.program, asking_posts]

/-- **Every post is allowed**, whatever is called at the same time and whatever is answered: it is the
message of a call that may send it, and so of one the dashboard cannot make. -/
theorem posts_allowed (server : Server) {calls : List ServerCall} {effects : List Effect}
    (h : Prog.Asks (calls.map (ServerCall.program server)) effects) {request : Request}
    (hpost : Effect.post request ∈ effects) :
    ∃ call ∈ calls, call.MayPost server.settings.toSettings request ∧
      call.name ∈ Webapp.Chat.excluded := by
  -- each program posts what its own call may, hence what some call of the list may
  have hall : ∀ p ∈ calls.map (ServerCall.program server), p.All (Posts fun request =>
      ∃ call ∈ calls, call.MayPost server.settings.toSettings request) := by
    intro p hp
    obtain ⟨call, hcall, rfl⟩ := List.mem_map.mp hp
    apply (call.program_posts server).mono
    intro e he
    cases e with
    | post request => exact ⟨call, hcall, he⟩
    | _ => trivial
  obtain ⟨call, hcall, hmay⟩ := Prog.All.asks hall h _ hpost
  exact ⟨call, hcall, hmay, hmay.excluded⟩

/-- A server that may post to one channel. -/
def notifying : Server where
  settings := { allowNotifications := true, slackAllowedChannels := "#sre", slackBotToken := "xoxb" }
  registry := { clusters := [] }
  now := paymentsSite.now

/-- The diagnosis is posted, while somebody lists the clusters. -/
theorem posts_allowed_slack :
    ∃ effects, Prog.Asks
        ([.listClusters, .slackPost "#sre" "RCA"].map (ServerCall.program notifying)) effects ∧
      Effect.post (slackRequest notifying.settings.toSettings "#sre" "RCA") ∈ effects ∧
      ∃ call ∈ [ServerCall.listClusters, .slackPost "#sre" "RCA"],
        call.MayPost notifying.settings.toSettings
            (slackRequest notifying.settings.toSettings "#sre" "RCA") ∧
          call.name ∈ Webapp.Chat.excluded := by
  have hrun : Prog.Asks
      ([.listClusters, .slackPost "#sre" "RCA"].map (ServerCall.program notifying))
      [.post (slackRequest notifying.settings.toSettings "#sre" "RCA")] :=
    .step (.ask [.done ()] [] _ _ (.response 200 "")) (.nothing _)
  exact ⟨_, hrun, List.mem_cons_self, posts_allowed notifying hrun List.mem_cons_self⟩

end SreAgent.Tools
