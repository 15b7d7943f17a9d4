import SreAgent.Config
import SreAgent.Tools.Http

/-!
# Outbound messages

`slack_post` and `teams_post` of `tools/incidents.py`, the only tools with an effect outside. They
refuse before they send anything; what passes the checks is posted through the retrying client.

Both tools answer with an object that says whether it worked. Slack's own answer is passed on as it
came. For Teams the tool makes one up, once the post went through.
-/

namespace SreAgent.Tools

open Py (Json)

/-- `{"ok": False, "error": msg}`. -/
def refusal (msg : String) : Posted :=
  { result := .ok (.obj [("ok", .bool false), ("error", .str msg)]) }

def notificationsDisabled : String := "notifications disabled (set ALLOW_NOTIFICATIONS=true)"

def slackPost (settings : Settings) (network : ℕ → Attempt) (channel text : String) : Posted :=
  if !settings.allowNotifications then
    refusal notificationsDisabled
  else if !settings.allowedSlackChannels.contains channel then
    refusal ("channel " ++ Py.repr channel ++ " not allow-listed")
  else
    postJson network
      { url := "https://slack.com/api/chat.postMessage"
        json := .obj [("channel", .str channel), ("text", .str text)]
        headers := [("Authorization", "Bearer " ++ settings.slackBotToken)] }

/-- `teams_post`, which returns its own answer once the post went through. -/
def teamsPost (settings : Settings) (network : ℕ → Attempt) (text : String) : Posted :=
  if !settings.allowNotifications then
    refusal notificationsDisabled
  else if settings.teamsWebhookUrl = "" then
    refusal "TEAMS_WEBHOOK_URL not configured"
  else
    let posted := postJson network
      { url := settings.teamsWebhookUrl, json := .obj [("text", .str text)], headers := [] }
    { posted with result := posted.result.map fun _ => .obj [("ok", .bool true)] }

/-! ## How often a message arrives

The checks come first and decide whether anything is sent. Past them both tools are the same request
through the same retry, so one lemma about the retry bounds them both. -/

/-- `slack_post` gets past its checks. -/
def SlackPosts (settings : Settings) (channel : String) : Prop :=
  settings.allowNotifications = true ∧ channel ∈ settings.allowedSlackChannels

/-- `teams_post` gets past its checks. -/
def TeamsPosts (settings : Settings) : Prop :=
  settings.allowNotifications = true ∧ settings.teamsWebhookUrl ≠ ""

/-- A refused message is not sent. -/
@[simp] theorem acceptances_refusal (msg : String) : (refusal msg).acceptances = 0 := rfl

/-- A call either refuses, or its attempts are those of `post_json`. -/
theorem slackPost_acceptances (settings : Settings) (network : ℕ → Attempt)
    (channel text : String) :
    (¬ SlackPosts settings channel ∧
        (slackPost settings network channel text).acceptances = 0) ∨
      SlackPosts settings channel ∧ ∃ request,
        (slackPost settings network channel text).acceptances =
          (postJson network request).acceptances := by
  unfold slackPost SlackPosts
  split
  · next h =>
    left
    constructor
    · intro hposts
      simp [hposts.1] at h  -- writing is switched off
    · rfl
  · next h =>
    split
    · next hch =>
      left
      constructor
      · intro hposts
        simp [hposts.2] at hch  -- the channel is not on the list
      · rfl
    · next hch =>
      right
      exact ⟨⟨by simpa using h, by simpa using hch⟩, _, rfl⟩

/-- The same of the message to Teams, with its own checks. -/
theorem teamsPost_acceptances (settings : Settings) (network : ℕ → Attempt) (text : String) :
    (¬ TeamsPosts settings ∧ (teamsPost settings network text).acceptances = 0) ∨
      TeamsPosts settings ∧ ∃ request,
        (teamsPost settings network text).acceptances =
          (postJson network request).acceptances := by
  unfold teamsPost TeamsPosts
  split
  · next h =>
    left
    constructor
    · intro hposts
      simp [hposts.1] at h  -- writing is switched off
    · rfl
  · next h =>
    split
    · next hurl =>
      left
      constructor
      · intro hposts
        exact hposts.2 hurl  -- no webhook is configured
      · rfl
    · next hurl =>
      right
      refine ⟨⟨by simpa using h, hurl⟩, ?_, ?_⟩
      · exact { url := settings.teamsWebhookUrl, json := .obj [("text", .str text)], headers := [] }
      · rfl

/-- From the two cases to the bounds. -/
theorem bounds_of_cases {posts : Prop} {network : ℕ → Attempt} {n : ℕ}
    (h : (¬ posts ∧ n = 0) ∨ posts ∧ ∃ request, n = (postJson network request).acceptances) :
    n ≤ maxAttempts ∧ (n ≤ 1 ↔ ¬ (posts ∧ Resent network)) := by
  rcases h with ⟨hno, rfl⟩ | ⟨hposts, request, rfl⟩
  · exact ⟨Nat.zero_le _, iff_of_true (Nat.zero_le _) fun hboth => hno hboth.1⟩
  · refine ⟨acceptances_postJson_le network request, ?_⟩
    rw [acceptances_postJson_le_one_iff, not_and]
    exact ⟨fun h _ => h, fun h => h hposts⟩

/-- **How often one call's message is accepted**: at most three times, and at most once exactly
unless an accepted attempt that looked failed to the client is followed, with nothing but failures
in between, by another accepted one. -/
theorem acceptances_bounds (settings : Settings) (network : ℕ → Attempt) (channel text : String) :
    ((slackPost settings network channel text).acceptances ≤ maxAttempts ∧
      ((slackPost settings network channel text).acceptances ≤ 1 ↔
        ¬ (SlackPosts settings channel ∧ Resent network))) ∧
    ((teamsPost settings network text).acceptances ≤ maxAttempts ∧
      ((teamsPost settings network text).acceptances ≤ 1 ↔
        ¬ (TeamsPosts settings ∧ Resent network))) :=
  ⟨bounds_of_cases (slackPost_acceptances settings network channel text),
    bounds_of_cases (teamsPost_acceptances settings network text)⟩

/-- Every attempt is accepted, but the response to the first one is lost. -/
def lostResponse : ℕ → Attempt
  | 0     => ⟨true, .raised (.transportError "ReadTimeout")⟩
  | _ + 1 => ⟨true, .response 200 ""⟩

/-- The message is posted twice. -/
theorem lost_response_posts_twice :
    ¬ (∀ settings network channel text,
      (slackPost settings network channel text).acceptances ≤ 1 ∧
        (teamsPost settings network text).acceptances ≤ 1) ∧
    (slackPost { allowNotifications := true, slackAllowedChannels := "#sre" } lostResponse
      "#sre" "RCA").acceptances = 2 := by
  have htwice : (slackPost { allowNotifications := true, slackAllowedChannels := "#sre" }
      lostResponse "#sre" "RCA").acceptances = 2 := by decide
  refine ⟨?_, htwice⟩
  intro h
  have hone := (h { allowNotifications := true, slackAllowedChannels := "#sre" } lostResponse
    "#sre" "RCA").1
  rw [htwice] at hone
  exact absurd hone (by decide)

end SreAgent.Tools
