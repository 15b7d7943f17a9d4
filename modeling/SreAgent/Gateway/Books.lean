import SreAgent.Gateway.Basic
import SreAgent.Observability

/-!
# What a process says it did

The gateway of `middleware.py` and `tool_guard` of `resilience.py` once more, now with every call of
`record_auth`, `record_ratelimited` and `record_tool` they make. A process answers requests and runs
tools in any order; its metrics and its audit log account for every request and every tool it ran
(`books_balance`).

The records are lines of a log, and the metrics are what the log adds up to
(`Observability.Booked`). So a statement about counters is one about lines, and a line is the work
of one event. What remains is to say which lines one event leaves behind, and which answers go with
them (`Answered`).
-/

namespace SreAgent.Gateway

open Py (Json)
open Observability (recordAuth_eq recordRatelimited_eq recordTool_eq)
open Ratelimit (TokenBucketLimiter)

/-! ## The functions with their records

The same functions again, with the calls of the recorders in the places where the source has them: a
verified caller is recorded before it is rate limited, a missing token as such, and any other
failure of the check as an error. -/

/-- `gateway`, with what it records. -/
def recordedGateway (settings : Settings) (st : TokenBucketLimiter × Observability) (a : Arrival) :
    Reply × (TokenBucketLimiter × Observability) :=
  let (limiter, obs) := st
  if a.scope.type ≠ "http" ∨ a.scope.path ∈ publicPaths then
    (.base, limiter, obs)
  else
    let auth := a.scope.authorization
    if lowerBytes (auth.take 7) ≠ ascii "bearer " then
      (unauthorized "missing bearer token", limiter, obs.recordAuth "missing_token")
    else
      let token := String.ofList (Py.strip (latin1 (auth.drop 7)))
      match verifyBearerToken a.jwt token settings with
      | .error (.authError msg) => (unauthorized msg, limiter, obs.recordAuth "rejected")
      | .error _                =>
        (unauthorized "token validation failed", limiter, obs.recordAuth "error")
      | .ok principal           =>
        let obs := obs.recordAuth "ok" principal.subject
        match limiter.allow { principal := principal.subject, now := a.now } with
        | (true, limiter)  => (.base, limiter, obs)
        | (false, limiter) => (rateLimited, limiter, obs.recordRatelimited principal.subject)

/-- A call of a guarded function, and how long it takes. -/
structure GuardedCall where
  tool    : Tool
  input   : List (String × Json)
  seconds : ℚ

/-- `kwargs.get("cluster") or "default"`. -/
def GuardedCall.cluster (c : GuardedCall) : String :=
  match Py.member c.input "cluster" with
  | some (.str s) => if s = "" then "default" else s
  | _             => "default"

/-- `tool_guard`, with what it records. -/
def recordedGuard (obs : Observability) (c : GuardedCall) : Json × Observability :=
  match c.tool.run c.input with
  | .ok result => (result, obs.recordTool c.tool.name c.cluster "ok" c.seconds)
  | .error exc =>
    let (kind, safe) := classify exc
    (.obj [("error", .str kind), ("message", .str safe), ("tool", .str c.tool.name)],
      obs.recordTool c.tool.name c.cluster kind c.seconds)

/-- `logs_container` calls the registered `logs_pod`, which is guarded itself: whatever that returns,
an error included, is the result of a tool that succeeded. -/
def recordedLogsContainer (obs : Observability) (logsPod : GuardedCall) (seconds : ℚ) :
    Json × Observability :=
  let (result, obs) := recordedGuard obs logsPod
  (result, obs.recordTool "logs_container" logsPod.cluster "ok" seconds)

/-! ## A process

One process serves requests and runs tools in whatever order they come; both write to the same
metrics. A step is one whole request or one whole tool. -/

/-- What a process is given to do next. -/
inductive Event where
  | http (a : Arrival)
  | tool (c : GuardedCall)
  | logsContainer (logsPod : GuardedCall) (seconds : ℚ)

/-- What comes back: a reply of the gateway, or what a tool returned. -/
inductive Outcome where
  | reply (r : Reply)
  | result (v : Json)

def processStep (settings : Settings) (st : TokenBucketLimiter × Observability) :
    Event → Outcome × (TokenBucketLimiter × Observability)
  | .http a =>
    let (reply, st) := recordedGateway settings st a
    (.reply reply, st)
  | .tool c =>
    let (result, obs) := recordedGuard st.2 c
    (.result result, st.1, obs)
  | .logsContainer logsPod seconds =>
    let (result, obs) := recordedLogsContainer st.2 logsPod seconds
    (.result result, st.1, obs)

/-- A process, one event a step. -/
def process (settings : Settings) :
    Machine (TokenBucketLimiter × Observability) Event Outcome where
  step := processStep settings

/-- A process just started, with the metrics library at hand. -/
def started (settings : Settings) : TokenBucketLimiter × Observability :=
  (buildLimiter settings, { enabled := true })

/-- The events of a process, each with what became of it. -/
def history (settings : Settings) (events : List Event) : List (Event × Outcome) :=
  (process settings).trace (started settings) events

/-- The metrics and the log at its end. -/
def books (settings : Settings) (events : List Event) : Observability :=
  ((process settings).final (started settings) events).2

/-! ## What a step records

The lines are given by the event and its outcome, not by the code that writes them. That the code
writes these, and no others, is `recordedGateway_eq` and `recordedGuard_eq`. -/

/-- The outcome under which a token is refused. -/
def rejectedAs : Exc → String
  | .authError _ => "rejected"
  | _            => "error"

/-- The outcome under which a request is refused. -/
def refusedAs (settings : Settings) (a : Arrival) : String :=
  if lowerBytes (a.scope.authorization.take 7) ≠ ascii "bearer " then
    "missing_token"
  else
    match verifyBearerToken a.jwt
        (String.ofList (Py.strip (latin1 (a.scope.authorization.drop 7)))) settings with
    | .error e => rejectedAs e
    | .ok _    => "ok"

/-- The line of a guarded call. -/
def GuardedCall.line (c : GuardedCall) : AuditLine :=
  .toolCall c.tool.name c.cluster
    (match c.tool.run c.input with
      | .ok _      => "ok"
      | .error exc => (classify exc).1) c.seconds

/-- The lines a request leaves behind, by its standing and the reply. -/
def replyLines (settings : Settings) (a : Arrival) (r : Reply) : List AuditLine :=
  match standing settings a with
  | .open_          => []
  | .refused _      => [.auth (refusedAs settings a) ""]
  | .caller subject =>
    .auth "ok" subject :: if r = rateLimited then [.rateLimited subject] else []

/-- The lines an event leaves behind. -/
def lines (settings : Settings) : Event × Outcome → List AuditLine
  | (.http a, .reply r)              => replyLines settings a r
  | (.http _, .result _)             => []
  | (.tool c, _)                     => [c.line]
  | (.logsContainer c seconds, _)    =>
    [c.line, .toolCall "logs_container" c.cluster "ok" seconds]

variable {settings : Settings} {limiter : TokenBucketLimiter} {obs : Observability}

/-- A guarded call leaves one line, whether the tool succeeded or raised, -/
theorem recordedGuard_eq (hon : obs.enabled = true) (c : GuardedCall) :
    (recordedGuard obs c).2 = obs.enter c.line := by
  unfold recordedGuard GuardedCall.line
  cases c.tool.run c.input with
  | ok result => exact recordTool_eq hon ..
  | error exc => exact recordTool_eq hon ..

/-- and `logs_container` leaves two, since it calls a tool that is guarded itself. -/
theorem recordedLogsContainer_eq (hon : obs.enabled = true) (c : GuardedCall) (seconds : ℚ) :
    (recordedLogsContainer obs c seconds).2 =
      (obs.enter c.line).enter (.toolCall "logs_container" c.cluster "ok" seconds) := by
  show (recordedGuard obs c).2.recordTool _ _ _ _ = _
  rw [recordedGuard_eq hon]
  exact recordTool_eq (by simpa using hon) ..

/-- **The gateway answers as if it recorded nothing**, and records what the reply says. -/
theorem recordedGateway_eq (hon : obs.enabled = true) (a : Arrival) :
    recordedGateway settings (limiter, obs) a =
      ((gateway settings limiter a).1, (gateway settings limiter a).2,
        (replyLines settings a (gateway settings limiter a).1).foldl Observability.enter obs) := by
  unfold recordedGateway replyLines
  rw [gateway_eq]
  unfold standing
  dsimp only
  split
  · rfl
  · split
    · next hmissing =>
      rw [recordAuth_eq hon, refusedAs, if_pos hmissing]
      rfl
    · next hbearer =>
      -- either way the reply and the line are made from the same result
      cases hverify : verifyBearerToken a.jwt
          (String.ofList (Py.strip (latin1 (a.scope.authorization.drop 7)))) settings with
      | error e =>
          have hrefused : refusedAs settings a = rejectedAs e := by
            rw [refusedAs, if_neg hbearer, hverify]
          dsimp only
          rw [hrefused]
          cases e <;> exact congrArg (Prod.mk _) (congrArg (Prod.mk _) (recordAuth_eq hon ..))
      | ok principal =>
          dsimp only
          rw [recordAuth_eq hon]
          split
          · next limiter' hallow =>
            simp only [hallow]
            rfl
          · next limiter' hallow =>
            have hon' : (obs.enter (.auth "ok" principal.subject)).enabled = true := hon
            simp only [hallow]
            rw [recordRatelimited_eq hon']
            rfl

/-! ## Every run

The log grows by the lines of each event. The replies do not depend on it, so they are those of the
gateway without records. -/

/-- What a process has done is in its log, and its metrics say what the log says. -/
structure Kept (settings : Settings) (tr : List (Event × Outcome))
    (st : TokenBucketLimiter × Observability) : Prop where
  enabled : st.2.enabled = true
  booked  : st.2.Booked
  audit   : st.2.audit = tr.flatMap (lines settings)

/-- Entering some lines appends them to the log and keeps the metrics in step with it. -/
theorem foldl_enter (entered : List AuditLine) (obs : Observability) :
    (entered.foldl Observability.enter obs).enabled = obs.enabled ∧
      (entered.foldl Observability.enter obs).audit = obs.audit ++ entered ∧
      (obs.Booked → (entered.foldl Observability.enter obs).Booked) := by
  induction entered generalizing obs with
  | nil => exact ⟨rfl, (List.append_nil _).symm, id⟩
  | cons line entered ih =>
      obtain ⟨henabled, haudit, hbooked⟩ := ih (obs.enter line)
      refine ⟨henabled, ?_, fun h => hbooked (h.enter line)⟩
      rw [List.foldl_cons, haudit]
      exact List.append_assoc ..

/-- **One event** is entered under the lines it leaves behind, and under no others. -/
theorem processStep_eq (st : TokenBucketLimiter × Observability) (hon : st.2.enabled = true)
    (e : Event) :
    (processStep settings st e).2.2 =
      (lines settings (e, (processStep settings st e).1)).foldl Observability.enter st.2 := by
  obtain ⟨limiter, obs⟩ := st
  cases e with
  | http a =>
      have hgateway := @recordedGateway_eq settings limiter obs hon a
      show (recordedGateway settings (limiter, obs) a).2.2 =
        (replyLines settings a (recordedGateway settings (limiter, obs) a).1).foldl _ obs
      rw [hgateway]
  | tool c => exact recordedGuard_eq hon c
  | logsContainer c seconds => exact recordedLogsContainer_eq hon c seconds

/-- **One event** keeps the log and the metrics: what it adds to each of them are the lines that its
outcome stands for. -/
theorem Kept.step {tr : List (Event × Outcome)} {st : TokenBucketLimiter × Observability}
    (h : Kept settings tr st) (e : Event) :
    Kept settings (tr ++ [(e, (processStep settings st e).1)]) (processStep settings st e).2 := by
  obtain ⟨henabled, haudit, hbooked⟩ :=
    foldl_enter (lines settings (e, (processStep settings st e).1)) st.2
  rw [← processStep_eq st h.enabled] at henabled haudit hbooked
  refine ⟨henabled.trans h.enabled, hbooked h.booked, ?_⟩
  rw [haudit, h.audit, List.flatMap_append, List.flatMap_singleton]

/-- **Every run** keeps them, by induction on its events, from the empty log and the metrics at
zero. -/
theorem kept_run (settings : Settings) (events : List Event) :
    Kept settings (history settings events)
      ((process settings).final (started settings) events) := by
  apply Machine.run_induction' (P := Kept settings)
  · exact ⟨rfl, Observability.Booked.start, rfl⟩
  · intro tr st e h
    exact h.step e

/-- The request of an event and the reply to it. -/
def exchange : Event × Outcome → Option (Arrival × Reply)
  | (.http a, .reply r) => some (a, r)
  | _                   => none

def Event.arrival : Event → Option Arrival
  | .http a => some a
  | _       => none

/-- **The requests of a process** are answered as by a gateway that records nothing and beside which no
tool runs. -/
theorem exchanges_eq_serve (settings : Settings) (events : List Event) :
    (history settings events).filterMap exchange =
      serve settings (events.filterMap Event.arrival) := by
  -- the state is generalised; all that matters of it is the limiter, and that records are on
  suffices h : ∀ (st : TokenBucketLimiter × Observability), st.2.enabled = true →
      ((process settings).trace st events).filterMap exchange =
        (app settings).trace st.1 (events.filterMap Event.arrival) from
    h (started settings) rfl
  induction events with
  | nil => exact fun _ _ => rfl
  | cons e events ih =>
      intro st hon
      have hnext : (processStep settings st e).2.2.enabled = true := by
        rw [processStep_eq st hon e, (foldl_enter _ _).1, hon]
      have hrest := ih (processStep settings st e).2 hnext
      obtain ⟨limiter, obs⟩ := st
      cases e with
      | tool c => exact hrest
      | logsContainer c seconds => exact hrest
      | http a =>
          have hgateway := @recordedGateway_eq settings limiter obs hon a
          have hlimiter : (processStep settings (limiter, obs) (.http a)).2.1 =
              (gateway settings limiter a).2 := by
            show (recordedGateway settings (limiter, obs) a).2.1 = _
            rw [hgateway]
          have hreply : (recordedGateway settings (limiter, obs) a).1 =
              (gateway settings limiter a).1 := by rw [hgateway]
          rw [hlimiter] at hrest
          show (a, (recordedGateway settings (limiter, obs) a).1) :: _ = (a, _) :: _
          rw [hreply]
          exact congrArg (List.cons _) hrest

/-! ## What the metrics say of a run

Each event is assigned what it should count as, again without looking at the records. -/

/-- The status of an answer. What the application behind the gateway answers is its own matter. -/
def Outcome.status : Outcome → Option Nat
  | .reply (.json status _ _) => some status
  | _                         => none

/-- The subject whose token came with a request. -/
def Event.subject (settings : Settings) : Event → Option String
  | .http a => a.subject settings
  | _       => none

/-- The guarded functions an event enters. -/
def Event.entered : Event → List String
  | .http _                  => []
  | .tool c                  => [c.tool.name]
  | .logsContainer logsPod _ => [logsPod.tool.name, "logs_container"]

/-- The outcome under which a request is recorded. -/
def Event.authOutcome (settings : Settings) : Event → Option String
  | .http a =>
    match standing settings a with
    | .open_     => none
    | .refused _ => some (refusedAs settings a)
    | .caller _  => some "ok"
  | _       => none

/-- What an event can be answered: a refused request with a 401, a caller's by the application or with
a 429. -/
def Answered (settings : Settings) (e : Event × Outcome) : Prop :=
  match e.1 with
  | .http a =>
    match standing settings a with
    | .open_     => e.2 = .reply .base
    | .refused _ => ∃ msg, e.2 = .reply (unauthorized msg)
    | .caller _  => e.2 = .reply .base ∨ e.2 = .reply rateLimited
  | _ => ∃ v, e.2 = .result v

/-- One event is answered in one of these ways, and every event of a run is. -/
theorem answered_step (st : TokenBucketLimiter × Observability) (hon : st.2.enabled = true)
    (e : Event) : Answered settings (e, (processStep settings st e).1) := by
  obtain ⟨limiter, obs⟩ := st
  cases e with
  | http a =>  -- the reply is that of the gateway without its log (`recordedGateway_eq`)
      have hgateway := @recordedGateway_eq settings limiter obs hon a
      have hreply : (processStep settings (limiter, obs) (.http a)).1 =
          .reply (gateway settings limiter a).1 := by
        show Outcome.reply (recordedGateway settings (limiter, obs) a).1 = _
        rw [hgateway]
      rw [Answered, hreply, gateway_eq]
      dsimp only
      cases standing settings a with
      | open_ => rfl
      | refused msg => exact ⟨msg, rfl⟩
      | caller subject =>
          dsimp only
          split
          · exact .inl rfl
          · exact .inr rfl
  | tool c => exact ⟨_, rfl⟩
  | logsContainer c seconds => exact ⟨_, rfl⟩

theorem answered_run (settings : Settings) (events : List Event) :
    ∀ e ∈ history settings events, Answered settings e := by
  -- the log is needed along the way: that it is enabled is part of the invariant
  have hkept : ∀ (tr : List (Event × Outcome)) (st : TokenBucketLimiter × Observability) (e : Event),
      (Kept settings tr st ∧ ∀ x ∈ tr, Answered settings x) →
        Kept settings (tr ++ [(e, (processStep settings st e).1)]) (processStep settings st e).2 ∧
          ∀ x ∈ tr ++ [(e, (processStep settings st e).1)], Answered settings x := by
    intro tr st e h
    refine ⟨h.1.step e, ?_⟩
    intro x hx
    rcases List.mem_append.mp hx with hx | hx
    · exact h.2 x hx
    · rw [List.mem_singleton.mp hx]
      exact answered_step st h.1.enabled e
  have hstart : Kept settings [] (started settings) := ⟨rfl, Observability.Booked.start, rfl⟩
  exact (Machine.run_induction' (m := process settings)
    (P := fun tr st => Kept settings tr st ∧ ∀ x ∈ tr, Answered settings x)
    ⟨hstart, fun _ h => absurd h List.not_mem_nil⟩ hkept events).2

/-! ## The balance

Counting lines of a kind over a run is counting events that leave one. So each balance is a lemma
about one event, and `filterMap_books` carries it over the run. -/

section

variable {e : Event × Outcome}

/-- **A request, by what it leaves behind**: it was refused, or it has a caller, and then it was
handed on or is over the limit. -/
theorem Answered.http_cases {a : Arrival} {o : Outcome} (h : Answered settings (.http a, o)) :
    (standing settings a = .open_ ∧ o.status = none ∧ lines settings (.http a, o) = []) ∨
      (∃ msg, standing settings a = .refused msg ∧ o.status = some 401 ∧
        lines settings (.http a, o) = [.auth (refusedAs settings a) ""]) ∨
      ∃ subject, standing settings a = .caller subject ∧
        (o.status = none ∧ lines settings (.http a, o) = [.auth "ok" subject] ∨
          o.status = some 429 ∧
            lines settings (.http a, o) = [.auth "ok" subject, .rateLimited subject]) := by
  unfold Answered at h
  dsimp only at h
  cases hs : standing settings a with
  | open_ =>
      rw [hs] at h
      rw [h, lines, replyLines, hs]
      exact .inl ⟨rfl, rfl, rfl⟩
  | refused msg =>
      rw [hs] at h
      obtain ⟨msg', rfl⟩ := h
      rw [lines, replyLines, hs]
      exact .inr (.inl ⟨msg, rfl, rfl, rfl⟩)
  | caller subject =>
      rw [hs] at h
      refine .inr (.inr ⟨subject, rfl, ?_⟩)
      rcases h with rfl | rfl  -- whether the caller is within the limit decides the second line
      · rw [lines, replyLines, hs]
        exact .inl ⟨rfl, rfl⟩
      · rw [lines, replyLines, hs]
        exact .inr ⟨rfl, rfl⟩

/-- An event is recorded under one outcome at most. -/
theorem authOutcome_lines (h : Answered settings e) :
    (lines settings e).filterMap AuditLine.authOutcome = (e.1.authOutcome settings).toList := by
  obtain ⟨event, outcome⟩ := e
  cases event with
  | tool c => rfl
  | logsContainer c seconds => rfl
  | http a =>
      unfold Event.authOutcome
      dsimp only
      rcases h.http_cases with ⟨hs, -, hl⟩ | ⟨msg, hs, -, hl⟩ | ⟨subject, hs, ⟨-, hl⟩ | ⟨-, hl⟩⟩ <;>
        (rw [hl, hs]; rfl)

/-- A 429 is recorded under the principal it was answered to. -/
theorem limited_lines (h : Answered settings e) :
    (lines settings e).filterMap AuditLine.limitedPrincipal =
      (if e.2.status = some 429 then e.1.subject settings else none).toList := by
  obtain ⟨event, outcome⟩ := e
  cases event with
  | tool c =>
      obtain ⟨v, rfl⟩ := h
      rfl
  | logsContainer c seconds =>
      obtain ⟨v, rfl⟩ := h
      rfl
  | http a =>
      unfold Event.subject Arrival.subject
      dsimp only
      -- only a caller over the limit leaves such a line
      rcases h.http_cases with ⟨hs, ho, hl⟩ | ⟨msg, hs, ho, hl⟩ | ⟨subject, hs, ⟨ho, hl⟩ | ⟨ho, hl⟩⟩ <;>
        (rw [hl, hs, ho]; rfl)

/-- A latency is observed for every guarded function that was entered. -/
theorem latency_lines (tool : String) (h : Answered settings e) :
    ((lines settings e).filterMap (AuditLine.latencyOf tool)).length = e.1.entered.count tool := by
  obtain ⟨event, outcome⟩ := e
  cases event with
  | tool c =>
      show ([c.line].filterMap _).length = [c.tool.name].count tool
      by_cases hname : c.tool.name = tool
      · simp [AuditLine.latencyOf, GuardedCall.line, hname]
      · simp [AuditLine.latencyOf, GuardedCall.line, hname]
  -- this tool calls another one, so it leaves two lines, under two names
  | logsContainer c seconds =>
      show (List.filterMap _ [c.line, _]).length = [c.tool.name, "logs_container"].count tool
      by_cases hname : c.tool.name = tool <;> by_cases hcontainer : "logs_container" = tool <;>
        simp [AuditLine.latencyOf, GuardedCall.line, hname, hcontainer]
  | http a =>
      rcases h.http_cases with ⟨-, -, hl⟩ | ⟨msg, -, -, hl⟩ | ⟨subject, -, ⟨-, hl⟩ | ⟨-, hl⟩⟩ <;>
        (rw [hl]; rfl)

end

/-- The outcomes under which a request is refused. -/
def refusals : Finset String := {"missing_token", "rejected", "error"}

/-- A refused request is recorded under one of the three. -/
theorem refusedAs_mem {a : Arrival} {msg : String} (h : standing settings a = .refused msg) :
    refusedAs settings a ∈ refusals := by
  unfold standing at h
  unfold refusedAs
  split at h
  · cases h
  · split
    · decide
    · next hbearer =>
      rw [if_neg hbearer] at h
      -- a token was presented, so it was refused with an exception
      cases hverify : verifyBearerToken a.jwt
          (String.ofList (Py.strip (latin1 (a.scope.authorization.drop 7)))) settings with
      | ok _    => rw [hverify] at h; cases h
      | error e =>
        show rejectedAs e ∈ refusals
        unfold rejectedAs
        split <;> decide

/-- An event is recorded as refused iff it is answered with a 401. -/
theorem refused_iff {e : Event × Outcome} (h : Answered settings e) :
    (∃ o ∈ e.1.authOutcome settings, o ∈ refusals) ↔ e.2.status = some 401 := by
  obtain ⟨event, outcome⟩ := e
  cases event with
  | tool c =>
      obtain ⟨v, rfl⟩ := h
      simp [Event.authOutcome, Outcome.status]
  | logsContainer c seconds =>
      obtain ⟨v, rfl⟩ := h
      simp [Event.authOutcome, Outcome.status]
  | http a =>  -- only a request is authenticated
      unfold Event.authOutcome
      dsimp only
      rcases h.http_cases with ⟨hs, ho, -⟩ | ⟨msg, hs, ho, -⟩ | ⟨subject, hs, ⟨ho, -⟩ | ⟨ho, -⟩⟩
      · simp [hs, ho]
      · simp [hs, ho, refusedAs_mem hs]
      · simp [hs, ho, refusals]
      · simp [hs, ho, refusals]

/-- It is recorded as accepted iff its token verifies. -/
theorem caller_iff {e : Event × Outcome} (h : Answered settings e) :
    (∃ o ∈ e.1.authOutcome settings, o = "ok") ↔ (e.1.subject settings).isSome := by
  obtain ⟨event, outcome⟩ := e
  cases event with
  | tool c => simp [Event.authOutcome, Event.subject]
  | logsContainer c seconds => simp [Event.authOutcome, Event.subject]
  | http a =>
      unfold Event.authOutcome Event.subject Arrival.subject
      dsimp only
      rcases h.http_cases with ⟨hs, -, -⟩ | ⟨msg, hs, -, -⟩ | ⟨subject, hs, -⟩
      · simp [hs]
      · -- a refusal is never recorded as `ok`
        have hne : refusedAs settings a ≠ "ok" := by
          intro heq
          have hmem := refusedAs_mem hs
          rw [heq] at hmem
          exact absurd hmem (by decide)
        simp [hs, hne]
      · simp [hs]

section

variable (settings : Settings) (events : List Event)

/-- The log of a run is that of its events, one after the other, and the metrics say what it says.
-/
theorem audit_books :
    (books settings events).audit = (history settings events).flatMap (lines settings) :=
  (kept_run settings events).audit

theorem booked_books : (books settings events).Booked := (kept_run settings events).booked

/-- What is read off the log is read off the events, one by one. -/
theorem filterMap_books {β : Type} (f : AuditLine → Option β) (g : Event × Outcome → List β)
    (h : ∀ e, Answered settings e → (lines settings e).filterMap f = g e) :
    (books settings events).audit.filterMap f = (history settings events).flatMap g := by
  rw [audit_books, List.filterMap_flatMap]
  exact List.flatMap_congr fun e he => h e (answered_run settings events e he)

/-- The outcomes of the log are the outcomes of the events. -/
theorem authTotal_books (chosen : Finset String) :
    ∑ o ∈ chosen, (books settings events).authTotal o =
      (history settings events).countP fun e => ∃ o ∈ e.1.authOutcome settings, o ∈ chosen := by
  rw [(booked_books settings events).authTotal, Tally.sum_bump,
    filterMap_books settings events _ _ fun e => authOutcome_lines,
    ← List.filterMap_eq_flatMap_toList, List.countP_filterMap]
  apply List.countP_congr
  intro e he
  cases e.1.authOutcome settings <;> simp

/-- **The books balance.** Whatever requests arrive and whatever tools run, in any order: the counters of
the three ways to be refused add up to the 401 answers, the counter of accepted tokens to the requests of
callers, the counter of a principal to the 429 answers to it; and for each tool the counters over all
clusters and outcomes add up to how often the guarded function was entered, as its latencies do. -/
theorem books_balance :
    (∑ o ∈ refusals, (books settings events).authTotal o =
        (history settings events).countP fun e => e.2.status = some 401) ∧
      ((books settings events).authTotal "ok" =
        (history settings events).countP fun e => (e.1.subject settings).isSome) ∧
      (∀ p, (books settings events).limited p =
        (history settings events).countP fun e =>
          e.1.subject settings = some p ∧ e.2.status = some 429) ∧
      ∀ tool,
        (∑ l ∈ (books settings events).usedLabels with l.1 = tool,
            (books settings events).toolCalls l) = (events.flatMap Event.entered).count tool ∧
          ((books settings events).toolLatency tool).length =
            (events.flatMap Event.entered).count tool := by
  -- one latency is recorded for each tool that was entered, event by event
  have hlatency : ∀ tool, ((books settings events).toolLatency tool).length =
      (events.flatMap Event.entered).count tool := by
    intro tool
    have hevents : events.flatMap Event.entered =
        (history settings events).flatMap fun e => e.1.entered := by
      have hfst : (history settings events).map Prod.fst = events := Machine.map_fst_trace ..
      calc events.flatMap Event.entered
          = ((history settings events).map Prod.fst).flatMap Event.entered := by rw [hfst]
        _ = (history settings events).flatMap fun e => e.1.entered := List.flatMap_map ..
    rw [(booked_books settings events).toolLatency, audit_books, List.filterMap_flatMap,
      List.length_flatMap, hevents, List.count_flatMap]
    congr 1
    apply List.map_congr_left
    intro e he
    exact latency_lines tool (answered_run settings events e he)
  refine ⟨?_, ?_, ?_, fun tool => ⟨?_, hlatency tool⟩⟩
  · -- the refusals, over all outcomes that are one
    rw [authTotal_books]
    apply List.countP_congr
    intro e he
    simpa using refused_iff (answered_run settings events e he)
  · -- the callers
    have hok := authTotal_books settings events {"ok"}
    rw [Finset.sum_singleton] at hok
    rw [hok]
    apply List.countP_congr
    intro e he
    simpa using caller_iff (answered_run settings events e he)
  · -- those over the limit, for each of them
    intro p
    rw [(booked_books settings events).limited, Tally.bump_apply, Tally.zero_apply, zero_add,
      filterMap_books settings events _ _ fun e => limited_lines,
      ← List.filterMap_eq_flatMap_toList, List.count, List.countP_filterMap]
    apply List.countP_congr
    intro e he
    by_cases hstatus : e.2.status = some 429
    · cases e.1.subject settings <;> simp [hstatus]
    · simp [hstatus]
  · -- each call is recorded under one label of its tool
    rw [(booked_books settings events).sum_toolCalls]
    exact hlatency tool

end

end SreAgent.Gateway
