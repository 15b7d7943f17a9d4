import Mathlib.Data.Rat.Defs
import SreAgent.Lib.Tally
import SreAgent.Resilience

/-!
# The agent observing itself

`observability.py`: the audit log and the Prometheus metrics, and the half of `tool_guard` that writes
both. A counter and a latency histogram are what `prometheus_client` documents them to be: the one goes
up by one, the other keeps what it observed. Without the library the metrics stay as they are and the
log is written all the same. `Booked` says that the metrics are what the log says.

The three functions do the same thing with different labels, and `enter` is that thing: a line goes
to the log, and each metric takes from the line what concerns it. One lemma for each function says
that it is `enter` with its own line; the invariant is then proved once, of `enter`.
-/

namespace SreAgent

open Py (Json)

/-- A line of the audit log, with its `extra` fields. -/
inductive AuditLine where
  | toolCall (tool cluster outcome : String) (seconds : ℚ)
  | auth (outcome subject : String)
  | rateLimited (principal : String)
  deriving DecidableEq

/-- The metrics of a process and its audit log. -/
structure Observability where
  enabled     : Bool                                     -- `_ENABLED`
  toolCalls   : Tally (String × String × String) := Tally.zero
  toolLatency : String → List ℚ := fun _ => []
  authTotal   : Tally String := Tally.zero
  limited     : Tally String := Tally.zero
  audit       : List AuditLine := []

namespace Observability

/-- `record_tool`: the counter and the histogram if there is a metrics library, and the log line in
any case. -/
def recordTool (self : Observability) (tool cluster outcome : String) (seconds : ℚ) :
    Observability :=
  let counted := if self.enabled then
      { self with
        toolCalls := self.toolCalls.inc (tool, cluster, outcome)
        toolLatency := Function.update self.toolLatency tool (self.toolLatency tool ++ [seconds]) }
    else self
  { counted with audit := self.audit ++ [.toolCall tool cluster outcome seconds] }

def recordAuth (self : Observability) (outcome : String) (subject : String := "") :
    Observability :=
  let counted := if self.enabled then { self with authTotal := self.authTotal.inc outcome } else self
  { counted with audit := self.audit ++ [.auth outcome subject] }

def recordRatelimited (self : Observability) (principal : String) : Observability :=
  let counted := if self.enabled then { self with limited := self.limited.inc principal } else self
  { counted with audit := self.audit ++ [.rateLimited principal] }

end Observability

/-! ## What the log says

Each metric is a fold over the log. `toolLabels`, `latencyOf`, `authOutcome` and `limitedPrincipal`
read one line for one metric, and `Booked` compares the metric with the fold. -/

/-- The labels of the tool counter a line stands for. -/
def AuditLine.toolLabels : AuditLine → Option (String × String × String)
  | .toolCall tool cluster outcome _ => some (tool, cluster, outcome)
  | _                                => none

/-- The latency of one tool a line stands for. -/
def AuditLine.latencyOf (tool : String) : AuditLine → Option ℚ
  | .toolCall tool' _ _ seconds => if tool' = tool then some seconds else none
  | _                           => none

def AuditLine.authOutcome : AuditLine → Option String
  | .auth outcome _ => some outcome
  | _               => none

def AuditLine.limitedPrincipal : AuditLine → Option String
  | .rateLimited principal => some principal
  | _                      => none

namespace Observability

/-- The metrics are what the log says. -/
structure Booked (obs : Observability) : Prop where
  toolCalls   : obs.toolCalls = Tally.zero.bump (obs.audit.filterMap AuditLine.toolLabels)
  toolLatency : ∀ tool, obs.toolLatency tool = obs.audit.filterMap (AuditLine.latencyOf tool)
  authTotal   : obs.authTotal = Tally.zero.bump (obs.audit.filterMap AuditLine.authOutcome)
  limited     : obs.limited = Tally.zero.bump (obs.audit.filterMap AuditLine.limitedPrincipal)

/-- What each of the three functions does to the metrics and the log, by the line it writes. -/
def enter (self : Observability) (line : AuditLine) : Observability where
  enabled := self.enabled
  toolCalls := self.toolCalls.note line.toolLabels
  toolLatency tool := self.toolLatency tool ++ (line.latencyOf tool).toList
  authTotal := self.authTotal.note line.authOutcome
  limited := self.limited.note line.limitedPrincipal
  audit := self.audit ++ [line]

variable {self : Observability}

/-- With metrics on, `record_tool` enters a line for the call; off, it only writes the line. -/
theorem recordTool_eq (hon : self.enabled = true) (tool cluster outcome : String) (seconds : ℚ) :
    self.recordTool tool cluster outcome seconds =
      self.enter (.toolCall tool cluster outcome seconds) := by
  have hlatency : Function.update self.toolLatency tool (self.toolLatency tool ++ [seconds]) =
      fun tool' => self.toolLatency tool' ++
        ((AuditLine.toolCall tool cluster outcome seconds).latencyOf tool').toList := by
    funext tool'
    rcases eq_or_ne tool' tool with rfl | hne
    · simp [AuditLine.latencyOf]
    · simp [AuditLine.latencyOf, hne, hne.symm]
  unfold recordTool enter
  rw [if_pos hon, hlatency]
  rfl

/-- `record_auth` enters a line for the attempt, by its outcome. -/
theorem recordAuth_eq (hon : self.enabled = true) (outcome subject : String) :
    self.recordAuth outcome subject = self.enter (.auth outcome subject) := by
  unfold recordAuth enter
  rw [if_pos hon]
  simp [AuditLine.latencyOf, AuditLine.toolLabels, AuditLine.limitedPrincipal,
    AuditLine.authOutcome, Tally.note]

/-- `record_ratelimited` enters a line for the principal that was turned away. -/
theorem recordRatelimited_eq (hon : self.enabled = true) (principal : String) :
    self.recordRatelimited principal = self.enter (.rateLimited principal) := by
  unfold recordRatelimited enter
  rw [if_pos hon]
  simp [AuditLine.latencyOf, AuditLine.toolLabels, AuditLine.limitedPrincipal,
    AuditLine.authOutcome, Tally.note]

@[simp] theorem enter_enabled (line : AuditLine) : (self.enter line).enabled = self.enabled := rfl

/-- A process starts with empty metrics and an empty log, which say the same. -/
theorem Booked.start : Booked { enabled := true } := ⟨rfl, fun _ => rfl, rfl, rfl⟩

/-- **Whatever is recorded, the metrics go on saying what the log says.** -/
theorem Booked.enter (h : self.Booked) (line : AuditLine) : (self.enter line).Booked where
  toolCalls := by
    show self.toolCalls.note _ = Tally.zero.bump (List.filterMap _ (self.audit ++ [line]))
    rw [Tally.bump_filterMap_concat, ← h.toolCalls]
  toolLatency tool := by
    show self.toolLatency tool ++ _ = List.filterMap _ (self.audit ++ [line])
    rw [List.filterMap_append, ← h.toolLatency tool, List.filterMap_cons]
    cases line.latencyOf tool <;> rfl
  authTotal := by
    show self.authTotal.note _ = Tally.zero.bump (List.filterMap _ (self.audit ++ [line]))
    rw [Tally.bump_filterMap_concat, ← h.authTotal]
  limited := by
    show self.limited.note _ = Tally.zero.bump (List.filterMap _ (self.audit ++ [line]))
    rw [Tally.bump_filterMap_concat, ← h.limited]

/-- The labels of the tool counter that have been used. -/
def usedLabels (self : Observability) : Finset (String × String × String) :=
  (self.audit.filterMap AuditLine.toolLabels).toFinset

/-- **The calls of a tool**, over all clusters and outcomes, are as many as its latencies. -/
theorem Booked.sum_toolCalls (h : self.Booked) (tool : String) :
    ∑ l ∈ self.usedLabels with l.1 = tool, self.toolCalls l = (self.toolLatency tool).length := by
  -- over the log, not over the metrics: a line counts for the tool it names and for no other
  have hlines : ∀ entered : List AuditLine,
      (entered.filterMap AuditLine.toolLabels).countP (fun l => l.1 = tool) =
        (entered.filterMap (AuditLine.latencyOf tool)).length := by
    intro entered
    induction entered with
    | nil => rfl
    | cons line entered ih =>
        cases line with
        | auth outcome subject => exact ih
        | rateLimited principal => exact ih
        | toolCall tool' cluster outcome seconds =>
            by_cases hname : tool' = tool
            · simpa [AuditLine.toolLabels, AuditLine.latencyOf, hname] using ih
            · simpa [AuditLine.toolLabels, AuditLine.latencyOf, hname] using ih
  rw [h.toolCalls, Tally.sum_bump, h.toolLatency, ← hlines]
  apply List.countP_congr
  intro l hl
  simp [usedLabels, List.mem_toFinset.mpr hl]

end Observability

end SreAgent
