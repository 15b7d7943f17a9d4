import SreAgent.Rca.Detectors

/-!
# A healthy workload

What the detectors say about a workload that is fine now. Ten of the fifteen are silent whatever it
has been through. The other five speak of the past or of the logs alone: a Job with a failed attempt,
an old restart beside a liveness probe, a phrase about certificates or name resolution in any line,
and the two events that are looked for by their reason only (`quiet_iff`).

Such a workload is to be left alone. The detectors are taken one at a time: either
healthy objects rule its signature out, or it looks at something that health says nothing about, and
then it is said at what.
-/

namespace SreAgent.Rca

/-- Everything the cluster says of the workload now is good. -/
structure Healthy (ctx : Context) : Prop where
  pods            : ∀ p ∈ ctx.pods, p.phase = some "Running" ∧ Py.truthy p.reason = false
  containers      : ∀ c ∈ ctx.describe.containers,
    c.ready = some true ∧ Py.truthy c.waitingReason = false ∧ c.restartCount < 3
  initContainers  : ∀ c ∈ ctx.describe.initContainers, isCrashReason c.waitingReason = false ∧
    ¬ (Py.truthy c.lastTerminatedReason = true ∧ ∃ code ∈ c.lastExitCode, code ≠ 0)
  podInits        : ∀ p ∈ ctx.pods, p.initFailing = false
  podMemory       : ∀ p ∈ ctx.pods, p.lastTerminated ≠ some "OOMKilled"
  containerMemory : ∀ c ∈ ctx.describe.containers, c.lastTerminatedReason ≠ some "OOMKilled"
  events          : ∀ e ∈ ctx.events, e.type ≠ some "Warning"
  nodes           : ∀ n ∈ ctx.nodes, n.ready = some "True" ∧ n.diskPressure ≠ some "True" ∧
    n.memoryPressure ≠ some "True" ∧ n.pidPressure ≠ some "True"
  hpas            : ∀ h ∈ ctx.hpas, ∀ c ∈ h.conditions, c.status ≠ "False"
  pdbs            : ∀ p ∈ ctx.pdbs, 1 ≤ p.disruptionsAllowed
  job             : ∀ j ∈ ctx.job, ∃ c ∈ j.conditions, c.type = "Complete"

variable {ctx : Context}

/-! ## The detectors that look at the present

For each of them the signature is something that no healthy object shows: a waiting reason, a
failing init container, an eviction, a condition that is false, a node under pressure. -/

theorem nonEmpty_eq_none {s : Option String} (h : Py.truthy s = false) : nonEmpty s = none := by
  cases s with
  | none => rfl
  | some s =>
      have hempty : s = "" := by simpa using h
      rw [hempty]
      rfl

theorem Healthy.waitingReasons (h : Healthy ctx) : waitingReasons ctx = [] := by
  unfold Rca.waitingReasons
  rw [List.append_eq_nil_iff, List.filterMap_eq_nil_iff, List.filterMap_eq_nil_iff]
  constructor
  · intro c hc
    exact nonEmpty_eq_none (h.containers c hc).2.1
  · intro p hp
    exact nonEmpty_eq_none (h.pods p hp).2

theorem Healthy.hits (h : Healthy ctx) (wanted : List String) : hits ctx wanted = [] := by
  unfold Rca.hits
  rw [h.waitingReasons]
  simp

theorem Healthy.crashloop (h : Healthy ctx) : crashloopDbConnection ctx = none := by
  -- nobody waits for a crash loop, and no container restarts often
  have hcalm : isCrashlooping ctx = false := by
    unfold isCrashlooping
    rw [h.waitingReasons, List.contains_nil, Bool.false_or, List.any_eq_false]
    intro c hc
    have := (h.containers c hc).2.2
    simp
    omega
  rw [← Option.not_isSome_iff_eq_none, crashloopDbConnection_isSome, hcalm]
  exact Bool.false_ne_true

theorem Healthy.imagePull (h : Healthy ctx) : imagePull ctx = none := by
  unfold Rca.imagePull
  rw [h.hits]

theorem Healthy.containerConfigError (h : Healthy ctx) : containerConfigError ctx = none := by
  unfold Rca.containerConfigError
  rw [h.hits]

theorem Healthy.oomKilled (h : Healthy ctx) : oomKilled ctx = none := by
  have hnever : some "OOMKilled" ∉ ctx.describe.containers.map ContainerInfo.lastTerminatedReason ++
      ctx.pods.map PodInfo.lastTerminated := by
    intro hmem
    -- a container of the description, or the summary of a pod
    rcases List.mem_append.mp hmem with hmem | hmem
    · obtain ⟨c, hc, heq⟩ := List.mem_map.mp hmem
      exact h.containerMemory c hc heq
    · obtain ⟨p, hp, heq⟩ := List.mem_map.mp hmem
      exact h.podMemory p hp heq
  unfold Rca.oomKilled
  dsimp only
  rw [if_pos]
  simpa using hnever

theorem Healthy.initFailing (h : Healthy ctx) : ctx.pods.any PodInfo.initFailing = false := by
  rw [List.any_eq_false]
  intro p hp
  simp [h.podInits p hp]

theorem Healthy.initContainerFailure (h : Healthy ctx) : initContainerFailure ctx = none := by
  -- no init container waits after a crash or ended with another code than 0
  have hnone : (ctx.describe.initContainers.find? fun c => isCrashReason c.waitingReason ||
      (Py.truthy c.lastTerminatedReason && c.lastExitCode.any (· != 0))) = none := by
    rw [List.find?_eq_none]
    intro c hc hfailing
    obtain ⟨hwaiting, hterminated⟩ := h.initContainers c hc
    rw [hwaiting, Bool.false_or, Bool.and_eq_true] at hfailing
    apply hterminated
    refine ⟨hfailing.1, ?_⟩
    simpa [Option.any_eq_true] using hfailing.2
  unfold Rca.initContainerFailure
  dsimp only
  rw [hnone, h.initFailing]
  rfl

theorem Healthy.storageEviction (h : Healthy ctx) : storageEviction ctx = none := by
  have hnone : ctx.pods.filter (fun p => p.reason == some "Evicted") = [] := by
    rw [List.filter_eq_nil_iff]
    intro p hp hevicted
    have hreason := (h.pods p hp).2
    rw [beq_iff_eq.mp hevicted] at hreason
    simp at hreason
  unfold Rca.storageEviction
  dsimp only
  rw [hnone]

theorem Healthy.hpaCannotScale (h : Healthy ctx) : hpaCannotScale ctx = none := by
  unfold Rca.hpaCannotScale
  rw [List.findSome?_eq_none_iff]
  intro a ha
  rw [Option.map_eq_none_iff, HpaInfo.bad, List.find?_eq_none]
  intro c hc
  simp [h.hpas a ha c hc]

theorem Healthy.pdbBlocking (h : Healthy ctx) : pdbBlocking ctx = none := by
  unfold Rca.pdbBlocking
  rw [Option.map_eq_none_iff, List.find?_eq_none]
  intro p hp
  have := h.pdbs p hp
  simp
  omega

theorem Healthy.nodePressure (h : Healthy ctx) : nodePressure ctx = none := by
  unfold Rca.nodePressure
  rw [Option.map_eq_none_iff, List.find?_eq_none]
  intro n hn
  obtain ⟨hready, hdisk, hmemory, hpid⟩ := h.nodes n hn
  simp [NodeInfo.bad, NodeInfo.pressures, hready, hdisk, hmemory, hpid]

theorem Healthy.istioSidecarNotReady (h : Healthy ctx) : istioSidecarNotReady ctx = none := by
  unfold Rca.istioSidecarNotReady
  split
  · rfl
  · next proxy hfind =>
    rw [if_pos (h.containers proxy (List.mem_of_find?_eq_some hfind)).1]

/-! ## The detectors that look at the past

These are silent under a condition of their own, and where they are not they are confident. Both
halves are needed, since a report of low confidence would not count. -/

/-- The detector is silent exactly if `quiet` holds, and is confident otherwise. -/
def Speaks (d : Context → Option Hypothesis) (ctx : Context) (quiet : Prop) : Prop :=
  (d ctx = none ↔ quiet) ∧ ∀ h, d ctx = some h → 50 ≤ h.confidence

/-- No attempt of the Job failed. -/
def NoFailedAttempt (ctx : Context) : Prop :=
  ∀ j ∈ ctx.job, j.failed = 0 ∧ ∀ c ∈ j.conditions, c.type ≠ "Failed"

/-- A Job is reported for one failed attempt, even if it completed afterwards. -/
theorem jobFailure_speaks (ctx : Context) : Speaks jobFailure ctx (NoFailedAttempt ctx) := by
  unfold Speaks NoFailedAttempt jobFailure
  cases ctx.job with
  | none => simp
  | some job =>
      -- no condition says that the job has failed
      have hcond : (job.conditions.find? fun c => c.type == "Failed").isNone = true ↔
          ∀ c ∈ job.conditions, c.type ≠ "Failed" := by
        rw [Option.isNone_iff_eq_none, List.find?_eq_none]
        simp
      dsimp only
      constructor
      · constructor
        · intro hnone
          split at hnone
          · next hquiet =>
            intro j hj
            rw [← Option.some.inj hj]
            exact ⟨hquiet.1, hcond.mp hquiet.2⟩
          · split at hnone <;> cases hnone
        · intro hquiet
          obtain ⟨hfailed, hconditions⟩ := hquiet job rfl
          exact if_pos ⟨hfailed, hcond.mpr hconditions⟩
      · intro h hd
        split at hd
        · cases hd
        split at hd
        · obtain rfl := Option.some.inj hd
          simp
        · obtain rfl := Option.some.inj hd
          simp

/-- No container with a liveness probe restarted without an error in the logs. -/
def NoQuietRestart (ctx : Context) : Prop :=
  (∃ c ∈ ctx.describe.containers, c.liveness = true) →
    (∃ p ∈ ctx.pods, p.reason = some "CrashLoopBackOff" ∨ Py.truthy p.lastTerminated = true) →
    Py.containsAny (allLogs ctx) appErrorSignals = true

/-- A probe is blamed for an old event, or for an old restart that left no error in the logs. -/
theorem probeFailure_speaks (ctx : Context) :
    Speaks probeFailure ctx
      ((∀ e ∈ ctx.events, e.reason ≠ some "Unhealthy") ∧ NoQuietRestart ctx) := by
  unfold Speaks NoQuietRestart
  -- an event says that a probe failed, or it is inferred from a restart
  by_cases hquiet : ∀ e ∈ ctx.events, e.reason ≠ some "Unhealthy"
  · rw [probeFailure_of_quiet hquiet, and_iff_right hquiet]
    constructor
    · simp only [ite_eq_right_iff, reduceCtorEq, imp_false, Bool.and_eq_true, List.any_eq_true,
        Bool.or_eq_true, beq_iff_eq, Bool.not_eq_true', not_and, Bool.not_eq_false, and_imp]
    · intro h hd
      split at hd
      · obtain rfl := Option.some.inj hd
        simp [inferredProbeFailure]
      · cases hd
  · obtain ⟨hyp, hfires, hconf, -⟩ := probeFailure_of_event hquiet
    rw [hfires]
    constructor
    · exact iff_of_false (Option.some_ne_none hyp) fun hboth => hquiet hboth.1
    · intro h hd
      rw [← Option.some.inj hd, hconf]
      omega

/-- With all pods running, what is left is an event about scheduling. -/
theorem Healthy.pendingUnschedulable_speaks (h : Healthy ctx) :
    Speaks pendingUnschedulable ctx (∀ e ∈ ctx.events, e.reason ≠ some "FailedScheduling") := by
  -- no pod is pending, so only an event makes the detector speak
  have hpending : ∀ p ∈ ctx.pods, p.phase ≠ some "Pending" := by
    intro p hp
    simp [(h.pods p hp).1]
  constructor
  · rw [pendingUnschedulable_eq_none]
    exact and_iff_left (.inr hpending)
  · intro hyp hd
    rw [pendingUnschedulable_confidence hd]
    omega

/-- The certificate detector looks at the logs alone, and so does the one for DNS. -/
theorem tlsCertificate_speaks (ctx : Context) :
    Speaks tlsCertificate ctx (Py.containsAny (allLogs ctx) tlsSignals = false) := by
  unfold Speaks tlsCertificate
  constructor
  · simp
  · intro h hd
    split at hd
    · cases hd
    · obtain rfl := Option.some.inj hd
      simp

theorem dnsFailure_speaks (ctx : Context) :
    Speaks dnsFailure ctx (Py.containsAny (allLogs ctx) (dnsStrong ++ dnsWeak) = false) := by
  unfold Speaks dnsFailure
  dsimp only
  constructor
  · simp
  · intro h hd
    split at hd
    · cases hd
    · obtain rfl := Option.some.inj hd
      dsimp only
      split <;> omega

/-! ## All of them

The conditions are put together. Ten of them are met by health, and the other five are the fields of
`Inconspicuous`. -/

/-- Nothing in the past or in the logs is taken for a signature. -/
structure Inconspicuous (ctx : Context) : Prop where
  job        : NoFailedAttempt ctx
  unhealthy  : ∀ e ∈ ctx.events, e.reason ≠ some "Unhealthy"
  restarts   : NoQuietRestart ctx
  scheduling : ∀ e ∈ ctx.events, e.reason ≠ some "FailedScheduling"
  tls        : Py.containsAny (allLogs ctx) tlsSignals = false
  dns        : Py.containsAny (allLogs ctx) (dnsStrong ++ dnsWeak) = false

/-- **What is held against a healthy workload**: it is reported with some confidence exactly if a
Job once failed, an Unhealthy or a FailedScheduling event is kept, a probed container restarted
without an error in its logs, or a line speaks of certificates or name resolution. -/
theorem quiet_iff (h : Healthy ctx) :
    (∀ hyp ∈ evaluate ctx, hyp.confidence < 50) ↔ Inconspicuous ctx := by
  obtain ⟨hjob, hjobs⟩ := jobFailure_speaks ctx
  obtain ⟨hprobe, hprobes⟩ := probeFailure_speaks ctx
  obtain ⟨hpending, hpendings⟩ := h.pendingUnschedulable_speaks
  obtain ⟨htls, htlss⟩ := tlsCertificate_speaks ctx
  obtain ⟨hdns, hdnss⟩ := dnsFailure_speaks ctx
  -- the five conditions are those under which the five detectors are silent
  have hnone : Inconspicuous ctx ↔ jobFailure ctx = none ∧ probeFailure ctx = none ∧
      pendingUnschedulable ctx = none ∧ tlsCertificate ctx = none ∧ dnsFailure ctx = none := by
    rw [hjob, hprobe, hpending, htls, hdns]
    constructor
    · intro hq
      exact ⟨hq.job, ⟨hq.unhealthy, hq.restarts⟩, hq.scheduling, hq.tls, hq.dns⟩
    · rintro ⟨hj, ⟨hu, hr⟩, hs, ht, hd⟩
      exact ⟨hj, hu, hr, hs, ht, hd⟩
  rw [hnone]
  constructor
  · intro hlow
    have silent : ∀ d ∈ allDetectors, (∀ hyp, d ctx = some hyp → 50 ≤ hyp.confidence) →
        d ctx = none := by
      intro d hd hconfident
      cases hfire : d ctx with
      | none => rfl
      | some hyp =>
          have hle := hconfident hyp hfire
          have hlt := hlow hyp (mem_evaluate.mpr ⟨d, hd, hfire⟩)
          omega
    exact ⟨silent _ (by simp [allDetectors]) hjobs, silent _ (by simp [allDetectors]) hprobes,
      silent _ (by simp [allDetectors]) hpendings, silent _ (by simp [allDetectors]) htlss,
      silent _ (by simp [allDetectors]) hdnss⟩
  · rintro ⟨hj, hp, hs, ht, hd⟩ hyp hhyp
    obtain ⟨d, hmem, hfire⟩ := mem_evaluate.mp hhyp
    have hall : ∀ d ∈ allDetectors, d ctx = none := by
      simp only [allDetectors, List.forall_mem_cons]
      exact ⟨h.crashloop, h.imagePull, h.containerConfigError, h.oomKilled, h.initContainerFailure,
        hj, hp, hs, h.storageEviction, h.hpaCannotScale, h.pdbBlocking, h.nodePressure,
        h.istioSidecarNotReady, ht, hd, by simp⟩
    rw [hall d hmem] at hfire
    cases hfire

/-- A pod with a liveness probe that restarted once and has been serving since. -/
def recovered : Context where
  resolved := true
  pods := [{ name := "web-1", phase := some "Running", lastTerminated := some "Error" }]
  describe :=
    { containers :=
        [{ name := "app"
           lastTerminatedReason := some "Error"
           lastExitCode := some 137
           liveness := true
           restartCount := 1
           ready := some true }] }
  logs := ["10.0.0.1 - - [GET /healthz HTTP/1.1] 200"]

/-- It is healthy by every measure, so the condition applies to it. -/
theorem recovered_healthy : Healthy recovered := by
  constructor <;> simp [recovered, PodInfo.initFailing, isCrashReason]

theorem quiet_iff_recovered :
    (∀ hyp ∈ evaluate recovered, hyp.confidence < 50) ↔ Inconspicuous recovered :=
  quiet_iff recovered_healthy

/-- **One restart long ago** is reported as a failing liveness probe. -/
theorem recovered_reported :
    Healthy recovered ∧ ∃ hyp ∈ evaluate recovered, 50 ≤ hyp.confidence := by
  refine ⟨recovered_healthy, inferredProbeFailure, mem_evaluate.mpr ⟨probeFailure, ?_, ?_⟩, ?_⟩
  · simp [allDetectors]
  · decide +kernel
  · decide

end SreAgent.Rca
