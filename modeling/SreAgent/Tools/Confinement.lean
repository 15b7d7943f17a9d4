import SreAgent.Tools.Namespaced

/-!
# Namespace confinement

A cluster lists the namespaces its tenant may look at. Whatever is answered, a tool asks for nothing
that is not in the namespace it was given, and asks for nothing at all if that is not on the list:
`sealed_confined`, for every tool. The four metric tools are the exception: `guard_namespace` looks at the
namespace, but the pod is written into the PromQL text as it stands, and a pod that ends its string
literal adds what selectors it likes (`memory_reads_everywhere`).

The guard is a call at the top of a tool's body. That it comes first, and that everything after it
is about the namespace it was given, is what has to be read off each tool. The statements are about
the questions a run asked and what it ended with, so a tool that asks first and refuses later is not
confined.
-/

namespace SreAgent.Tools

open Interaction (Prog)
open PromQL (Body ClosesEarly)

variable {site : Site} {cluster : Option String} {cfg : ClusterConfig} {ns : String}

/-- How a tool ends that may only look at the namespaces of the list: refused without a question, or
with every question kept within one of the allowed namespaces. -/
def Confined (cfg : ClusterConfig) (ns : String) (run : List Upstream × Except Exc Unit) : Prop :=
  (run.1 = [] ∧ ∃ msg, run.2 = .error (.tenantIsolationError msg)) ∨
    ns ∈ cfg.allowedNamespaces ∧ ∀ q ∈ run.1, Within ns q

/-! ## The metric tools

Four tools differ by a template only. What they ask for is a text, and whether it stays within the
namespace is a matter of how Prometheus reads it (`SreAgent.Tools.Metrics`). -/

/-- The template, the pod and the range of a metric tool. -/
def ToolCall.metric? : ToolCall → Option (Template × String × String)
  | .metricCpu pod range     => some (cpuTemplate, pod, range)
  | .metricMemory pod range  => some (memoryTemplate, pod, range)
  | .metricNetwork pod range => some (networkTemplate, pod, range)
  | .metricRestarts range    => some (restartsTemplate, "", range)
  | _                        => none

/-- A metric tool, by what makes it one. -/
theorem ToolCall.metric_cases {call : ToolCall} {t : Template} {pod range : String}
    (h : call.metric? = some (t, pod, range)) : Nonempty t.Lexed ∧
      call.program site ns cluster = discard (metric t site ns pod cluster range) := by
  cases call with
  | metricCpu pod' range' =>  -- the four tools that splice their arguments into a query
      cases h
      exact ⟨⟨cpuLexed⟩, rfl⟩
  | metricMemory pod' range' =>
      cases h
      exact ⟨⟨memoryLexed⟩, rfl⟩
  | metricNetwork pod' range' =>
      cases h
      exact ⟨⟨networkLexed⟩, rfl⟩
  | metricRestarts range' =>
      cases h
      exact ⟨⟨restartsLexed⟩, rfl⟩
  | _ => cases h

/-- A query asks for its text, and for nothing else. -/
theorem query_within {promql range : String} (h : Scoped ns promql) :
    (query site cluster promql range).All (Within ns) := by
  apply Prog.All.bind (Prog.All.lift _)
  intro cfg
  apply Prog.All.lift_bind
  intro request hrequest
  -- the only query among the request's parameters is the one handed in
  have hwithin : Within ns (.get request) := by
    intro promql' hmem
    rw [(queryRequest_params hrequest).2 promql' hmem]
    exact h
  apply Prog.All.bind (getJson_all hwithin)
  intro data
  apply Prog.All.bind (Prog.All.lift _)
  intro data
  exact Prog.All.bind (Prog.All.lift _) fun result => Prog.All.pure _

/-- Dropping the result leaves the first question. -/
theorem discard_first {α : Type} {p : Run α} {q : Upstream} (h : p.first = some q) :
    Prog.first (discard p : Run Unit) = some q := Prog.first_bind h _

/-- A metric tool that may look at the namespace asks for its text. -/
theorem metric_first (t : Template) (pod : String) {range : String}
    (hcfg : site.registry.get cluster = .ok cfg) (hallowed : cfg.namespaceAllowed ns = true)
    (hrange : ¬ Malformed site.time range) :
    ∃ request, (metric t site ns pod cluster range).first = some (.get request) ∧
      ("query", t.promql ns pod) ∈ request.params := by
  have hguard := guardNamespace_done hcfg hallowed
  cases hrequest : queryRequest site.time
      (String.ofList (Py.rstrip '/' (prom site.settings cfg).toList)) (t.promql ns pod) range with
  | error e => exact absurd (malformed_of_error hrequest) hrange
  | ok request =>
      refine ⟨request, ?_, (queryRequest_params hrequest).1⟩
      -- the range is parsed before anything is sent, so the query is the first request
      unfold metric query
      rw [hguard, hcfg]
      show (Prog.lift (queryRequest _ _ _ _) >>= _ : Run QueryResult).first = _
      rw [hrequest]
      rfl

/-- A metric tool of which the strings are inside of their literals stays within the namespace. -/
theorem metric_within {t : Template} {pod range : String} (lexed : t.Lexed)
    (h : Malformed site.time range ∨ InLiterals ns pod) :
    (metric t site ns pod cluster range).All (Within ns) := by
  apply Prog.All.bind (Prog.All.lift _)
  intro cfg
  rcases h with ⟨hrng, e, htimes⟩ | hin
  · apply Prog.All.lift_bind
    intro cfg' hcfg'
    apply Prog.All.lift_bind
    intro request hrequest
    rw [queryRequest, if_neg hrng, htimes] at hrequest
    cases hrequest
  · exact query_within (scoped_promql lexed hin)

/-! ## The other tools

Each names the namespace in a field of the question, so nothing has to be read off a text. -/

/-- What stays within its namespace: a call behind the guard, a list of Istio objects, which is such
a call, the log of a pod, and the mesh analysis, which makes four of them. -/
theorem guarded_within {c : KubeCall} (h : c.namespace_ = some ns) :
    (guarded site cluster ns c).All (Within ns) := by
  apply Prog.All.bind (Prog.All.lift _)
  intro cfg
  apply Prog.All.bind (clients_all fun _ => trivial)
  intro
  exact call_all (.inr h)

theorem listIstio_within (plural group : String) :
    (listIstio site cluster ns plural group).All (Within ns) :=
  Prog.All.bind (guarded_within rfl) fun _ => Prog.All.lift _

theorem logsPod_within (pod container : String) (tail : ℤ) (previous : Bool) (grep : String) :
    (logsPod site ns pod cluster container tail previous grep).All (Within ns) :=
  Prog.All.bind (guarded_within rfl) fun _ => Prog.All.pure _

theorem istioMeshAnalyze_within : (istioMeshAnalyze site ns cluster).All (Within ns) := by
  apply Prog.All.bind (listIstio_within ..)
  intro vs
  apply Prog.All.bind (listIstio_within ..)
  intro dr
  apply Prog.All.bind (listIstio_within ..)
  intro pa
  exact Prog.All.bind (listIstio_within ..) fun gw => Prog.All.pure _

/-- Whether a result is dropped changes nothing about the questions. -/
theorem discard_all {α : Type} {P : Upstream → Prop} {p : Run α} (h : p.All P) :
    Prog.All P (discard p : Run Unit) :=
  Prog.All.bind h fun _ => Prog.All.pure _

/-- Apart from the metric tools, every tool stays within its namespace. -/
theorem program_within {call : ToolCall} (h : call.metric? = none) :
    (call.program site ns cluster).All (Within ns) := by
  cases call with
  | metricCpu => cases h
  | metricMemory => cases h
  | metricNetwork => cases h
  | metricRestarts => cases h
  | logsPod | logsContainer => exact discard_all (logsPod_within ..)
  | istioGetVirtualservices | istioGetDestinationrules | istioGetGateways
  | istioGetPeerauthentications => exact discard_all (listIstio_within ..)
  | istioMeshAnalyze => exact discard_all istioMeshAnalyze_within
  | rcaDiagnose => exact discard_all (Rca.diagnoseCalls_within ..)
  | _ => exact discard_all (guarded_within rfl)

/-! ## Every tool

Sealed is a condition on the arguments. It is enough. It is also needed, unless a string escapes
from its literal: then what is asked depends on what Prometheus makes of the rest, which may by
accident be about the namespace again. -/

/-- A namespace that is not allowed ends every tool before it asks for anything. -/
theorem program_denied (hcfg : site.registry.get cluster = .ok cfg)
    (hdenied : cfg.namespaceAllowed ns = false) (call : ToolCall) :
    ∃ msg, call.program site ns cluster = .fail (.tenantIsolationError msg) := by
  obtain ⟨msg, hguard⟩ := guardNamespace_fails hcfg hdenied
  refine ⟨msg, ?_⟩
  cases call with
  | metricCpu | metricMemory | metricNetwork | metricRestarts =>
      exact Prog.bind_of_fail (Prog.bind_of_fail hguard _) _
  | logsPod | logsContainer | rcaDiagnose =>
      exact Prog.bind_of_fail (Prog.bind_of_fail (Prog.bind_of_fail hguard _) _) _
  | istioGetVirtualservices | istioGetDestinationrules | istioGetGateways
  | istioGetPeerauthentications =>
      exact Prog.bind_of_fail (Prog.bind_of_fail (Prog.bind_of_fail hguard _) _) _
  | istioMeshAnalyze =>
      -- the first of its four reads is refused
      exact Prog.bind_of_fail
        (Prog.bind_of_fail (Prog.bind_of_fail (Prog.bind_of_fail hguard _) _) _) _
  | _ => exact Prog.bind_of_fail (Prog.bind_of_fail hguard _) _

/-- Nothing but the namespace decides what a tool is about: it is no metric tool, or nothing is sent,
or what is sent has the strings inside of their literals. -/
def ToolCall.Sealed (site : Site) (cfg : ClusterConfig) (ns : String) (call : ToolCall) : Prop :=
  cfg.namespaceAllowed ns = false ∨
    ∀ t pod range, call.metric? = some (t, pod, range) →
      Malformed site.time range ∨ InLiterals ns pod

/-- A metric tool with a string that escapes from its literal. -/
def ToolCall.Open (ns : String) (call : ToolCall) : Prop :=
  ∃ t pod range, call.metric? = some (t, pod, range) ∧ Escapes ns pod

/-- **Sealed tools are confined**, whatever is answered; and a tool that is confined is sealed, unless
a string escapes from its literal. -/
theorem sealed_confined (hcfg : site.registry.get cluster = .ok cfg)
    (hlist : "*" ∉ cfg.allowedNamespaces) (call : ToolCall)
    (answer : List Upstream → (q : Upstream) → q.Reply) :
    (call.Sealed site cfg ns → Confined cfg ns ((call.program site ns cluster).run answer [])) ∧
      (Confined cfg ns ((call.program site ns cluster).run answer []) →
        call.Sealed site cfg ns ∨ call.Open ns) := by
  -- without the wildcard a namespace is allowed exactly when it is listed
  have hallowed_iff : cfg.namespaceAllowed ns = true ↔ ns ∈ cfg.allowedNamespaces := by
    simp [ClusterConfig.namespaceAllowed, hlist]
  cases hallowed : cfg.namespaceAllowed ns with
  | false =>
      obtain ⟨msg, hprogram⟩ := program_denied hcfg hallowed call
      refine ⟨fun _ => .inl ?_, fun _ => .inl (.inl hallowed)⟩
      rw [hprogram]
      exact ⟨rfl, msg, rfl⟩
  | true =>
      have hmem := hallowed_iff.mp hallowed
      constructor
      · intro hsealed
        have hmetric := hsealed.resolve_left (by simp [hallowed])
        -- every request of the program is asked within the namespace, whatever came back
        refine .inr ⟨hmem, Prog.All.asked ?_ answer []⟩
        cases hcall : call.metric? with
        | none => exact program_within hcall
        | some tpr =>
            obtain ⟨t, pod, range⟩ := tpr
            obtain ⟨⟨lexed⟩, hprogram⟩ := ToolCall.metric_cases hcall
            rw [hprogram]
            exact discard_all (metric_within lexed (hmetric t pod range hcall))
      · intro hconfined
        -- the converse: a query of the run that is scoped cannot have been broken out of
        by_cases hopen : call.Open ns
        · exact .inr hopen
        refine .inl (.inr fun t pod range hcall => ?_)
        by_cases hrange : Malformed site.time range
        · exact .inl hrange
        obtain ⟨⟨lexed⟩, hprogram⟩ := ToolCall.metric_cases hcall
        obtain ⟨request, hfirst, hquery⟩ :=
          metric_first t pod hcfg hallowed hrange
        have hasked : Upstream.get request ∈ ((call.program site ns cluster).run answer []).1 := by
          rw [hprogram]
          exact Prog.first_asked (discard_first hfirst) answer []
        rcases hconfined with ⟨hnone, -⟩ | ⟨-, hwithin⟩
        · rw [hnone] at hasked
          cases hasked
        · have hscoped := hwithin _ hasked _ hquery
          -- scoped and still not sealed leaves only a pod name that opens a matcher of its own
          exact .inr ((inLiterals_of_scoped lexed hscoped).resolve_right
            fun hescapes => hopen ⟨t, pod, range, hcall, hescapes⟩)

/-! ## A pod that ends its literal

A registry with one namespace, a tool that may read it, and a pod whose name ends the string literal
it is written into. What follows in the name is a selector of its own, without a namespace. -/

/-- A cluster of which the tenant may look at one namespace. -/
def paymentsCluster : ClusterConfig where
  name := "prod"
  auth := { mode := .kubeconfig }
  allowedNamespaces := ["payments"]
  backends := { prometheus := "http://prometheus:9090" }

def paymentsSite : Site where
  registry := { defaultCluster := "prod", clusters := [paymentsCluster] }
  now := { value := ⟨2024, 5, 1, 12, 0, 0, 0, some 0⟩, valid := by decide, utc := rfl }

def unanswered (_ : List Upstream) : (q : Upstream) → q.Reply
  | .connect _   => .ok ()
  | .kube ..     => .error (.apiException 503)
  | .get _       => .raised (.transportError "ConnectError")
  | .knowledge _ => .ok []

/-- The memory of one pod is asked for, as often as the client tries. -/
theorem sealed_confined_payments :
    Confined paymentsCluster "payments"
        (((ToolCall.metricMemory "api-0").program paymentsSite "payments" none).run unanswered []) ∧
      (((ToolCall.metricMemory "api-0").program paymentsSite "payments" none).run
        unanswered []).1.length = 3 := by
  refine ⟨(@sealed_confined paymentsSite none paymentsCluster "payments" rfl (by decide) _
      unanswered).1 (.inr ?_),
    by decide +kernel⟩
  intro t pod range hcall
  obtain ⟨rfl, rfl, rfl⟩ := hcall
  exact .inr ⟨PromQL.body_plain (by decide), .inr ⟨_, PromQL.body_plain (by decide)⟩⟩

/-- The end of a literal and of a selector, and a second selector. -/
def everyPod : String := "x\"\x7d or container_memory_working_set_bytes\x7bpod=~\".*"

/-- **The memory of every pod in the cluster** is asked for by a tool that was given an allowed
namespace. -/
theorem memory_reads_everywhere :
    paymentsSite.registry.get none = .ok paymentsCluster ∧ "*" ∉ paymentsCluster.allowedNamespaces ∧
      ¬ Confined paymentsCluster "payments"
        (((ToolCall.metricMemory everyPod).program paymentsSite "payments" none).run
          unanswered []) := by
  have hcfg : paymentsSite.registry.get none = .ok paymentsCluster := rfl
  have hallowed : paymentsCluster.namespaceAllowed "payments" = true := by decide
  refine ⟨hcfg, by decide, ?_⟩
  -- the range is the default one, and well formed
  have hrange : ¬ Malformed paymentsSite.time "30m" := by
    rintro ⟨-, e, herror⟩
    have htimes : (rangeParams paymentsSite.time "30m").isOk = true := by decide +kernel
    rw [herror] at htimes
    cases htimes
  obtain ⟨request, hfirst, hquery⟩ := metric_first memoryTemplate everyPod hcfg hallowed hrange
  have hasked : Upstream.get request ∈ (((ToolCall.metricMemory everyPod).program paymentsSite
      "payments" none).run unanswered []).1 := by
    have hprogram : (ToolCall.metricMemory everyPod).program paymentsSite "payments" none =
        discard (metric memoryTemplate paymentsSite "payments" everyPod none "30m") :=
      (ToolCall.metric_cases rfl).2
    rw [hprogram]
    exact Prog.first_asked (discard_first hfirst) unanswered []
  rintro (⟨hnone, -⟩ | ⟨-, hwithin⟩)
  · rw [hnone] at hasked
    cases hasked
  · obtain ⟨e, hparse, hselectors⟩ := hwithin _ hasked _ hquery
    -- the pod name closes its literal and adds a selector without a namespace
    have houtside : (PromQL.parse (memoryTemplate.promql "payments" everyPod)).any (fun e =>
        e.selectors.any fun ms => !ms.contains ⟨"namespace", .eq, "payments"⟩) = true := by
      decide +kernel
    rw [hparse] at houtside
    simp only [Option.any_some, List.any_eq_true, Bool.not_eq_true', List.contains_eq_mem,
      decide_eq_false_iff_not] at houtside
    obtain ⟨ms, hms, hnot⟩ := houtside
    exact hnot (hselectors ms hms)

end SreAgent.Tools
