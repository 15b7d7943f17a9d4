import SreAgent.Rca.Collected

/-!
# Which pods a diagnosis looks at

For a Deployment or a StatefulSet, `collect_context` sends the `match_labels` half of the selector
to the API and drops the `match_expressions` half. `podsScoped_iff` says when that makes no
difference.

A label selector is a conjunction of two halves. `collect_context` joins `match_labels` into a text
for the API; expressions have a syntax of their own there and are not sent.
-/

namespace SreAgent.Rca

open Kube (Client Read Labels Pod Timestamp)

variable {cl : Client} {ns subject : String}

/-! ## Resolving a workload

The labels and the pods stem from the same attempt. That the subject is no pod of that name is part
of the assumption, since a pod is tried first. -/

/-- The subject is no pod that can be read, and its attempt as a Deployment reads `obj` and lists
its pods; or that attempt fails too and the one as a StatefulSet does so. -/
def ResolvesTo (cl : Client) (ns subject : String) (obj : Kube.Workload) : Prop :=
  (tryPod cl ns subject {}).1 = false ∧
    ((cl.attempt .resolveDeployment
          (Kube.byName Kube.Workload.name (cl.namespaces ns).deployments subject) = .ok obj ∧
        cl.faults .deploymentPods = none) ∨
      ((tryDeployment cl ns subject {}).1 = false ∧
        cl.attempt .resolveStatefulSet
          (Kube.byName Kube.Workload.name (cl.namespaces ns).statefulSets subject) = .ok obj ∧
        cl.faults .statefulSetPods = none))

/-- An attempt that fails on a fresh start fails, and changes nothing, on any. -/
theorem tryPod_failed {r : Resolution} (h : (tryPod cl ns subject {}).1 = false) :
    tryPod cl ns subject r = (false, r) := by
  unfold tryPod at h ⊢
  cases hread : cl.readPod .resolvePod ns subject with
  | error e => rfl
  | ok p => rw [hread] at h; cases h

/-- An attempt that reads a workload and lists its pods. -/
theorem tryWorkload_ok {readAt podsAt : Read} {workloads : List Kube.Workload} {obj : Kube.Workload}
    (hread : cl.attempt readAt (Kube.byName Kube.Workload.name workloads subject) = .ok obj)
    (hlist : cl.faults podsAt = none) (r : Resolution) :
    tryWorkload cl readAt podsAt workloads ns subject r =
      (true, { r with
        selectorLabels := obj.selector.matchLabels
        podNames := ((cl.namespaces ns).pods.filter fun p =>
          obj.selector.matchLabels.subset p.labels).map Pod.name }) := by
  -- the label selector of the query is `match_labels` alone
  have hpods : cl.listPods podsAt ns (Kube.encodeLabels obj.selector.matchLabels) =
      .ok ((cl.namespaces ns).pods.filter fun p => obj.selector.matchLabels.subset p.labels) := by
    rw [Client.listPods, Kube.Client.attempt_eq_ok]
    refine ⟨hlist, congrArg Except.ok (List.filter_congr fun p _ => ?_)⟩
    exact Kube.selects_encodeLabels obj.selector.clean p.labels
  simp only [tryWorkload, hread, hpods]

/-- **A resolved workload** leaves the labels of its selector, and the pods that match them. -/
theorem ResolvesTo.resolved {obj : Kube.Workload} (h : ResolvesTo cl ns subject obj) :
    ∃ r : Resolution, resolveSubject cl ns subject = (true, { r with
      selectorLabels := obj.selector.matchLabels
      podNames := ((cl.namespaces ns).pods.filter fun p =>
        obj.selector.matchLabels.subset p.labels).map Pod.name }) := by
  obtain ⟨hpod, hrest⟩ := h
  have hfirst : orTry (tryPod cl ns subject) (tryDeployment cl ns subject) {} =
      tryDeployment cl ns subject {} := orTry_of_false (tryPod_failed hpod)
  rcases hrest with ⟨hread, hlist⟩ | ⟨hdeploy, hread, hlist⟩
  · exact ⟨{}, orTry_of_true (orTry_of_true (hfirst.trans (tryWorkload_ok hread hlist {})))⟩
  -- the failed Deployment attempt may have left its labels behind
  · obtain ⟨r, hfailed⟩ : ∃ r, tryDeployment cl ns subject {} = (false, r) :=
      ⟨_, Prod.ext hdeploy rfl⟩
    have hsecond : orTry (orTry (tryPod cl ns subject) (tryDeployment cl ns subject))
        (tryStatefulSet cl ns subject) {} = tryStatefulSet cl ns subject r :=
      orTry_of_false (hfirst.trans hfailed)
    exact ⟨r, orTry_of_true (hsecond.trans (tryWorkload_ok hread hlist r))⟩

/-- The subject's pods are those that match the labels, and its labels are the workload's. -/
theorem ResolvesTo.podNames {obj : Kube.Workload} (h : ResolvesTo cl ns subject obj) :
    podNamesOf cl ns subject = ((cl.namespaces ns).pods.filter fun p =>
      obj.selector.matchLabels.subset p.labels).map Pod.name := by
  obtain ⟨r, hr⟩ := h.resolved
  rw [podNamesOf, hr]

theorem ResolvesTo.selectorLabels {obj : Kube.Workload} (h : ResolvesTo cl ns subject obj) :
    selectorLabelsOf cl ns subject = obj.selector.matchLabels := by
  obtain ⟨r, hr⟩ := h.resolved
  rw [selectorLabelsOf, hr]

/-! ## The dropped half

The pods listed are those that match one half, so they are the workload's own iff these match the
other as well. -/

/-- Every pod of the bundle, and the pod described and read logs from, matches the full selector,
its expressions included and not only its labels. -/
def PodsScoped (cl : Client) (ns subject : String) (obj : Kube.Workload) (ctx : Context) : Prop :=
  ∀ p ∈ (cl.namespaces ns).pods,
    (podInfo p ∈ ctx.pods ∨ targetPod (podNamesOf cl ns subject) = some p.name) →
      obj.selector.matches p.labels = true

/-- **Exactly when a workload's pods are its own**: the labels alone select no pod of the namespace
that the whole selector does not. -/
theorem podsScoped_iff {w : World} {cluster : Option String} {name : String} {obj : Kube.Workload}
    {ctx : Context} (hreach : w.reach cluster ns = .ok (name, cl))
    (hres : ResolvesTo cl ns subject obj) (hctx : collectContext w cluster ns subject = .ok ctx) :
    PodsScoped cl ns subject obj ctx ↔
      ∀ p ∈ (cl.namespaces ns).pods, obj.selector.matchLabels.subset p.labels = true →
        obj.selector.matches p.labels = true := by
  rw [collectContext_of_reach hreach] at hctx
  obtain ⟨-, -, pdbs, anchor, recent, rfl, -⟩ := collectFrom_inv hctx
  have hnames := hres.podNames
  -- a pod of the namespace is listed by its name iff it matches the labels
  have hlisted : ∀ p ∈ (cl.namespaces ns).pods, p.name ∈ podNamesOf cl ns subject ↔
      obj.selector.matchLabels.subset p.labels = true := by
    intro p hp
    rw [hnames, List.mem_map]
    constructor
    · rintro ⟨q, hq, hqp⟩
      obtain ⟨hmem, hmatch⟩ := List.mem_filter.mp hq
      rwa [← (cl.namespaces ns).pod_unique hmem hp hqp]
    · intro hmatch
      exact ⟨p, List.mem_filter.mpr ⟨hp, hmatch⟩, rfl⟩
  constructor
  · intro hscoped p hp hmatch
    apply hscoped p hp
    left
    apply List.mem_map_of_mem
    rw [List.mem_filter]
    exact ⟨hp, List.contains_iff_mem.mpr ((hlisted p hp).mpr hmatch)⟩
  · intro hfull p hp hlook
    apply hfull p hp
    rw [← hlisted p hp]
    rcases hlook with hinfo | htarget
    · obtain ⟨q, hq, hqp⟩ := List.mem_map.mp hinfo
      obtain ⟨hmem, hcontains⟩ := List.mem_filter.mp hq
      have hname : q.name = p.name := congrArg PodInfo.name hqp
      rw [← hname]
      exact List.contains_iff_mem.mp hcontains
    · have hhead := (Option.filter_eq_some_iff.mp htarget).1
      exact List.mem_of_mem_head? hhead

/-! ## A selector without labels

The extreme case: nothing is sent, and every pod of the namespace is listed. -/

/-- A Deployment that selects its pods by an expression alone. -/
def exprDeployment : Kube.Workload where
  name := "api"
  selector :=
    { matchExpressions := [{ key := "app", operator := .isIn, values := ["api"] }]
      clean := by simp }

/-- A database and an application in one namespace. -/
def exprClient : Client where
  namespaces _ :=
    { pods := [{ name := "db-0", labels := [("app", "db")] },
        { name := "api-0", labels := [("app", "api")] }]
      deployments := [exprDeployment] }

/-- The subject is the Deployment, and its context is collected, so the condition applies. -/
theorem exprClient_resolves : ResolvesTo exprClient "shop" "api" exprDeployment :=
  ⟨by decide, .inl ⟨rfl, rfl⟩⟩

theorem exprClient_collects :
    ∃ ctx, collectContext (demoWorld exprClient) (some "prod") "shop" "api" = .ok ctx := by
  have hpdbs : ¬ MeetsNullSelector exprClient "shop" "api" := fun h => h.1 (by decide)
  obtain ⟨pdbs, anchor, recent, hctx, -⟩ := collectFrom_ok rfl hpdbs "prod" demoNow
  exact ⟨_, (collectContext_of_reach rfl).trans hctx⟩

theorem podsScoped_iff_expr :
    ∃ ctx, collectContext (demoWorld exprClient) (some "prod") "shop" "api" = .ok ctx ∧
      (PodsScoped exprClient "shop" "api" exprDeployment ctx ↔
        ∀ p ∈ (exprClient.namespaces "shop").pods,
          exprDeployment.selector.matchLabels.subset p.labels = true →
            exprDeployment.selector.matches p.labels = true) := by
  obtain ⟨ctx, hctx⟩ := exprClient_collects
  exact ⟨ctx, hctx, podsScoped_iff rfl exprClient_resolves hctx⟩

/-- The database pod is taken for one of the Deployment's. -/
theorem expression_selects_all :
    ∃ ctx, collectContext (demoWorld exprClient) (some "prod") "shop" "api" = .ok ctx ∧
      ResolvesTo exprClient "shop" "api" exprDeployment ∧
        ¬ PodsScoped exprClient "shop" "api" exprDeployment ctx := by
  obtain ⟨ctx, hctx⟩ := exprClient_collects
  refine ⟨ctx, hctx, exprClient_resolves, fun h => ?_⟩
  -- the Deployment has no match labels, so the first pod listed is the database's
  have htarget : targetPod (podNamesOf exprClient "shop" "api") = some "db-0" := by decide
  have hmatch := h { name := "db-0", labels := [("app", "db")] } (List.mem_cons_self ..) (.inr htarget)
  exact absurd hmatch (by decide)

end SreAgent.Rca
