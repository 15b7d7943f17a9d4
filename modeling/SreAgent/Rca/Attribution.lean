import SreAgent.Rca.PodScope

/-!
# Which autoscalers and budgets are the subject's

`collect_context` takes an autoscaler for the subject's by the name of its target, whatever its kind,
and a disruption budget by comparing its `match_labels` to those of the subject's selector, not to the
labels of the subject's pods. `attributed_iff` says when neither makes a difference.

An autoscaler's target is a kind and a name; the source compares the name. A budget selects pods by
their labels; the source compares selectors. Where names of workloads are told apart by kind, or
selectors use expressions, the two differ.
-/

namespace SreAgent.Rca

open Kube (Client Read Labels Pod Timestamp)

variable {cl : Client} {ns subject : String}

/-! ## The subject

Deployments and StatefulSets are the subjects whose selector labels are kept. -/

inductive WorkloadKind where
  | deployment
  | statefulSet
  deriving DecidableEq, Repr

/-- The `kind` of a `scaleTargetRef`. -/
def WorkloadKind.name : WorkloadKind → String
  | .deployment  => "Deployment"
  | .statefulSet => "StatefulSet"

/-- The subject is no pod that can be read, and is resolved as a workload of this kind, whose pods
could be listed: no lookup before it found the name. -/
def ResolvesAs (cl : Client) (ns subject : String) (kind : WorkloadKind) (obj : Kube.Workload) : Prop :=
  (tryPod cl ns subject {}).1 = false ∧
    match kind with
    | .deployment  =>
        cl.attempt .resolveDeployment
            (Kube.byName Kube.Workload.name (cl.namespaces ns).deployments subject) = .ok obj ∧
          cl.faults .deploymentPods = none
    | .statefulSet =>
        (tryDeployment cl ns subject {}).1 = false ∧
          cl.attempt .resolveStatefulSet
            (Kube.byName Kube.Workload.name (cl.namespaces ns).statefulSets subject) = .ok obj ∧
          cl.faults .statefulSetPods = none

/-- Either way the subject resolves to this workload. -/
theorem ResolvesAs.resolvesTo {kind : WorkloadKind} {obj : Kube.Workload}
    (h : ResolvesAs cl ns subject kind obj) : ResolvesTo cl ns subject obj := by
  cases kind with
  | deployment => exact ⟨h.1, .inl h.2⟩
  | statefulSet => exact ⟨h.1, .inr h.2⟩

/-! ## What is collected

Both lists are filters of what was read, kept in order. An object is on its list exactly if it
passes the filter, as long as no other object has its summary. -/

/-- The autoscalers, or nothing if they could not be read, and the budgets likewise. -/
theorem resultsOf_hpas (cl : Client) (ns subject : String) :
    (resultsOf cl ns subject).hpas =
      if cl.faults .hpas = none then (cl.namespaces ns).hpas else [] := by
  simp only [resultsOf, fanOut, Client.attempt]
  cases cl.faults .hpas <;> rfl

theorem resultsOf_pdbs (cl : Client) (ns subject : String) :
    (resultsOf cl ns subject).pdbs =
      if cl.faults .pdbs = none then (cl.namespaces ns).pdbs else [] := by
  simp only [resultsOf, fanOut, Client.attempt]
  cases cl.faults .pdbs <;> rfl

/-- The two lists of a collected context, and that the pods were listed. -/
theorem collectFrom_scoped {clusterName : String} {now : Timestamp} {ctx : Context}
    (h : collectFrom cl clusterName ns subject now = .ok ctx) :
    cl.faults .podList = none ∧
      ctx.hpas = ((resultsOf cl ns subject).hpas.filter fun h => h.targetName == subject).map hpaInfo ∧
      selectPdbs (selectorLabelsOf cl ns subject) (resultsOf cl ns subject).pdbs = .ok ctx.pdbs := by
  obtain ⟨hpods, -, pdbs, anchor, recent, rfl, -⟩ := collectFrom_inv h
  refine ⟨hpods, rfl, ?_⟩
  rw [collectFrom_eq hpods] at h
  -- the collection returned, so each of its parts did
  cases hselect : selectPdbs (selectorLabelsOf cl ns subject) (resultsOf cl ns subject).pdbs with
  | error e => rw [hselect] at h; cases h
  | ok l =>
      rw [hselect] at h
      cases hanchor : anchorOf cl ns subject with
      | error e => rw [hanchor] at h; cases h
      | ok a =>
          rw [hanchor] at h
          simp only [Except.bind] at h
          cases hrecent : findRecentChange (bundleOf cl clusterName ns subject l a) now.value with
          | error e => rw [hrecent] at h; cases h
          | ok r =>
              rw [hrecent] at h
              exact congrArg (fun ctx : Context => Except.ok ctx.pdbs) (Except.ok.inj h)

/-- The budgets listed, if computing them does not raise. -/
theorem selectPdbs_inv {labels : Labels} {pdbs : List Kube.PodDisruptionBudget} {l : List PdbInfo}
    (h : selectPdbs labels pdbs = .ok l) : l = (pdbs.filter fun p =>
      !labels.isEmpty && p.selector.any fun s => s.matchLabels.subset labels).map pdbInfo := by
  unfold selectPdbs at h
  cases hempty : labels.isEmpty with
  | true =>
      rw [hempty, if_pos rfl] at h
      simpa using (Except.ok.inj h).symm
  | false =>
      rw [hempty, if_neg Bool.false_ne_true] at h
      split at h
      · cases h
      · exact (Except.ok.inj h).symm

/-- Where objects are told apart by their names, a kept object is listed by its own summary. -/
theorem info_mem_iff {α β : Type} {info : α → β} {name : α → String} {l : List α}
    (hinfo : ∀ x y, info x = info y → name x = name y) (hnames : (l.map name).Nodup)
    {keep : α → Bool} {x : α} (hx : x ∈ l) :
    info x ∈ (l.filter keep).map info ↔ keep x = true := by
  rw [List.mem_map]
  constructor
  · rintro ⟨y, hy, hsame⟩
    obtain ⟨hmem, hkeep⟩ := List.mem_filter.mp hy
    rwa [← List.inj_on_of_nodup_map hnames hmem hx (hinfo y x hsame)]
  · intro hkeep
    exact ⟨x, List.mem_filter.mpr ⟨hx, hkeep⟩, rfl⟩

/-! ## Exact attribution

What Kubernetes itself would say is on the left: the target is of the subject's kind and name, the
selector matches the pods' labels. On the right is what the source compares. -/

/-- The budget's selector matches the labels. A budget without selector matches nothing. -/
def BudgetMatches (p : Kube.PodDisruptionBudget) (labels : Labels) : Prop :=
  ∃ s, p.selector = some s ∧ s.matches labels = true

/-- The two lists hold exactly the autoscalers of the subject and the budgets of its pods, whose
template has the labels `template`, and computing them does not raise. -/
structure AttributedExactly (w : World) (cluster : Option String) (cl : Client) (ns subject : String)
    (kind : WorkloadKind) (template : Labels) : Prop where
  computed : ∃ l, selectPdbs (selectorLabelsOf cl ns subject) (resultsOf cl ns subject).pdbs = .ok l
  hpas : ∀ ctx, collectContext w cluster ns subject = .ok ctx → ∀ h ∈ (cl.namespaces ns).hpas,
    hpaInfo h ∈ ctx.hpas ↔ h.targetKind = kind.name ∧ h.targetName = subject
  pdbs : ∀ ctx, collectContext w cluster ns subject = .ok ctx → ∀ p ∈ (cl.namespaces ns).pdbs,
    pdbInfo p ∈ ctx.pdbs ↔ BudgetMatches p template

/-- The subject is the only target of its name: an autoscaler is matched by the name of its target,
whatever kind of workload it scales. -/
def TargetsDistinct (cl : Client) (ns subject : String) (kind : WorkloadKind) : Prop :=
  if cl.faults .hpas = none then
    ∀ h ∈ (cl.namespaces ns).hpas, h.targetName = subject → h.targetKind = kind.name
  else ∀ h ∈ (cl.namespaces ns).hpas, h.targetName = subject → h.targetKind ≠ kind.name

/-- Comparing a selector to the labels selected by comes to the same as matching the template. -/
structure SelectorAgrees (s : Kube.LabelSelector) (own template : Labels) : Prop where
  expressions : s.matchLabels.subset own = true →
    s.matchExpressions.all (·.matches template) = true
  labels : s.matches template = true → s.matchLabels.subset own = true

/-- The budgets are looked at: there are labels to select by, and the budgets were read. A subject
without selector labels has no budget listed. -/
def BudgetsSeen (cl : Client) (obj : Kube.Workload) : Prop :=
  obj.selector.matchLabels ≠ [] ∧ cl.faults .pdbs = none

/-- Every budget that is looked at has a selector, which asks for labels of the subject's selector
and for nothing the pods lack. -/
def SelectorsAgree (cl : Client) (ns : String) (obj : Kube.Workload) (template : Labels) : Prop :=
  (BudgetsSeen cl obj → ∀ p ∈ (cl.namespaces ns).pdbs, ∀ s, p.selector = some s →
      SelectorAgrees s obj.selector.matchLabels template) ∧
    (¬ BudgetsSeen cl obj → ∀ p ∈ (cl.namespaces ns).pdbs, ¬ BudgetMatches p template)

/-- A budget without selector is dereferenced exactly if it is looked at. -/
theorem meetsNullSelector_iff {obj : Kube.Workload} (h : ResolvesTo cl ns subject obj) :
    MeetsNullSelector cl ns subject ↔
      BudgetsSeen cl obj ∧ ∃ p ∈ (cl.namespaces ns).pdbs, p.selector = none := by
  rw [MeetsNullSelector, h.selectorLabels, resultsOf_pdbs, BudgetsSeen, and_assoc]
  by_cases hread : cl.faults .pdbs = none
  · rw [if_pos hread]
    simp [hread]
  · rw [if_neg hread]
    simp [hread]

/-- The template matches the subject's selector, so it has the labels selected by. -/
theorem selectorAgrees_iff {s own : Kube.LabelSelector} {template : Labels}
    (hown : own.matches template = true) : SelectorAgrees s own.matchLabels template ↔
      (s.matchLabels.subset own.matchLabels = true ↔ s.matches template = true) := by
  have htemplate : own.matchLabels.subset template = true := (Bool.and_eq_true_iff.mp hown).1
  constructor
  · intro h
    refine ⟨fun hsubset => ?_, h.labels⟩
    exact Bool.and_eq_true_iff.mpr
      ⟨Kube.Labels.subset_trans hsubset htemplate, h.expressions hsubset⟩
  · intro h
    exact ⟨fun hsubset => (Bool.and_eq_true_iff.mp (h.mp hsubset)).2, h.mpr⟩

/-! ## The two lists

Each list is exact under a condition of its own; what holds of both is their conjunction. -/

variable {w : World} {cluster : Option String} {name : String} {kind : WorkloadKind}
  {obj : Kube.Workload} {template : Labels} {ctx : Context}

/-- An autoscaler is listed by the name of its target, -/
theorem hpa_listed_iff (hreach : w.reach cluster ns = .ok (name, cl))
    (hnames : ((cl.namespaces ns).hpas.map Kube.HorizontalPodAutoscaler.name).Nodup)
    (hctx : collectContext w cluster ns subject = .ok ctx) {h : Kube.HorizontalPodAutoscaler}
    (hmem : h ∈ (cl.namespaces ns).hpas) :
    hpaInfo h ∈ ctx.hpas ↔ cl.faults .hpas = none ∧ h.targetName = subject := by
  rw [collectContext_of_reach hreach] at hctx
  rw [(collectFrom_scoped hctx).2.1, resultsOf_hpas]
  by_cases hread : cl.faults .hpas = none
  · rw [if_pos hread, info_mem_iff (fun x y => congrArg HpaInfo.name) hnames hmem, beq_iff_eq]
    simp [hread]
  · rw [if_neg hread]
    simp [hread]

/-- a budget by the labels it asks for, compared with those of the subject's selector. -/
theorem pdb_listed_iff (hreach : w.reach cluster ns = .ok (name, cl))
    (hres : ResolvesTo cl ns subject obj)
    (hnames : ((cl.namespaces ns).pdbs.map Kube.PodDisruptionBudget.name).Nodup)
    (hctx : collectContext w cluster ns subject = .ok ctx) {p : Kube.PodDisruptionBudget}
    (hmem : p ∈ (cl.namespaces ns).pdbs) :
    pdbInfo p ∈ ctx.pdbs ↔ BudgetsSeen cl obj ∧
      ∃ s, p.selector = some s ∧ s.matchLabels.subset obj.selector.matchLabels = true := by
  rw [collectContext_of_reach hreach] at hctx
  rw [selectPdbs_inv (collectFrom_scoped hctx).2.2, hres.selectorLabels, resultsOf_pdbs, BudgetsSeen]
  by_cases hread : cl.faults .pdbs = none
  · rw [if_pos hread, info_mem_iff (fun x y => congrArg PdbInfo.name) hnames hmem]
    simp [hread, Option.any_eq_true]
  · rw [if_neg hread]
    simp [hread]

/-- The autoscalers are exact if no other workload has the subject's name, -/
theorem hpas_exact_iff (hreach : w.reach cluster ns = .ok (name, cl))
    (hnames : ((cl.namespaces ns).hpas.map Kube.HorizontalPodAutoscaler.name).Nodup)
    (hctx : collectContext w cluster ns subject = .ok ctx) :
    (∀ h ∈ (cl.namespaces ns).hpas,
        hpaInfo h ∈ ctx.hpas ↔ h.targetKind = kind.name ∧ h.targetName = subject) ↔
      TargetsDistinct cl ns subject kind := by
  rw [TargetsDistinct]
  by_cases hread : cl.faults .hpas = none
  · rw [if_pos hread]
    -- the list was read, so an autoscaler is shown exactly when its target has the subject's
    -- name
    refine forall₂_congr fun h hmem => ?_
    rw [hpa_listed_iff hreach hnames hctx hmem]
    constructor
    · exact fun hiff hsubject => (hiff.mp ⟨hread, hsubject⟩).1
    · exact fun hkind => ⟨fun hlisted => ⟨hkind hlisted.2, hlisted.2⟩, fun hown => ⟨hread, hown.2⟩⟩
  · rw [if_neg hread]
    -- a failed read shows none: this is right only where the subject has none
    refine forall₂_congr fun h hmem => ?_
    rw [hpa_listed_iff hreach hnames hctx hmem]
    constructor
    · exact fun hiff hsubject hkind => hread (hiff.mpr ⟨hkind, hsubject⟩).1
    · exact fun hkind => ⟨fun hlisted => absurd hlisted.1 hread,
        fun hown => absurd hown.1 (hkind hown.2)⟩

/-- and the budgets if the two ways to compare agree on each of them. -/
theorem pdbs_exact_iff (hreach : w.reach cluster ns = .ok (name, cl))
    (hres : ResolvesTo cl ns subject obj) (htemplate : obj.selector.matches template = true)
    (hnames : ((cl.namespaces ns).pdbs.map Kube.PodDisruptionBudget.name).Nodup)
    (hctx : collectContext w cluster ns subject = .ok ctx) :
    (∀ p ∈ (cl.namespaces ns).pdbs, pdbInfo p ∈ ctx.pdbs ↔ BudgetMatches p template) ↔
      SelectorsAgree cl ns obj template := by
  rw [SelectorsAgree]
  by_cases hseen : BudgetsSeen cl obj
  · rw [and_iff_left (fun h => absurd hseen h), forall_prop_of_true hseen]
    -- each budget on its own: what the loop matches against what Kubernetes would
    refine forall₂_congr fun p hmem => ?_
    rw [pdb_listed_iff hreach hres hnames hctx hmem, and_iff_right hseen, BudgetMatches]
    cases hsel : p.selector with
    | none => simp
    | some s => simp [selectorAgrees_iff htemplate]
  · rw [and_iff_right (fun h => absurd h hseen), forall_prop_of_true hseen]
    refine forall₂_congr fun p hmem => ?_
    rw [pdb_listed_iff hreach hres hnames hctx hmem]
    simp [hseen]  -- no budget is listed, so none may cover the pods

/-- **Exactly when autoscalers and budgets are attributed to the subject.** The names of autoscalers
and budgets are unique in a namespace. -/
theorem attributed_iff (hreach : w.reach cluster ns = .ok (name, cl))
    (hres : ResolvesAs cl ns subject kind obj) (htemplate : obj.selector.matches template = true)
    (hhpas : ((cl.namespaces ns).hpas.map Kube.HorizontalPodAutoscaler.name).Nodup)
    (hpdbs : ((cl.namespaces ns).pdbs.map Kube.PodDisruptionBudget.name).Nodup) :
    AttributedExactly w cluster cl ns subject kind template ↔
      (BudgetsSeen cl obj → ∀ p ∈ (cl.namespaces ns).pdbs, p.selector ≠ none) ∧
        (cl.faults .podList = none →
          TargetsDistinct cl ns subject kind ∧ SelectorsAgree cl ns obj template) := by
  have hto := hres.resolvesTo
  -- a budget without a selector raises in the loop, before any list is filled
  have hnull : ¬ MeetsNullSelector cl ns subject ↔
      (BudgetsSeen cl obj → ∀ p ∈ (cl.namespaces ns).pdbs, p.selector ≠ none) := by
    rw [meetsNullSelector_iff hto]
    simp
  rw [← hnull]
  constructor
  · intro h
    -- the context exists, so both lists can be read off it
    have hcomputes : ¬ MeetsNullSelector cl ns subject := selectPdbs_ok.mp h.computed
    refine ⟨hcomputes, fun hpods => ?_⟩
    obtain ⟨pdbs, anchor, recent, hcollect, -⟩ := collectFrom_ok hpods hcomputes name w.now
    have hctx := (collectContext_of_reach hreach).trans hcollect
    exact ⟨(hpas_exact_iff hreach hhpas hctx).mp (h.hpas _ hctx),
      (pdbs_exact_iff hreach hto htemplate hpdbs hctx).mp (h.pdbs _ hctx)⟩
  · rintro ⟨hcomputes, hrest⟩
    -- where a context was collected, the pods could be listed
    have hpods : ∀ ctx, collectContext w cluster ns subject = .ok ctx → cl.faults .podList = none := by
      intro ctx hctx
      rw [collectContext_of_reach hreach] at hctx
      exact (collectFrom_inv hctx).1
    refine ⟨selectPdbs_ok.mpr hcomputes, fun ctx hctx => ?_, fun ctx hctx => ?_⟩
    · exact (hpas_exact_iff hreach hhpas hctx).mpr (hrest (hpods ctx hctx)).1
    · exact (pdbs_exact_iff hreach hto htemplate hpdbs hctx).mpr (hrest (hpods ctx hctx)).2

/-! ## A budget of other pods

The budget asks for nothing in `match_labels`, and nothing is a subset of any labels. What it does
ask for stands in an expression, which is not looked at. -/

/-- Labels of plain text. -/
theorem apiLabels_clean : ∀ kv ∈ [("app", "api")], Kube.LabelText kv.1 ∧ Kube.LabelText kv.2 := by
  decide

/-- The subject, whose pods are `app=api`. -/
def apiDeployment : Kube.Workload where
  name := "api"
  selector := { matchLabels := [("app", "api")], clean := apiLabels_clean }

/-- The one budget of the namespace selects the database pods, by an expression. -/
def dbBudget : Kube.PodDisruptionBudget where
  name := "db"
  selector := some
    { matchExpressions := [{ key := "app", operator := .isIn, values := ["db"] }]
      clean := fun _ h => absurd h List.not_mem_nil }

/-- A namespace with both of them. -/
def dbBudgetClient : Client where
  namespaces _ :=
    { pods := []
      pods_nodup := List.nodup_nil
      deployments := [apiDeployment]
      hpas := [{ name := "api", targetKind := "Deployment", targetName := "api" }]
      pdbs := [dbBudget] }

/-- The subject is the Deployment. -/
theorem dbBudget_resolves : ResolvesAs dbBudgetClient "shop" "api" .deployment apiDeployment :=
  ⟨by decide, rfl, rfl⟩

/-- The condition for this namespace. -/
theorem attributed_iff_dbBudget :
    AttributedExactly (demoWorld dbBudgetClient) (some "prod") dbBudgetClient "shop" "api" .deployment
        [("app", "api")] ↔
      (BudgetsSeen dbBudgetClient apiDeployment →
          ∀ p ∈ (dbBudgetClient.namespaces "shop").pdbs, p.selector ≠ none) ∧
        (dbBudgetClient.faults .podList = none →
          TargetsDistinct dbBudgetClient "shop" "api" .deployment ∧
            SelectorsAgree dbBudgetClient "shop" apiDeployment [("app", "api")]) :=
  attributed_iff rfl dbBudget_resolves rfl (by decide) (by decide)

/-- It is taken for a budget of the subject. -/
theorem dbBudget_attributed :
    ResolvesAs dbBudgetClient "shop" "api" .deployment apiDeployment ∧
      apiDeployment.selector.matches [("app", "api")] = true ∧
        ¬ AttributedExactly (demoWorld dbBudgetClient) (some "prod") dbBudgetClient "shop" "api"
          .deployment [("app", "api")] := by
  refine ⟨dbBudget_resolves, rfl, fun h => ?_⟩
  have hnull : ¬ MeetsNullSelector dbBudgetClient "shop" "api" := selectPdbs_ok.mp h.computed
  obtain ⟨pdbs, anchor, recent, hcollect, -⟩ := collectFrom_ok rfl hnull "prod" demoNow
  obtain ⟨ctx, hctx⟩ : ∃ ctx, collectContext (demoWorld dbBudgetClient) (some "prod") "shop" "api" =
      .ok ctx := ⟨_, (collectContext_of_reach rfl).trans hcollect⟩
  have hmem : dbBudget ∈ (dbBudgetClient.namespaces "shop").pdbs := List.mem_cons_self
  -- the budget selects by an expression only, so the empty match labels match the pods
  have hlisted : pdbInfo dbBudget ∈ ctx.pdbs :=
    (pdb_listed_iff rfl dbBudget_resolves.resolvesTo (by decide) hctx hmem).mpr
      ⟨⟨by decide, rfl⟩, _, rfl, rfl⟩
  -- Kubernetes evaluates the expression, and it excludes them
  obtain ⟨s, hs, hmatch⟩ := (h.pdbs _ hctx dbBudget hmem).mp hlisted
  obtain rfl := Option.some.inj hs
  exact absurd hmatch (by decide)

end SreAgent.Rca
