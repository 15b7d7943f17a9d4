import SreAgent.Lib.Isolation
import SreAgent.Rag.TenantScope
import SreAgent.Rca.Degradation

/-!
# Whose runbooks a diagnosis sees

`diagnose` calls `retrieve.search` without tenants, unlike `kb_search`, so the session is that of the
tenant `default` whatever the cluster. `runbooksIsolated_iff` says for which clusters that is their
own tenant.

Isolation between tenants is stated over two knowledge bases that look the same to one tenant. The
policy of the database is applied as it stands; what is wrong is the session it is applied to.
-/

namespace SreAgent.Rca

open Isolation (Agree)
open Rag (KnowledgeBase Scorer Chunk Document Hit)

variable {V : Type}

/-- `rag.search(.., top_k=1)`, as `diagnose` calls it with `rag_enabled`. -/
def ragRunbooks (sc : Scorer V) (kb : KnowledgeBase V) : Runbooks where
  enabled := true
  lookup query := Rag.search sc kb query [] none 1

/-- The two knowledge bases have the same documents and the same chunks of a tenant. -/
structure SameShelf (tenant : String) (kb kb' : KnowledgeBase V) : Prop where
  documents : Agree (fun d : Document => d.tenant == tenant) kb.documents kb'.documents
  chunks    : Agree (fun c : Chunk V => c.tenant == tenant) kb.chunks kb'.chunks

/-- No diagnosis of the cluster depends on what other tenants have in the knowledge base: two bases
that agree on the shelf of the cluster's tenant give the same report. -/
def RunbooksIsolated (registry : ClusterRegistry) (cluster : Option String) : Prop :=
  ∀ cfg, registry.get cluster = .ok cfg → ∀ w : World, w.registry = registry →
    ∀ (V : Type) (sc : Scorer V) (kb kb' : KnowledgeBase V), SameShelf cfg.tenant kb kb' →
      ∀ ns subject, diagnose w (ragRunbooks sc kb) cluster ns subject =
        diagnose w (ragRunbooks sc kb') cluster ns subject

/-! ## One tenant's search

With one name and no comma in it the policy shows that tenant's chunks. The query reads nothing
else, except for the documents of these chunks, which belong to the same tenant by the schema. -/

/-- One whole name shows its own chunks. -/
theorem visible_single {tenant : String} (hclean : ',' ∉ tenant.toList) (hne : tenant ≠ "")
    (c : Chunk V) : Rag.visible [tenant] c = (c.tenant == tenant) := by
  have hblank : [tenant] ≠ [""] := fun h => hne (List.singleton_inj.mp h)
  rw [Bool.eq_iff_iff, beq_iff_eq,
    Rag.visible_of_whole (List.forall_mem_singleton.mpr hclean) hblank, List.mem_singleton]

/-- The document of a chunk is a document of the chunk's tenant. -/
theorem owners_own (kb : KnowledgeBase V) {c : Chunk V} (hc : c ∈ kb.chunks) :
    kb.documents.filter (fun d => d.id == c.documentId) =
      kb.documents.filter fun d => d.id == c.documentId && d.tenant == c.tenant := by
  obtain ⟨owner, howner, hid, htenant⟩ := kb.chunks_owned c hc
  apply List.filter_congr
  intro d hd
  by_cases hsame : d.id = c.documentId
  · have heq : d = owner := List.inj_on_of_nodup_map kb.documents_nodup hd howner (hsame.trans hid.symm)
    simp [heq, htenant]
  · simp [hsame]

/-- A ranking returns rows it was given. -/
theorem topBy_subset {α : Type} (key : α → ℚ) (n : Nat) (rows : List α) :
    Rag.topBy key n rows ⊆ rows := by
  intro a ha
  exact (List.mem_insertionSort _).mp (List.mem_of_mem_take ha)

/-- **A search for one tenant** reads nothing of the others. -/
theorem search_sameShelf {tenant : String} (hclean : ',' ∉ tenant.toList) (hne : tenant ≠ "")
    {kb kb' : KnowledgeBase V} (h : SameShelf tenant kb kb') (sc : Scorer V) (query : String)
    (service : Option String) (topK : Nat) :
    Rag.search sc kb query [tenant] service topK = Rag.search sc kb' query [tenant] service topK := by
  have hvisible : kb.chunks.filter (Rag.visible [tenant]) = kb'.chunks.filter (Rag.visible [tenant]) :=
    h.chunks.filter fun c hc => by rwa [visible_single hclean hne] at hc
  -- the join with `documents` reaches the owner of a visible chunk, which is of the tenant too
  have howners : ∀ c ∈ kb.chunks.filter (Rag.visible [tenant]),
      kb.documents.filter (fun d => d.id == c.documentId) =
        kb'.documents.filter (fun d => d.id == c.documentId) := by
    intro c hc
    have hc' := hc
    rw [hvisible] at hc'
    obtain ⟨hmem, hown⟩ := List.mem_filter.mp hc
    rw [visible_single hclean hne, beq_iff_eq] at hown
    rw [owners_own kb hmem, owners_own kb' (List.mem_filter.mp hc').1, hown]
    apply h.documents.filter
    intro d hd
    exact (Bool.and_eq_true_iff.mp hd).2
  have hhybrid : ∀ qvec, Rag.hybridSearch sc qvec query service topK
      (kb.chunks.filter (Rag.visible [tenant])) kb.documents =
        Rag.hybridSearch sc qvec query service topK (kb'.chunks.filter (Rag.visible [tenant]))
          kb'.documents := by
    intro qvec
    unfold Rag.hybridSearch
    rw [← hvisible]
    congr 1
    apply List.flatMap_congr
    intro c hc
    have hrow := topBy_subset _ _ _ hc
    rw [howners c (List.mem_filter.mp hrow).1]
  unfold Rag.search
  cases sc.embedQuery query with
  | error e => rfl
  | ok qvec =>
      show Rag.storeSearch sc kb qvec query [tenant] service topK =
        Rag.storeSearch sc kb' qvec query [tenant] service topK
      rw [Rag.storeSearch, Rag.storeSearch, hhybrid]

/-! ## The session of `diagnose`

Two cases in which nothing of another tenant is read: the tenant is `default` itself, or nothing is
read at all. -/

/-- Without tenants, a search is one for `default`. -/
theorem lookup_sameShelf {kb kb' : KnowledgeBase V} (h : SameShelf "default" kb kb') (sc : Scorer V) :
    ragRunbooks sc kb = ragRunbooks sc kb' := by
  have hlookup : ∀ query, Rag.search sc kb query [] none 1 = Rag.search sc kb' query [] none 1 :=
    fun query => search_sameShelf (by decide) (by decide) h sc query none 1
  rw [ragRunbooks, ragRunbooks, funext hlookup]

/-- A cluster without allowed namespaces is never looked at. -/
theorem diagnose_closed {w : World} {cluster : Option String} {cfg : ClusterConfig}
    (hget : w.registry.get cluster = .ok cfg) (hclosed : cfg.allowedNamespaces = [])
    (rb rb' : Runbooks) (ns subject : String) :
    diagnose w rb cluster ns subject = diagnose w rb' cluster ns subject := by
  have hdenied : cfg.namespaceAllowed ns = false := by
    rw [ClusterConfig.namespaceAllowed, hclosed]
    rfl
  obtain ⟨msg, he⟩ := guardNamespace_denied hget hdenied
  rw [diagnose, diagnose, collectContext, he]
  rfl

/-! ## A foreign runbook in the report

In any other case a leak can be shown. The cluster has one broken node, so that there is a finding
to look up; one of the two bases has one runbook, so that one report has a piece of evidence more. -/

/-- A cluster whose only node is down. -/
def downClient : Kube.Client where
  namespaces _ := {}
  nodes := [{ name := "node-0", conditions := [{ type := "Ready", status := "False" }] }]

/-- Every search finds what the session can see. -/
def flatScorer : Scorer Unit where
  embedQuery _ := .ok ()
  vscore _ _ := 1
  lscore _ _ := none

/-- The knowledge base with one runbook, of the tenant `default`. -/
def oneRunbook : KnowledgeBase Unit :=
  (KnowledgeBase.empty.insertDocument { source := "runbook", title := "Node down" }).insertChunk
    (KnowledgeBase.newDocument .empty { source := "runbook", title := "Node down" })
    (KnowledgeBase.newDocument_mem _ _) 0 "Drain the node." ()

/-- To other tenants the two bases look the same. -/
theorem oneRunbook_sameShelf {tenant : String} (h : tenant ≠ "default") :
    SameShelf tenant KnowledgeBase.empty oneRunbook := by
  have hne : ("default" == tenant) = false := beq_eq_false_iff_ne.mpr (Ne.symm h)
  constructor
  · apply Agree.symm
    exact Agree.concat [] hne
  · apply Agree.symm
    exact Agree.concat [] hne

/-- A search in the empty base finds nothing, and one in the other finds the runbook. -/
theorem search_empty (query : String) :
    Rag.search flatScorer KnowledgeBase.empty query [] none 1 = .ok [] := rfl

theorem search_oneRunbook (query : String) :
    ∃ hit, Rag.search flatScorer oneRunbook query [] none 1 = .ok [hit] := by
  have hsees : oneRunbook.chunks.filter (Rag.visible ["default"]) = oneRunbook.chunks := by
    rw [List.filter_eq_self]
    intro c hc
    rw [visible_single (by decide) (by decide), List.mem_singleton.mp hc]
    rfl
  have hsearch : Rag.search flatScorer oneRunbook query [] none 1 =
      .ok (Rag.hybridSearch flatScorer () query none 1 oneRunbook.chunks oneRunbook.documents) := by
    rw [← hsees]
    rfl
  exact ⟨_, hsearch⟩

/-- A runbook is one more piece of evidence, and the report has the evidence of its hypothesis. -/
theorem attachRunbook_evidence_length {rb : Runbooks} {h : Hypothesis} (henabled : rb.enabled = true)
    {hits : List Hit} (hlookup : rb.lookup (h.issue ++ " " ++ h.rootCause) = .ok hits) :
    (attachRunbook rb h).evidence.length = h.evidence.length + (if hits = [] then 0 else 1) := by
  rw [attachRunbook, henabled, hlookup]
  cases hits with
  | nil => rfl
  | cons hit hits => simp

theorem diagnoseContext_evidence {rb : Runbooks} {ctx : Context} {ns subject : String}
    {top : Hypothesis} {others : List Hypothesis} {report : RCAReport}
    (hev : evaluate ctx = top :: others) (h : diagnoseContext rb ctx ns subject = .ok report) :
    report.evidence = (attachRunbook rb
      { top with evidence := top.evidence ++ degradedEvidence ctx }).evidence := by
  rw [diagnoseContext, hev] at h
  cases hlines : buildTimeline ctx with
  | error e =>
      rw [hlines] at h
      cases h
  | ok lines =>
      rw [hlines] at h
      change reportOn ctx ns subject _ others lines = .ok report at h
      -- a report is only built where the target parses; its evidence is the enriched one
      unfold reportOn at h
      split at h
      · cases h
      · rw [← Except.ok.inj h]

/-- **A runbook of `default` shows** in the report about any other tenant's cluster. -/
theorem not_isolated {registry : ClusterRegistry} {cluster : Option String} {cfg : ClusterConfig}
    {ns : String} (hget : registry.get cluster = .ok cfg) (hallowed : cfg.namespaceAllowed ns = true)
    (htenant : cfg.tenant ≠ "default") : ¬ RunbooksIsolated registry cluster := by
  intro hisolated
  have hsame := hisolated cfg hget { registry, clients := fun _ => .ok downClient, now := demoNow } rfl
    Unit flatScorer KnowledgeBase.empty oneRunbook (oneRunbook_sameShelf htenant) ns "web"
  have hreach : World.reach { registry, clients := fun _ => .ok downClient, now := demoNow } cluster ns =
      .ok (cfg.name, downClient) := by
    rw [World.reach, guardNamespace_allowed hget hallowed]
    rfl
  have hpdbs : ¬ MeetsNullSelector downClient ns "web" := fun h => h.1 rfl
  obtain ⟨pdbs, anchor, recent, hctx, hrecent⟩ :=
    @collectFrom_ok downClient ns "web" rfl hpdbs cfg.name demoNow
  rw [diagnose, diagnose, collectContext_of_reach hreach, hctx] at hsame
  -- the node's hypothesis is on top, or something better
  obtain ⟨node, hnode⟩ : ∃ h, nodePressure
      { bundleOf downClient cfg.name ns "web" pdbs anchor with recentChange := recent } = some h :=
    ⟨_, rfl⟩
  have hfires := mem_evaluate.mpr ⟨nodePressure, by simp [allDetectors], hnode⟩
  obtain ⟨top, others, hev⟩ := List.exists_cons_of_ne_nil (List.ne_nil_of_mem hfires)
  obtain ⟨report, hreport, -⟩ := @diagnoseContext_names ns "web"
    { bundleOf downClient cfg.name ns "web" pdbs anchor with recentChange := recent }
    (ragRunbooks flatScorer .empty) (aware_selectEvents _ _ _) hrecent
  have hempty := diagnoseContext_evidence hev hreport
  have hone := diagnoseContext_evidence hev (hsame.symm.trans hreport)
  -- one lookup finds the runbook and the other does not: the reports differ by one piece of evidence
  obtain ⟨hit, hhit⟩ := search_oneRunbook (top.issue ++ " " ++ top.rootCause)
  have hlength := congrArg List.length (hempty.symm.trans hone)
  rw [attachRunbook_evidence_length rfl (search_empty _), attachRunbook_evidence_length rfl hhit]
    at hlength
  simp at hlength

/-! ## Whose runbooks

The two halves together. -/

/-- **Exactly when the runbooks of other tenants stay out of the report.** The cluster is not
registered, or none of its namespaces may be looked at, or its tenant is the default one. -/
theorem runbooksIsolated_iff (registry : ClusterRegistry) (cluster : Option String) :
    RunbooksIsolated registry cluster ↔ ∀ cfg, registry.get cluster = .ok cfg →
      cfg.tenant = "default" ∨ cfg.allowedNamespaces = [] := by
  constructor
  · intro hisolated cfg hget
    by_contra h
    -- a tenant of its own and one allowed namespace: two shelves that differ on `default` are
    -- told apart
    obtain ⟨htenant, hopen⟩ := not_or.mp h
    obtain ⟨ns, rest, hns⟩ := List.exists_cons_of_ne_nil hopen
    have hallowed : cfg.namespaceAllowed ns = true := by
      rw [ClusterConfig.namespaceAllowed, hns]
      simp
    exact not_isolated hget hallowed htenant hisolated
  · intro h cfg hget w hw V sc kb kb' hshelf ns subject
    rcases h cfg hget with htenant | hclosed
    · rw [htenant] at hshelf
      rw [lookup_sameShelf hshelf]  -- the lookup sees the tenant's own shelf
    · -- no namespace is allowed, so the diagnosis ends before the lookup
      apply diagnose_closed _ hclosed
      rw [hw, hget]

/-- The runbooks of `default` show in the diagnoses of the cluster of `payments`. -/
theorem default_runbook_leaks : ¬ RunbooksIsolated
    { clusters := [{ name := "prod", tenant := "payments", auth := { mode := .kubeconfig } }] }
    (some "prod") := by
  have hallowed : ClusterConfig.namespaceAllowed
      { name := "prod", tenant := "payments", auth := { mode := .kubeconfig } } "shop" = true := rfl
  exact not_isolated rfl hallowed (by decide)

end SreAgent.Rca
