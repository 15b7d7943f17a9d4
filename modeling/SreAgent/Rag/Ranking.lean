import SreAgent.Lib.TopK
import SreAgent.Rag.Retrieve

/-!
# What the hybrid query ranks

`HYBRID_SEARCH` ranks the forty chunks nearest to the query by their hybrid score. Its purpose is
the ranking of every chunk the caller can see: an exact error string should be found even when its
vector is far off. `hybridSearch_top_iff` says when the forty are enough.

The query joins the text rank to the forty, so a chunk outside of them is not found however well its
text matches. The comparison is with the same query without the limit, up to the order of rows of
one score (`IsTop`).
-/

namespace SreAgent.Rag

open TopK (IsTop)

variable {V : Type} (sc : Scorer V) (qvec : V) (qtext : String)

/-! ## Rows and chunks

The join makes one row of each chunk, since a chunk refers to one document. So a question about the
rows of the result is one about chunks and their scores. -/

/-- The rows of the result that come from one chunk. -/
def joined (documents : List Document) (c : Chunk V) : List Hit :=
  (documents.filter fun d => d.id == c.documentId).map fun d =>
    ⟨d.title, d.source, d.url, d.severity, c.content, score sc qvec qtext c⟩

/-- The visible chunks that pass the service filter. -/
def candidates (kb : KnowledgeBase V) (tenants : List String) (service : Option String) :
    List (Chunk V) :=
  (kb.chunks.filter (visible tenants)).filter fun c => service.all fun s => c.service == some s

/-- The rows of the unpruned query. -/
def allHits (kb : KnowledgeBase V) (tenants : List String) (service : Option String) : List Hit :=
  (candidates kb tenants service).flatMap (joined sc qvec qtext kb.documents)

/-- The candidates by their vectors, nearest first. -/
def byVector (kb : KnowledgeBase V) (tenants : List String) (service : Option String) :
    List (Chunk V) :=
  (candidates kb tenants service).insertionSort fun a b =>
    sc.vscore qvec b.embedding ≤ sc.vscore qvec a.embedding

/-- **The forty are enough**: every candidate behind the fortieth has `topK` chunks among them with
a hybrid score no lower than its own. -/
def NearestSuffice (kb : KnowledgeBase V) (tenants : List String) (service : Option String)
    (topK : Nat) : Prop :=
  ∀ c ∈ (byVector sc qvec kb tenants service).drop 40,
    topK ≤ ((byVector sc qvec kb tenants service).take 40).countP fun c' =>
      score sc qvec qtext c ≤ score sc qvec qtext c'

variable {sc qvec qtext} {kb : KnowledgeBase V} {tenants : List String} {service : Option String}

/-- A chunk belongs to one document, so it makes one row. -/
theorem joined_eq {c : Chunk V} (hc : c ∈ kb.chunks) :
    ∃ hit, joined sc qvec qtext kb.documents c = [hit] ∧ hit.score = score sc qvec qtext c := by
  obtain ⟨d, hd, hid, -⟩ := kb.chunks_owned c hc
  -- the owner of a chunk is one document, since their ids are different
  have hsingle : kb.documents.filter (fun d => d.id == c.documentId) = [d] := by
    have hnodup := kb.documents_nodup
    obtain ⟨before, after, hsplit⟩ := List.append_of_mem hd
    rw [hsplit, List.map_append, List.map_cons, List.nodup_append] at hnodup
    obtain ⟨-, hafter, hdisjoint⟩ := hnodup
    have hbefore : before.filter (fun d => d.id == c.documentId) = [] := by
      rw [List.filter_eq_nil_iff]
      intro d' hd' heq
      have hne := hdisjoint d'.id (List.mem_map_of_mem hd') d.id (List.mem_cons_self ..)
      exact hne ((eq_of_beq heq).trans hid.symm)
    have hbehind : after.filter (fun d => d.id == c.documentId) = [] := by
      rw [List.filter_eq_nil_iff]
      intro d' hd' heq
      apply (List.nodup_cons.mp hafter).1
      rw [hid, ← eq_of_beq heq]
      exact List.mem_map_of_mem hd'
    rw [hsplit, List.filter_append, hbefore, List.nil_append, List.filter_cons,
      if_pos (beq_iff_eq.mpr hid), hbehind]
  refine ⟨⟨d.title, d.source, d.url, d.severity, c.content, score sc qvec qtext c⟩, ?_, rfl⟩
  rw [joined, hsingle]
  rfl

/-- What is ranked is in the base. -/
theorem mem_byVector {c : Chunk V} (hc : c ∈ byVector sc qvec kb tenants service) :
    c ∈ kb.chunks := by
  have hcandidate := (List.mem_insertionSort _).mp hc
  exact (List.mem_filter.mp (List.mem_filter.mp hcandidate).1).1

/-- Counting rows is counting chunks. -/
theorem countP_joined {chunks : List (Chunk V)} (h : ∀ c ∈ chunks, c ∈ kb.chunks) (s : ℚ) :
    ((chunks.flatMap (joined sc qvec qtext kb.documents)).countP fun hit => s ≤ hit.score) =
      chunks.countP fun c => s ≤ score sc qvec qtext c := by
  induction chunks with
  | nil => rfl
  | cons c chunks ih =>
      obtain ⟨hit, hjoin, hscore⟩ := @joined_eq V sc qvec qtext kb c (h c (List.mem_cons_self ..))
      rw [List.flatMap_cons, hjoin, List.singleton_append, List.countP_cons, List.countP_cons,
        ih fun c' hc' => h c' (List.mem_cons_of_mem _ hc'), hscore]

/-- Each row of the pruned chunks has the score of a pruned chunk, and the other way round. -/
theorem forall_joined {chunks : List (Chunk V)} (h : ∀ c ∈ chunks, c ∈ kb.chunks) (p : ℚ → Prop) :
    (∀ hit ∈ chunks.flatMap (joined sc qvec qtext kb.documents), p hit.score) ↔
      ∀ c ∈ chunks, p (score sc qvec qtext c) := by
  constructor  -- each chunk is one hit, with its own score
  · intro hall c hc
    obtain ⟨hit, hjoin, hscore⟩ := @joined_eq V sc qvec qtext kb c (h c hc)
    rw [← hscore]
    apply hall hit
    rw [List.mem_flatMap]
    exact ⟨c, hc, by rw [hjoin]; exact List.mem_cons_self ..⟩
  · intro hall hit hhit
    obtain ⟨c, hc, hmem⟩ := List.mem_flatMap.mp hhit
    obtain ⟨hit', hjoin, hscore⟩ := @joined_eq V sc qvec qtext kb c (h c hc)
    rw [hjoin, List.mem_singleton] at hmem
    rw [hmem, hscore]
    exact hall c hc

/-- **Exactly when the hybrid query is the hybrid ranking.** For every base, scores, tenants,
service and number of rows: what the query returns are the first rows of the ranking of all visible
chunks iff the forty nearest are enough. -/
theorem hybridSearch_top_iff (sc : Scorer V) (qvec : V) (qtext : String) (kb : KnowledgeBase V)
    (tenants : List String) (service : Option String) (topK : Nat) :
    IsTop Hit.score topK (allHits sc qvec qtext kb tenants service)
        (hybridSearch sc qvec qtext service topK (kb.chunks.filter (visible tenants)) kb.documents) ↔
      NearestSuffice sc qvec qtext kb tenants service topK := by
  -- the rows of all candidates are those of the forty and those behind
  have hperm := List.perm_insertionSort
    (fun a b : Chunk V => sc.vscore qvec b.embedding ≤ sc.vscore qvec a.embedding)
    (candidates kb tenants service)
  have hwhole : (allHits sc qvec qtext kb tenants service).Perm
      (((byVector sc qvec kb tenants service).take 40).flatMap
          (joined sc qvec qtext kb.documents) ++
        ((byVector sc qvec kb tenants service).drop 40).flatMap
          (joined sc qvec qtext kb.documents)) := by
    rw [← List.flatMap_append, List.take_append_drop]
    exact (hperm.flatMap_right _).symm
  have hkept : ∀ c ∈ (byVector sc qvec kb tenants service).take 40, c ∈ kb.chunks :=
    fun c hc => mem_byVector (List.mem_of_mem_take hc)
  have hcut : ∀ c ∈ (byVector sc qvec kb tenants service).drop 40, c ∈ kb.chunks :=
    fun c hc => mem_byVector (List.mem_of_mem_drop hc)
  have hrows : IsTop Hit.score topK
      (((byVector sc qvec kb tenants service).take 40).flatMap (joined sc qvec qtext kb.documents))
      (hybridSearch sc qvec qtext service topK (kb.chunks.filter (visible tenants))
        kb.documents) := TopK.isTop_sort _
  rw [TopK.isTop_pruned_iff hwhole hrows, NearestSuffice]
  simp only [countP_joined hkept]
  exact forall_joined hcut fun s =>
    topK ≤ ((byVector sc qvec kb tenants service).take 40).countP fun c' =>
      s ≤ score sc qvec qtext c'

/-! ## A drifted chunk

The case that the hybrid score is meant for, with one chunk too many in front of it. -/

/-- Forty chunks about restarts, and one that has the error string but a vector farther off. -/
def driftedBase : KnowledgeBase ℚ where
  documents := [{ id := 1, source := "runbook", title := "triage" }]
  chunks := (List.range 41).map fun i =>
    { id := i
      documentId := 1
      ordinal := i
      content := if i = 40 then "ImagePullBackOff" else "restart the pod"
      embedding := if i = 40 then 2 / 5 else 1 / 2
      tenant := "default"
      service := none }
  nextDocument := 2
  nextChunk := 41
  documents_nodup := List.nodup_singleton _
  documents_below := List.forall_mem_singleton.mpr Nat.one_lt_two
  chunks_nodup := by
    rw [List.map_map]
    exact (List.map_id (List.range 41)).symm ▸ List.nodup_range
  chunks_below := List.forall_mem_map.mpr fun _ hi => List.mem_range.mp hi
  chunks_owned := List.forall_mem_map.mpr fun _ _ => ⟨_, List.mem_singleton.mpr rfl, rfl, rfl⟩

/-- Chunks are embedded as their similarity to any query; a chunk matches its own text. -/
def exactScorer : Scorer ℚ where
  embedQuery _ := .ok 0
  vscore _ chunk := chunk
  lscore query content := if content = query then some 1 else none

/-- The chunk with the error string has by far the best hybrid score, and is not found. -/
theorem drifted_not_found :
    ¬ IsTop Hit.score 1 (allHits exactScorer 0 "ImagePullBackOff" driftedBase ["default"] none)
        (hybridSearch exactScorer 0 "ImagePullBackOff" none 1
          (driftedBase.chunks.filter (visible ["default"])) driftedBase.documents) := by
  have hrows : hybridSearch exactScorer 0 "ImagePullBackOff" none 1
      (driftedBase.chunks.filter (visible ["default"])) driftedBase.documents =
      [⟨"triage", "runbook", none, none, "restart the pod", 7 / 20⟩] := by decide +kernel
  have hbest : ⟨"triage", "runbook", none, none, "ImagePullBackOff", 29 / 50⟩ ∈
      allHits exactScorer 0 "ImagePullBackOff" driftedBase ["default"] none := by decide +kernel
  rw [hrows]
  intro h
  have hle := h.le_of_notMem (List.mem_singleton.mpr rfl) hbest (by decide)
  exact absurd hle (by decide +kernel)

end SreAgent.Rag
