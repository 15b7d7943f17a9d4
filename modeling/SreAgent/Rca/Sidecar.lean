import SreAgent.Lib.StableSort
import SreAgent.Rca.Signals

/-!
# The sidecar's diagnosis

A proxy that was OOM-killed, or whose image cannot be pulled, is seen by two detectors: one for the
failure in general, and one for the sidecar, which is to be ranked first. The confidences are chosen
for that, but the general hypothesis may gain some more, and of equals the one registered first is
ranked first (`sidecarWins_iff`).

Confidences are constants, with a bonus in some branches: 91 against 90 or 95 for memory, 88 against
88 or 92 for images. So the ranking is a matter of which bonus applies, and of the order of
registration where the numbers agree.
-/

namespace SreAgent.Rca

open scoped List

variable {ctx : Context} {proxy : ContainerInfo}

/-! ## Two hypotheses about one container

The failure must be the proxy's alone. Another container with the same failure would justify the
general hypothesis. -/

/-- `istio-proxy` is there, and not ready. -/
structure SidecarDown (ctx : Context) (proxy : ContainerInfo) : Prop where
  found    : (ctx.describe.containers.find? fun c => c.name == "istio-proxy") = some proxy
  notReady : proxy.ready ≠ some true

/-- The container was killed for its memory. -/
def ContainerInfo.OomKilled (c : ContainerInfo) : Prop := c.lastTerminatedReason = some "OOMKilled"

/-- The container waits for its image. -/
def ContainerInfo.WaitsForImage (c : ContainerInfo) : Prop :=
  c.waitingReason = some "ImagePullBackOff" ∨ c.waitingReason = some "ErrImagePull"

instance (c : ContainerInfo) : Decidable c.WaitsForImage := inferInstanceAs (Decidable (_ ∨ _))

/-- The proxy has the failure, and no other container. -/
def Only (ctx : Context) (failure : ContainerInfo → Prop) (proxy : ContainerInfo) : Prop :=
  failure proxy ∧ ∀ c ∈ ctx.describe.containers, failure c → c = proxy

/-- The sidecar's hypothesis is ranked before the one about the issues. -/
def RankedBefore (ctx : Context) (issues : List String) : Prop :=
  ∃ a b, a.issue = "Istio Sidecar Not Ready" ∧ b.issue ∈ issues ∧ [a, b] <+ evaluate ctx

/-- The more specific diagnosis wins: where the proxy alone was killed or waits for its image, its
own hypothesis is ranked before the general one for the same symptom. -/
def SidecarWins (ctx : Context) : Prop :=
  ∀ proxy, SidecarDown ctx proxy →
    (Only ctx ContainerInfo.OomKilled proxy → RankedBefore ctx ["OOMKilled"]) ∧
      (Only ctx ContainerInfo.WaitsForImage proxy →
        RankedBefore ctx ["ErrImagePull", "ImagePullBackOff"])

/-! ## Ranks

`evaluate` is a stable sort, and `issuesByDetector` tells which hypothesis comes from which
detector. So a question about ranks is one about confidences and positions. -/

/-- Of two hypotheses the more confident one is ranked first, and of equals the one whose detector is
registered first. -/
theorem pair_sublist_evaluate_iff {a b : Hypothesis} (hne : a ≠ b) (ha : a ∈ evaluate ctx)
    (hb : b ∈ evaluate ctx) :
    [a, b] <+ evaluate ctx ↔ b.confidence < a.confidence ∨
      a.confidence = b.confidence ∧ [a, b] <+ allDetectors.filterMap fun d => d ctx := by
  rw [evaluate, List.mem_insertionSort] at ha hb
  exact StableSort.pair_sublist_rank_iff (reported_nodup ctx) hne ha hb

/-- The sidecar's detector is registered behind that of a general failure. -/
theorem sidecar_registered_behind {d : Context → Option Hypothesis} (hd : d ∈ allDetectors.take 12)
    {a b : Hypothesis} (ha : istioSidecarNotReady ctx = some a) (hb : d ctx = some b) :
    [b, a] <+ allDetectors.filterMap fun d => d ctx := by
  have hpair : [d, istioSidecarNotReady] <+ allDetectors := by
    rw [← List.take_append_drop 12 allDetectors]
    have hback : [istioSidecarNotReady] <+ allDetectors.drop 12 :=
      List.singleton_sublist.mpr (by simp [allDetectors])
    exact (List.singleton_sublist.mpr hd).append hback
  have hfires := hpair.filterMap fun d => d ctx
  simpa [ha, hb] using hfires

/-- **Where both are reported** the sidecar's hypothesis is ranked first iff it is more confident. -/
theorem rankedBefore_iff {d : Context → Option Hypothesis} {issues : List String}
    (hlisted : (d, issues) ∈ issuesByDetector) (hd : d ∈ allDetectors.take 12)
    (hother : "Istio Sidecar Not Ready" ∉ issues) {a b : Hypothesis}
    (ha : istioSidecarNotReady ctx = some a) (hb : d ctx = some b) :
    RankedBefore ctx issues ↔ b.confidence < a.confidence := by
  have hsidecar : (istioSidecarNotReady, ["Istio Sidecar Not Ready"]) ∈ issuesByDetector := by
    simp [issuesByDetector]
  have hissue : a.issue = "Istio Sidecar Not Ready" :=
    List.mem_singleton.mp (istioSidecarNotReady_yields ctx a ha).issue
  have hissue' : b.issue ∈ issues := reports_all _ hlisted ctx b hb
  have hne : a ≠ b := by
    rintro rfl
    exact hother (hissue ▸ hissue')
  have hmem : a ∈ evaluate ctx := mem_evaluate.mpr ⟨_, by simp [allDetectors], ha⟩
  have hmem' : b ∈ evaluate ctx := mem_evaluate.mpr ⟨d, List.mem_of_mem_take hd, hb⟩
  constructor
  · rintro ⟨a', b', ha', hb', hpair⟩
    have hin : a' ∈ evaluate ctx := hpair.subset List.mem_cons_self
    have hin' : b' ∈ evaluate ctx := hpair.subset (List.mem_cons_of_mem _ List.mem_cons_self)
    -- an issue names its detector, so these are the two
    have hfire := detector_of_issue hin hsidecar (List.mem_singleton.mpr ha')
    have hfire' := detector_of_issue hin' hlisted hb'
    obtain rfl : a' = a := Option.some.inj (hfire.symm.trans ha)
    obtain rfl : b' = b := Option.some.inj (hfire'.symm.trans hb)
    rcases (pair_sublist_evaluate_iff hne hmem hmem').mp hpair with hlt | ⟨-, hfront⟩
    · exact hlt
    · exact absurd (sidecar_registered_behind hd ha hb)
        (StableSort.not_pair_sublist (reported_nodup ctx) hfront)
  · intro hlt
    exact ⟨a, b, hissue, hissue', (pair_sublist_evaluate_iff hne hmem hmem').mpr (.inl hlt)⟩

/-! ## Confidences

Each detector at such a context, with the confidence it then has. -/

/-- The sidecar's detector goes by the proxy's own state. -/
theorem sidecar_fires (h : SidecarDown ctx proxy) :
    ∃ a, istioSidecarNotReady ctx = some a ∧ a.confidence =
      if proxy.lastTerminatedReason = some "OOMKilled" then 91
      else if proxy.WaitsForImage then 88 else 80 := by
  unfold istioSidecarNotReady
  rw [h.found]
  dsimp only
  rw [if_neg h.notReady]
  refine ⟨_, rfl, ?_⟩
  simp only [apply_ite Hypothesis.confidence]
  rfl

/-- The one for memory has a bonus for a rising trend, and the one for images, which finds the
proxy's reason, for a message that says why. -/
theorem oom_fires (h : SidecarDown ctx proxy) (hoom : proxy.OomKilled) :
    ∃ b, oomKilled ctx = some b ∧ b.confidence = if ctx.memoryTrendRising then 95 else 90 := by
  have hproxy := List.mem_of_find?_eq_some h.found
  -- the proxy is one of the containers that the detector goes through
  have hlast : (ctx.describe.containers.map ContainerInfo.lastTerminatedReason ++
      ctx.pods.map PodInfo.lastTerminated).contains (some "OOMKilled") = true := by
    rw [List.contains_iff_mem]
    exact List.mem_append_left _ (List.mem_map.mpr ⟨proxy, hproxy, hoom⟩)
  unfold oomKilled
  dsimp only
  rw [hlast, if_neg (by decide)]
  exact ⟨_, rfl, apply_ite Hypothesis.confidence _ _ _⟩

theorem pull_hits (h : SidecarDown ctx proxy) (hwaits : proxy.WaitsForImage) :
    hits ctx ["ErrImagePull", "ImagePullBackOff"] ≠ [] := by
  have hproxy := List.mem_of_find?_eq_some h.found
  -- its reason is among the waiting reasons of the context
  have hreason : ∀ r, r ≠ "" → proxy.waitingReason = some r → r ∈ waitingReasons ctx := by
    intro r hr hwaiting
    apply List.mem_append_left
    refine List.mem_filterMap.mpr ⟨proxy, hproxy, ?_⟩
    simp [nonEmpty, hwaiting, hr]
  rcases hwaits with hwaiting | hwaiting
  · exact List.ne_nil_of_mem (List.mem_filter.mpr ⟨by simp,
      List.contains_iff_mem.mpr (hreason "ImagePullBackOff" (by decide) hwaiting)⟩)
  · exact List.ne_nil_of_mem (List.mem_filter.mpr ⟨by simp,
      List.contains_iff_mem.mpr (hreason "ErrImagePull" (by decide) hwaiting)⟩)

theorem pull_fires (h : SidecarDown ctx proxy) (hwaits : proxy.WaitsForImage) :
    ∃ b, imagePull ctx = some b ∧
      b.confidence = if pullKnown (pullEvents ctx.events) then 92 else 88 := by
  obtain ⟨hit, rest, hcons⟩ := List.exists_cons_of_ne_nil (pull_hits h hwaits)
  have hkey := @imagePull_key ctx
  rw [signals_frontal, frontal_pull, signals_positional, positional_pullKnown, hcons,
    List.head?_cons, Option.map_some] at hkey
  generalize pullKnown (pullEvents ctx.events) = known at hkey ⊢
  obtain ⟨b, hb, hpair⟩ := Option.map_eq_some_iff.mp hkey
  exact ⟨b, hb, (Prod.mk.inj hpair).2⟩

/-! ## Which of them is ranked first

The numbers, compared. -/

/-- 91 against 90 or 95, and 91 or 88 against 88 or 92. -/
theorem beforeOom_iff (h : SidecarDown ctx proxy) (hoom : proxy.OomKilled) :
    RankedBefore ctx ["OOMKilled"] ↔ ctx.memoryTrendRising = false := by
  obtain ⟨a, ha, hconf⟩ := sidecar_fires h
  obtain ⟨b, hb, hconf'⟩ := oom_fires h hoom
  rw [ContainerInfo.OomKilled] at hoom
  rw [rankedBefore_iff (d := oomKilled) (by simp [issuesByDetector]) (by simp [allDetectors])
    (by decide) ha hb, hconf, hconf', if_pos hoom]
  cases ctx.memoryTrendRising <;> simp

theorem beforePull_iff (h : SidecarDown ctx proxy) (hwaits : proxy.WaitsForImage) :
    RankedBefore ctx ["ErrImagePull", "ImagePullBackOff"] ↔
      proxy.OomKilled ∧ pullKnown (pullEvents ctx.events) = false := by
  obtain ⟨a, ha, hconf⟩ := sidecar_fires h
  obtain ⟨b, hb, hconf'⟩ := pull_fires h hwaits
  rw [rankedBefore_iff (d := imagePull) (by simp [issuesByDetector]) (by simp [allDetectors])
    (by decide) ha hb, hconf, hconf', if_pos hwaits, ContainerInfo.OomKilled]
  generalize pullKnown (pullEvents ctx.events) = known
  -- `image_pull` is registered first, so 88 against 88 is not enough
  by_cases hoom : proxy.lastTerminatedReason = some "OOMKilled" <;> cases known <;> simp [hoom]

/-- **The sidecar's diagnosis wins** over that of an OOM kill iff the memory was not seen to rise, and
over that of an image iff the proxy was OOM-killed as well and no event says why the image cannot be
pulled. -/
theorem sidecarWins_iff (ctx : Context) : SidecarWins ctx ↔
    ∀ proxy, SidecarDown ctx proxy →
      (Only ctx ContainerInfo.OomKilled proxy → ctx.memoryTrendRising = false) ∧
        (Only ctx ContainerInfo.WaitsForImage proxy →
          proxy.OomKilled ∧ pullKnown (pullEvents ctx.events) = false) := by
  constructor
  · intro h proxy hdown
    obtain ⟨hoom, hpull⟩ := h proxy hdown
    exact ⟨fun honly => (beforeOom_iff hdown honly.1).mp (hoom honly),
      fun honly => (beforePull_iff hdown honly.1).mp (hpull honly)⟩
  · intro h proxy hdown
    obtain ⟨hoom, hpull⟩ := h proxy hdown
    exact ⟨fun honly => (beforeOom_iff hdown honly.1).mpr (hoom honly),
      fun honly => (beforePull_iff hdown honly.1).mpr (hpull honly)⟩

/-- The proxy waits for its image, and nothing else is known. -/
def pullingProxy : Context :=
  { describe :=
      { containers := [{ name := "istio-proxy", waitingReason := some "ImagePullBackOff" }] } }

/-- 88 against 88: the hypothesis about the image is ranked first. -/
theorem pullingProxy_generic : ¬ SidecarWins pullingProxy := by
  intro hwins
  have hdown : SidecarDown pullingProxy
      { name := "istio-proxy", waitingReason := some "ImagePullBackOff" } :=
    ⟨rfl, by decide⟩
  have honly : Only pullingProxy ContainerInfo.WaitsForImage
      { name := "istio-proxy", waitingReason := some "ImagePullBackOff" } :=
    ⟨.inl rfl, fun c hc _ => List.mem_singleton.mp hc⟩
  -- the condition asks for a proxy that was killed, and this one only waits
  have hoom := ((beforePull_iff hdown honly.1).mp ((hwins _ hdown).2 honly)).1
  exact absurd hoom nofun

end SreAgent.Rca
