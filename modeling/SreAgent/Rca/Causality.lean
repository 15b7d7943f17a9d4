import SreAgent.Rca.Absence
import SreAgent.Rca.Credit
import SreAgent.Rca.Rollback

/-!
# Whether what is blamed came first

A crash loop on rejected credentials blames the secret that was changed last before the failure, and
the failure is dated by the events kept for the subject: each by its last occurrence. A secret that
was changed between the first occurrence of a warning and the moment the failure is dated at is
blamed for what began before it (`causal_iff`).

Kubernetes keeps one event for a repeated warning, with the time it was first and last seen. `_fmt`
takes the last. A failure that goes on is therefore dated ever later, and a repair made in the
meantime comes to lie before it.
-/

namespace SreAgent.Rca

open Kube (Client Timestamp)
open Py (DateTime)

/-! ## What is credited

Only a crash loop on rejected credentials names a secret, and it names the one change that
`find_recent_change` has returned. So what is credited can be read off two things. -/

/-- Its evidence says that a secret was changed at `t`. -/
def CreditsAt (h : Hypothesis) (t : DateTime) : Prop :=
  ∃ e ∈ h.evidence, ∃ name : String, e.source = "k8s" ∧
    e.summary = s!"Secret {name} changed {e.timestamp} before crash" ∧
    parse (some e.timestamp) = some t

/-- A crash loop whose logs say that the credentials were rejected. -/
def CredentialsRejected (ctx : Context) : Prop :=
  isCrashlooping ctx = true ∧ Py.containsAny (allLogs ctx) dnsSpecific = false ∧
    Py.containsAny (allLogs ctx) dbAuth = true

/-- Other hypotheses cite no change. -/
theorem Uncredited.not_creditsAt {h : Hypothesis} (hh : Uncredited h) (t : DateTime) :
    ¬ CreditsAt h t := by
  rintro ⟨e, he, -, hsource, -, hparse⟩
  rw [hh.undated e he hsource] at hparse
  cases hparse

/-- On rejected credentials the crash loop takes its branch for them. -/
theorem crashloop_rejected {ctx : Context} (h : CredentialsRejected ctx) :
    crashloopDbConnection ctx =
      some (creditRelease ctx.recentChange (crashloopAuth ctx.recentChange genericCrashloop)) := by
  obtain ⟨hloop, hdns, hauth⟩ := h
  exact crashloopDbConnection_iff.mpr (.auth hloop hdns hauth)

/-- Rejected credentials are put down to the change of the secret. -/
theorem crashloopAuth_creditsAt {c : Change} (hkind : c.kind = .secret) {t : DateTime} :
    CreditsAt (crashloopAuth (some c) genericCrashloop) t ↔ parse (some c.at_) = some t := by
  constructor
  · rintro ⟨e, he, name, hsource, hsummary, hparse⟩
    rw [crashloopAuth_secret hkind] at he
    simp only [List.mem_cons, List.not_mem_nil, or_false] at he
    rcases he with rfl | rfl | rfl
    · cases hparse
    · cases hparse
    · exact hparse
  · intro hparse
    refine ⟨secretEvidence c, ?_, Py.showOpt c.name, rfl, rfl, hparse⟩
    rw [crashloopAuth_secret hkind]
    simp

/-- **When a secret is credited**: where no release is in play, exactly the secret that changed
recently, for rejected credentials. -/
theorem creditsAt_iff {ctx : Context} (hsecret : ∀ c ∈ ctx.recentChange, c.kind = .secret)
    {t : DateTime} :
    (∃ h ∈ evaluate ctx, CreditsAt h t) ↔
      CredentialsRejected ctx ∧ ∃ c, ctx.recentChange = some c ∧ parse (some c.at_) = some t := by
  constructor
  · rintro ⟨h, hh, hcredits⟩
    rcases crashloop_or_uncredited hh with hd | hother
    · cases crashloopDbConnection_iff.mp hd with
      -- of the branches only the one for credentials cites a secret
      | generic => exact absurd hcredits (genericCrashloop_uncredited.not_creditsAt t)
      | auth hloop hdns hauth =>
          rw [creditRelease_secret hsecret] at hcredits
          refine ⟨⟨hloop, hdns, hauth⟩, ?_⟩
          cases hchange : ctx.recentChange with
          | none =>
              rw [hchange] at hcredits
              exact absurd hcredits ((crashloopAuth_other (by simp)).not_creditsAt t)
          | some c =>
              rw [hchange] at hcredits
              exact ⟨c, rfl, (crashloopAuth_creditsAt (hsecret c hchange)).mp hcredits⟩
      | reach =>
          rw [creditRelease_secret hsecret] at hcredits
          exact absurd hcredits ((crashloopReach_uncredited _ _).not_creditsAt t)
    · exact absurd hcredits (hother.not_creditsAt t)
  · rintro ⟨hrejected, c, hc, hparse⟩
    have hd := crashloop_rejected hrejected
    rw [creditRelease_secret hsecret, hc] at hd
    exact ⟨_, mem_evaluate.mpr ⟨_, List.mem_cons_self .., hd⟩,
      (crashloopAuth_creditsAt (hsecret c hc)).mpr hparse⟩

/-! ## When the failure is dated

The anchor is the earlier one of two times, each of which may be missing. It is described by the
moments that are not after it, which turns a minimum into a conjunction and needs no case for what
is missing. -/

/-- The time of an event's last occurrence, as far as the code is concerned. -/
def lastSeen (e : Kube.Event) : Option Timestamp := e.lastTimestamp.or e.eventTime

/-- The times of the kept warnings are those of their last occurrences. -/
theorem mem_warningTimes {subject : String} {podNames : List String} {events : List Kube.Event}
    {d : DateTime} :
    d ∈ warningTimes (selectEvents subject podNames events) ↔
      ∃ e ∈ events, relevant subject podNames (e.involvedName.getD "") = true ∧
        e.type = some "Warning" ∧ ∃ l, lastSeen e = some l ∧ l.value = d := by
  -- the time an event is given is that of its last occurrence, printed and parsed again
  have hstamp : ∀ e : Kube.Event,
      (eventInfo e).timestamp = ((lastSeen e).map Timestamp.isoformat).getD "" := fun _ => rfl
  constructor
  · intro hd
    obtain ⟨i, hi, hparse⟩ := List.mem_filterMap.mp hd
    obtain ⟨hi, hcond⟩ := List.mem_filter.mp hi
    obtain ⟨e, he, rfl⟩ := List.mem_map.mp hi
    obtain ⟨he, hrelevant⟩ := List.mem_filter.mp he
    have hwarning : (eventInfo e).type = some "Warning" := by
      simp only [Bool.and_eq_true, beq_iff_eq] at hcond
      exact hcond.1
    refine ⟨e, he, hrelevant, hwarning, ?_⟩
    rw [hstamp] at hparse
    cases hl : lastSeen e with
    | none =>
        rw [hl] at hparse
        cases hparse
    | some l =>
        rw [hl] at hparse
        exact ⟨l, rfl, Option.some.inj ((parse_isoformat l).symm.trans hparse)⟩
  · rintro ⟨e, he, hrelevant, hwarning, l, hl, rfl⟩
    have hstamp : (eventInfo e).timestamp = l.isoformat := by rw [hstamp, hl]; rfl
    have hparse := parse_isoformat l
    refine List.mem_filterMap.mpr ⟨eventInfo e, List.mem_filter.mpr ⟨?_, ?_⟩, hstamp ▸ hparse⟩
    · exact List.mem_map_of_mem (List.mem_filter.mpr ⟨he, hrelevant⟩)
    · have hne : (eventInfo e).timestamp ≠ "" := by
        intro hempty
        rw [← hstamp, hempty] at hparse
        cases hparse
      have htype : (eventInfo e).type = some "Warning" := hwarning
      simp [hne, htype]

/-- The earliest of the kept warnings, each taken at its last occurrence. -/
theorem firstFailureTime_spec {subject : String} {podNames : List String}
    {events : List Kube.Event} {o : Option DateTime}
    (h : firstFailureTime (selectEvents subject podNames events) = .ok o) (t : ℤ) :
    (∀ d ∈ o, t ≤ d.instant) ↔
      ∀ e ∈ events, relevant subject podNames (e.involvedName.getD "") = true →
        e.type = some "Warning" → ∀ l, lastSeen e = some l → t ≤ l.value.instant := by
  rw [firstFailureTime_eq (aware_selectEvents subject podNames events)] at h
  obtain rfl := Except.ok.inj h
  refine StableSort.le_head_sort.trans ?_  -- the first of a sorted list is a lower bound of it
  constructor
  · intro hall e he hrelevant hwarning l hl
    exact hall l.value (mem_warningTimes.mpr ⟨e, he, hrelevant, hwarning, l, hl, rfl⟩)
  · intro hall d hd
    obtain ⟨e, he, hrelevant, hwarning, l, hl, rfl⟩ := mem_warningTimes.mp hd
    exact hall e he hrelevant hwarning l hl

variable {cl : Client} {ns subject : String}

/-- The warnings kept for the subject. -/
def keptWarnings (cl : Client) (ns subject : String) : List Kube.Event :=
  (resultsOf cl ns subject).events.filter fun e =>
    relevant subject (podNamesOf cl ns subject) (e.involvedName.getD "") && e.type == some "Warning"

/-- A kept warning was read, is about the subject, and warns. -/
theorem mem_keptWarnings {e : Kube.Event} :
    e ∈ keptWarnings cl ns subject ↔ e ∈ (resultsOf cl ns subject).events ∧
      relevant subject (podNamesOf cl ns subject) (e.involvedName.getD "") = true ∧
      e.type = some "Warning" := by
  rw [keptWarnings, List.mem_filter, Bool.and_eq_true, beq_iff_eq]

/-- When the first pod of the subject started, if one of its pods is crashing. -/
def crashStart (cl : Client) (ns subject : String) : Option Timestamp :=
  if crashingSinceStart (subjectView cl ns subject).pods then
    podStartTime (cl.namespaces ns).pods (targetPod (podNamesOf cl ns subject))
  else none

/-- A moment that is not after the failure: no kept warning was last seen before it, nor has the
first pod started before it, if they crash. With nothing to date the failure by, it is now. -/
structure BeforeFailure (cl : Client) (ns subject : String) (now : Timestamp) (t : ℤ) : Prop where
  warnings : ∀ e ∈ keptWarnings cl ns subject, ∀ l, lastSeen e = some l → t ≤ l.value.instant
  start    : ∀ s, crashStart cl ns subject = some s → t ≤ s.value.instant
  undated  : (∀ e ∈ keptWarnings cl ns subject, lastSeen e = none) →
    crashStart cl ns subject = none → t ≤ now.value.instant

/-- Not after the earlier of two is not after either. -/
theorem earlier_inv {d e m : DateTime} (h : earlier d e = .ok m) (t : ℤ) :
    t ≤ m.instant ↔ t ≤ d.instant ∧ t ≤ e.instant := by
  obtain ⟨b, hb, h⟩ := bind_ok h
  rw [notAfter_inv hb] at h
  by_cases hle : d.instant ≤ e.instant
  · simp only [hle, decide_true, if_true] at h
    obtain rfl := Except.ok.inj h
    omega
  · simp only [hle, decide_false, Bool.false_eq_true, if_false] at h
    obtain rfl := Except.ok.inj h
    omega

/-- The failure is dated by the two times, where there are any. -/
theorem forall_anchor_iff {anchor : Option DateTime} (h : anchorOf cl ns subject = .ok anchor) (t : ℤ) :
    (∀ d ∈ anchor, t ≤ d.instant) ↔
      (∀ e ∈ keptWarnings cl ns subject, ∀ l, lastSeen e = some l → t ≤ l.value.instant) ∧
        ∀ s, crashStart cl ns subject = some s → t ≤ s.value.instant := by
  obtain ⟨seen, hseen, h⟩ := bind_ok h
  have hwarnings : (∀ d ∈ seen, t ≤ d.instant) ↔
      ∀ e ∈ keptWarnings cl ns subject, ∀ l, lastSeen e = some l → t ≤ l.value.instant := by
    rw [firstFailureTime_spec hseen t]
    simp only [mem_keptWarnings, and_imp]
  rw [← hwarnings]
  unfold crashStart
  change (if crashingSinceStart (subjectView cl ns subject).pods = true then _ else _) = _ at h
  split at h
  · -- a pod that has crashed since it started counts from its start
    next hcrashing =>
    rw [if_pos hcrashing]
    generalize podStartTime (cl.namespaces ns).pods (targetPod (podNamesOf cl ns subject)) = start at *
    cases start with
    | none =>
        obtain rfl := Except.ok.inj h
        simp
    | some s =>
        cases seen with
        | none =>
            obtain rfl := Except.ok.inj h
            simp
        | some d =>
            obtain ⟨m, hm, h⟩ := bind_ok h
            obtain rfl := Except.ok.inj h
            simpa using earlier_inv hm t
  · -- otherwise the warnings alone decide
    next hcalm =>
    rw [if_neg hcalm]
    obtain rfl := Except.ok.inj h
    simp

/-- With nothing to date the failure by, there is no anchor, and conversely. -/
theorem anchor_eq_none_iff {anchor : Option DateTime} (h : anchorOf cl ns subject = .ok anchor) :
    anchor = none ↔
      (∀ e ∈ keptWarnings cl ns subject, lastSeen e = none) ∧ crashStart cl ns subject = none := by
  constructor
  · rintro rfl
    -- otherwise there would be a bound
    have hbound := fun t => (forall_anchor_iff h t).mp (by simp)
    constructor
    · intro e he
      cases hl : lastSeen e with
      | none => rfl
      | some l =>
          have := (hbound (l.value.instant + 1)).1 e he l hl
          omega
    · cases hs : crashStart cl ns subject with
      | none => rfl
      | some s =>
          have := (hbound (s.value.instant + 1)).2 s hs
          omega
  · rintro ⟨hundated, hcalm⟩
    cases anchor with
    | none => rfl
    | some d =>
        -- nothing would bound the anchor
        have hlater := (forall_anchor_iff h (d.instant + 1)).mpr ⟨?_, ?_⟩ d rfl
        · omega
        · intro e he l hl
          rw [hundated e he] at hl
          cases hl
        · intro s hs
          rw [hcalm] at hs
          cases hs

/-- **What is not after the failure anchor** happened before the failure: not after a warning that
is kept, not after the start of the crash, and by now if there is neither. -/
theorem le_anchor_iff {anchor : Option DateTime} (h : anchorOf cl ns subject = .ok anchor)
    (now : Timestamp) (t : ℤ) :
    t ≤ (anchor.getD now.value).instant ↔ BeforeFailure cl ns subject now t := by
  have hboth := forall_anchor_iff h t
  have hnone := anchor_eq_none_iff h
  cases anchor with
  | some d =>
      constructor
      · intro hle
        obtain ⟨hw, hs⟩ := hboth.mp fun d' hd' => Option.some.inj hd' ▸ hle
        exact ⟨hw, hs, fun hundated hcalm => absurd (hnone.mpr ⟨hundated, hcalm⟩) (by simp)⟩
      · intro hbefore
        exact hboth.mpr ⟨hbefore.warnings, hbefore.start⟩ d rfl
  | none =>  -- nothing is dated, so it is now that counts
      obtain ⟨hw, hs⟩ := hboth.mp (by simp)
      obtain ⟨hundated, hcalm⟩ := hnone.mp rfl
      constructor
      · intro hle
        exact ⟨hw, hs, fun _ _ => hle⟩
      · intro hbefore
        exact hbefore.undated hundated hcalm

/-! ## The secrets that were read

A secret's time is that of the last manager that wrote it, or of its creation. A secret without
either plays no part. -/

/-- When a secret was changed last. -/
def changedAt (s : Kube.Secret) : Option Timestamp :=
  match s.managedFieldTimes.filterMap id with
  | t :: ts => some (ts.foldl later t)
  | []      => s.creationTimestamp

/-- The time is printed and parsed again, and comes back. -/
theorem parse_lastChangeTime (s : Kube.Secret) :
    parse (some (lastChangeTime s)) = (changedAt s).map Timestamp.value := by
  show parse (some (((changedAt s).map Timestamp.isoformat).getD "")) = _
  cases changedAt s with
  | none => rfl
  | some t => exact parse_isoformat t

/-- The secrets of the namespace, if they could be read. -/
def readSecrets (cl : Client) (ns : String) : List Kube.Secret :=
  if (cl.faults .secrets).isNone then (cl.namespaces ns).secrets else []

/-- What the fan-out found of the secrets. -/
theorem results_secrets : (resultsOf cl ns subject).secrets = secretChangesOf (readSecrets cl ns) := by
  show (degrade "secrets" [] ((cl.attempt .secrets (.ok (cl.namespaces ns).secrets)).map
    secretChangesOf)).1 = _
  unfold Client.attempt readSecrets
  cases cl.faults .secrets <;> rfl

/-- The known changes of a collected context, by their times. -/
theorem exists_known_iff {ctx : Context} {failure : DateTime} {t : ℤ}
    (hsecrets : ctx.secretChanges = secretChangesOf (readSecrets cl ns)) :
    (∃ c ∈ known ctx failure .secret, c.instant = t) ↔
      (∃ s ∈ readSecrets cl ns, ∃ at_, changedAt s = some at_ ∧ at_.value.instant = t) ∧
        t ≤ failure.instant := by
  constructor
  · rintro ⟨c, hc, rfl⟩
    obtain ⟨x, hx, hxc⟩ := List.mem_filterMap.mp hc
    obtain ⟨t, ht, hle, rfl⟩ := knownAt_eq_some.mp hxc
    rw [hsecrets] at hx
    obtain ⟨s, hs, rfl⟩ := List.mem_map.mp hx
    change parse (some (lastChangeTime s)) = some t at ht
    rw [parse_lastChangeTime] at ht
    obtain ⟨at_, hat, rfl⟩ := Option.map_eq_some_iff.mp ht
    exact ⟨⟨s, (List.mem_filter.mp hs).1, at_, hat, rfl⟩, hle⟩
  · rintro ⟨⟨s, hs, at_, hat, rfl⟩, hle⟩
    have hparse : parse (some (lastChangeTime s)) = some at_.value := by
      rw [parse_lastChangeTime, hat]
      rfl
    have hne : lastChangeTime s ≠ "" := by  -- a secret without a time is not listed
      intro hempty
      rw [hempty] at hparse
      cases hparse
    have hx : (⟨some s.name, some (lastChangeTime s)⟩ : SecretChange) ∈ ctx.secretChanges := by
      rw [hsecrets]
      exact List.mem_map_of_mem (List.mem_filter.mpr ⟨hs, bne_iff_ne.mpr hne⟩)
    refine ⟨_, List.mem_filterMap.mpr ⟨_, hx, knownAt_eq_some.mpr ⟨at_.value, hparse, hle, rfl⟩⟩, rfl⟩

/-- What `find_recent_change` makes of secrets alone: a change as late as any that is not after the
failure, if there is one. -/
theorem recentChange_iff {ctx : Context} {now : DateTime} {recent : Option Change}
    (hsync : ctx.argocdHistory = []) (hdeploy : ctx.deployments = [])
    (h : findRecentChange ctx now = .ok recent) (t : ℤ) :
    (∃ c d, recent = some c ∧ parse (some c.at_) = some d ∧ t ≤ d.instant) ↔
      ∃ c ∈ known ctx (failureOf ctx now) .secret, t ≤ c.instant := by
  -- a cluster shows neither releases nor syncs, so secrets are all there is
  have hall : known ctx (failureOf ctx now) .sync ++ known ctx (failureOf ctx now) .deploy ++
      known ctx (failureOf ctx now) .secret = known ctx (failureOf ctx now) .secret := by
    simp [known, hsync, hdeploy]
  have hparse : ∀ c ∈ known ctx (failureOf ctx now) .secret,
      parse (some c.change.at_) = some c.t := by
    intro c hc
    obtain ⟨x, -, hx⟩ := List.mem_filterMap.mp hc
    obtain ⟨t, ht, -, rfl⟩ := knownAt_eq_some.mp hx
    exact parse_getD ht
  constructor
  · rintro ⟨c, d, rfl, hd, hle⟩
    obtain ⟨best, hbest, hc, -⟩ := findRecentChange_inv h
    have hmem := hall ▸ hbest.mem
    have hat : c.at_ = best.change.at_ := by rw [hc]
    rw [hat, hparse best hmem] at hd
    obtain rfl := Option.some.inj hd
    exact ⟨best, hmem, hle⟩
  · rintro ⟨c, hc, hle⟩
    -- the latest change is at least as late as any other
    obtain ⟨best, hfirst⟩ := @StableSort.exists_isFirst _ _ _ Candidate.instant _
      (List.ne_nil_of_mem hc)
    have hbest : Blamed ctx now best := by
      unfold Blamed
      rw [hall]
      exact hfirst
    obtain ⟨target, rfl⟩ := hbest.returned h
    exact ⟨_, best.t, rfl, hparse best hfirst.mem, hle.trans (hfirst.key_le hc)⟩

/-! ## The diagnosis

The anchor and the change are put together: what is credited is the latest change that is not after
the anchor. The effect is taken for the cause if that change came after a warning had first been
seen. -/

/-- No credited change is later than the first occurrence of a warning kept for the subject: a cause
comes before what it is to explain. -/
def CausallySound (cl : Client) (ns subject : String) (ctx : Context) : Prop :=
  ∀ h ∈ evaluate ctx, ∀ t, CreditsAt h t → ∀ e ∈ keptWarnings cl ns subject,
    ∀ first, e.firstTimestamp = some first → t.instant ≤ first.value.instant

/-- No secret was changed after the first occurrence of a kept warning and before the failure. An
event's time is the last time it was seen, and so may be later than the first. -/
def NoLateChange (cl : Client) (ns subject : String) (now : Timestamp) : Prop :=
  ∀ s ∈ readSecrets cl ns, ∀ at_, changedAt s = some at_ →
    BeforeFailure cl ns subject now at_.value.instant → ∀ e ∈ keptWarnings cl ns subject,
      ∀ first, e.firstTimestamp = some first → at_.value.instant ≤ first.value.instant

/-- The parts a collected context is made of. -/
theorem collectFrom_parts {clusterName : String} {now : Timestamp} {ctx : Context}
    (h : collectFrom cl clusterName ns subject now = .ok ctx) :
    ∃ pdbs anchor recent, anchorOf cl ns subject = .ok anchor ∧
      findRecentChange (bundleOf cl clusterName ns subject pdbs anchor) now.value = .ok recent ∧
      ctx = { bundleOf cl clusterName ns subject pdbs anchor with recentChange := recent } := by
  obtain ⟨hpods, -⟩ := collectFrom_inv h
  rw [collectFrom_eq hpods] at h
  obtain ⟨pdbs, -, h⟩ := bind_ok h
  obtain ⟨anchor, hanchor, h⟩ := bind_ok h
  obtain ⟨recent, hrecent, h⟩ := bind_ok h
  exact ⟨pdbs, anchor, recent, hanchor, hrecent, (Except.ok.inj h).symm⟩

/-- The condition over one cluster, behind the guard. -/
theorem causallySound_iff {clusterName : String} {now : Timestamp} {ctx : Context}
    (h : collectFrom cl clusterName ns subject now = .ok ctx) :
    CausallySound cl ns subject ctx ↔
      (CredentialsRejected (subjectView cl ns subject) → NoLateChange cl ns subject now) := by
  have hsecret : ∀ c ∈ ctx.recentChange, c.kind = .secret := by
    obtain ⟨-, -, _, _, recent, rfl, hrecent⟩ := collectFrom_inv h
    intro c hc
    exact (hrecent c hc).1
  obtain ⟨pdbs, anchor, recent, hanchor, hrecent, rfl⟩ := collectFrom_parts h
  have hcredits := @creditsAt_iff _ hsecret
  have hlatest := recentChange_iff rfl rfl hrecent
  have hknown := fun t => @exists_known_iff cl ns (bundleOf cl clusterName ns subject pdbs anchor)
    (failureOf (bundleOf cl clusterName ns subject pdbs anchor) now.value) t
    (@results_secrets cl ns subject)
  have hbefore := le_anchor_iff hanchor now
  constructor
  · intro hsound hrejected s hs at_ hat hfailure e he first hfirst
    -- what is credited is at least as late as this secret
    obtain ⟨c, hc, heq⟩ := (hknown at_.value.instant).mpr
      ⟨⟨s, hs, at_, hat, rfl⟩, (hbefore _).mpr hfailure⟩
    obtain ⟨credited, t, rfl, ht, hle⟩ := (hlatest at_.value.instant).mpr ⟨c, hc, heq.ge⟩
    obtain ⟨hyp, hhyp, hcredit⟩ := hcredits.mpr ⟨hrejected, credited, rfl, ht⟩
    exact hle.trans (hsound hyp hhyp t hcredit e he first hfirst)
  · intro hcond hyp hhyp t hcredit e he first hfirst
    obtain ⟨hrejected, credited, hc, hparse⟩ := hcredits.mp ⟨hyp, hhyp, hcredit⟩
    obtain ⟨c, hc, hle⟩ := (hlatest t.instant).mp ⟨credited, t, hc, hparse, le_rfl⟩
    obtain ⟨⟨s, hs, at_, hat, heq⟩, hfailure⟩ := (hknown c.instant).mp ⟨c, hc, rfl⟩
    have hfirstle := hcond hrejected s hs at_ hat (heq ▸ (hbefore _).mp hfailure) e he first hfirst
    exact hle.trans (heq ▸ hfirstle)

/-- **Exactly when no effect is taken for its cause**: the credentials were not rejected in a crash
loop, or no secret was changed between the first occurrence of a kept warning and the moment the
failure is dated at. -/
theorem causal_iff {w : World} {cluster : Option String} {name : String} {ctx : Context}
    (hreach : w.reach cluster ns = .ok (name, cl))
    (h : collectContext w cluster ns subject = .ok ctx) :
    CausallySound cl ns subject ctx ↔
      (CredentialsRejected (subjectView cl ns subject) → NoLateChange cl ns subject w.now) := by
  rw [collectContext_of_reach hreach] at h
  exact causallySound_iff h

/-- A time of the demo day, in UTC. -/
def demoAt (hour : Nat) (h : hour < 24) : Timestamp where
  value := { year := 2026, month := 1, day := 1, hour := hour, offset := some 0 }
  valid := by interval_cases hour <;> decide
  utc := rfl

/-- The two pods have different names, and plain labels. -/
theorem repairedLate_nodup : ["web-a", "web-b"].Nodup := by decide

theorem repairedLate_clean :
    ∀ kv ∈ [("app", "web")], Kube.LabelText kv.1 ∧ Kube.LabelText kv.2 := by decide

/-- The pod `web-b` has been rejected by the database since nine. The password was changed at ten, to
repair it, and `web-a` was started anew at eleven; the warning was last seen at twelve. -/
def repairedLate : Client where
  namespaces _ :=
    { deployments := [⟨"web", { matchLabels := [("app", "web")], clean := repairedLate_clean }⟩]
      pods :=
        [{ name := "web-a"
           labels := [("app", "web")]
           startTime := some (demoAt 11 (by decide))
           containerStatuses := [{ name := "app", waiting := some ⟨some "CrashLoopBackOff"⟩ }] },
         { name := "web-b"
           labels := [("app", "web")]
           startTime := some (demoAt 8 (by decide))
           containerStatuses := [{ name := "app", waiting := some ⟨some "CrashLoopBackOff"⟩ }] }]
      pods_nodup := repairedLate_nodup
      events :=
        [{ type := some "Warning"
           reason := some "BackOff"
           involvedKind := some "Pod"
           involvedName := some "web-b"
           firstTimestamp := some (demoAt 9 (by decide))
           lastTimestamp := some (demoAt 12 (by decide)) }]
      secrets := [{ name := "db", creationTimestamp := some (demoAt 10 (by decide)) }]
      podLog := fun _ _ _ => .ok "password authentication failed" }

/-- The diagnosis is asked for in the evening. -/
def eveningWorld (cl : Client) : World := { demoWorld cl with now := demoAt 20 (by decide) }

/-- The context of this cluster is collected. -/
theorem repairedLate_collects :
    ∃ ctx, collectContext (eveningWorld repairedLate) (some "prod") "shop" "web" = .ok ctx := by
  have hpdbs : ¬ MeetsNullSelector repairedLate "shop" "web" := by
    rintro ⟨-, p, hp, -⟩
    cases hp
  obtain ⟨pdbs, anchor, recent, hctx, -⟩ := collectFrom_ok rfl hpdbs "prod" (demoAt 20 (by decide))
  exact ⟨_, (collectContext_of_reach rfl).trans hctx⟩

/-- The condition at this cluster. -/
theorem causal_iff_repaired :
    ∃ ctx, collectContext (eveningWorld repairedLate) (some "prod") "shop" "web" = .ok ctx ∧
      (CausallySound repairedLate "shop" "web" ctx ↔
        (CredentialsRejected (subjectView repairedLate "shop" "web") →
          NoLateChange repairedLate "shop" "web" (demoAt 20 (by decide)))) := by
  obtain ⟨ctx, hctx⟩ := repairedLate_collects
  exact ⟨ctx, hctx, causal_iff rfl hctx⟩

/-- **The repair is blamed for the failure.** -/
theorem repair_blamed :
    ∃ ctx, collectContext (eveningWorld repairedLate) (some "prod") "shop" "web" = .ok ctx ∧
      ¬ CausallySound repairedLate "shop" "web" ctx := by
  obtain ⟨ctx, hctx⟩ := repairedLate_collects
  refine ⟨ctx, hctx, fun hsound => ?_⟩
  rw [collectContext_of_reach rfl] at hctx
  have hrejected : CredentialsRejected (subjectView repairedLate "shop" "web") :=
    ⟨by decide +kernel, by decide +kernel, by decide +kernel⟩
  -- one warning is kept, and the pod it is about crashed an hour later
  have hkept : keptWarnings repairedLate "shop" "web" = (repairedLate.namespaces "shop").events := by
    decide +kernel
  have hstart : crashStart repairedLate "shop" "web" = some (demoAt 11 (by decide)) := by
    decide +kernel
  have hbefore : BeforeFailure repairedLate "shop" "web" (demoAt 20 (by decide))
      (demoAt 10 (by decide)).value.instant := by
    refine ⟨?_, ?_, ?_⟩
    · intro e he l hl
      rw [hkept] at he
      rw [List.mem_singleton.mp he] at hl
      obtain rfl := Option.some.inj hl
      decide
    · intro s hs
      rw [hstart] at hs
      obtain rfl := Option.some.inj hs
      decide
    · intro _ hnone
      rw [hstart] at hnone
      cases hnone
  obtain ⟨e, he, hfirst⟩ : ∃ e ∈ keptWarnings repairedLate "shop" "web",
      e.firstTimestamp = some (demoAt 9 (by decide)) := by
    rw [hkept]
    exact ⟨_, List.mem_singleton.mpr rfl, rfl⟩
  -- the secret was changed after the first occurrence of what the warning counts
  have hlate := (causallySound_iff hctx).mp hsound hrejected _ (List.mem_singleton.mpr rfl) _ rfl
    hbefore e he _ hfirst
  exact absurd hlate (by decide)

end SreAgent.Rca
