import SreAgent.Rca.Absence
import SreAgent.Rca.ListOrder
import SreAgent.Rca.Ownership

/-!
# More evidence about a crash loop

A list of services or a recent change adds to what `crashloop_db_connection` concludes, and the
confidence grows with it. The severity is looked up by the issue, and the table does not know the one
of a missing dependency (`firmer_iff`).

Two contexts are compared, of which the second knows more. The detector's confidence is monotone in
what it knows. The report's severity is not a function of confidence, and that is where more
knowledge can soften a verdict.
-/

namespace SreAgent.Rca

variable {ctx ctx' : Context} {h h' : Hypothesis}

/-- `Info < Low < Medium < High < Critical`. -/
def Severity.rank : Severity → Nat
  | .info     => 0
  | .low      => 1
  | .medium   => 2
  | .high     => 3
  | .critical => 4

/-- The second context has what the first one has, and a list of services or a recent change if that
has none. -/
structure Context.Extends (ctx ctx' : Context) : Prop where
  same     : ctx' = { ctx with services := ctx'.services, recentChange := ctx'.recentChange }
  services : ctx.services = none ∨ ctx'.services = ctx.services
  change   : ctx.recentChange = none ∨ ctx'.recentChange = ctx.recentChange

/-- The hypothesis of the crash loop is on top. -/
def TopCrashloop (ctx : Context) (h : Hypothesis) : Prop :=
  (evaluate ctx).head? = some h ∧ crashloopDbConnection ctx = some h

/-- The services, which the first context does not have, lack the host that its logs name. Then the
cause is another one, and it is rated lower. -/
def RevealsMissing (ctx ctx' : Context) : Prop :=
  ctx.services = none ∧ NamesUnreachableHost ctx ∧ serviceMissing (allLogs ctx) ctx'.services = true

/-- The second report is as confident and as severe as the first one, or more so. Further evidence
for the same hypothesis ought not to weaken it. -/
def NotSofter (report report' : RCAReport) : Prop :=
  report.confidence ≤ report'.confidence ∧ report.severity.rank ≤ report'.severity.rank

/-! ## The detector

Branch by branch: both contexts take the same one, since the branches depend on the logs. What the
services add shows in one place only, a missing Service. -/

theorem creditRelease_rootCause (change : Option Change) (h : Hypothesis) :
    (creditRelease change h).rootCause = h.rootCause := by
  unfold creditRelease
  split
  · split <;> rfl
  · rfl

/-- A credited release raises the confidence, up to the cap, and so does a change behind rejected
credentials. -/
theorem creditRelease_mono {change change' : Option Change} (hconf : h.confidence ≤ h'.confidence)
    (hcap : h'.confidence ≤ 95) (hchange : change = none ∨ change' = change) :
    (creditRelease change h).confidence ≤ (creditRelease change' h').confidence := by
  rcases hchange with rfl | rfl
  · exact hconf.trans (creditRelease_confidence change' hcap le_rfl)
  · unfold creditRelease
    split
    · split
      · exact min_le_min_left 95 (Nat.add_le_add_right hconf 8)
      · exact hconf
    · exact hconf

theorem crashloopAuth_rootCause (change : Option Change) (h : Hypothesis) :
    (crashloopAuth change h).rootCause =
      "Database rejected the application's credentials (auth failure in crash logs)." := by
  unfold crashloopAuth
  dsimp only
  split
  · split <;> rfl
  · rfl

theorem crashloopAuth_mono {change change' : Option Change} (h : Hypothesis)
    (hchange : change = none ∨ change' = change) :
    (crashloopAuth change h).confidence ≤ (crashloopAuth change' h).confidence := by
  rcases hchange with rfl | rfl
  · exact (crashloopAuth_range change' h).1
  · exact le_rfl

/-- The services count only by what they say about the host. -/
theorem crashloopReach_congr {logs : String} {services services' : Option (List String)}
    (hmissing : serviceMissing logs services' = serviceMissing logs services) (h : Hypothesis) :
    crashloopReach logs services' h = crashloopReach logs services h := by
  unfold serviceMissing hostShort at hmissing
  unfold crashloopReach
  dsimp only
  rw [hmissing]

/-- The branch for an unreachable database stays below the cap. -/
theorem crashloopReach_le (logs : String) (services : Option (List String)) (h : Hypothesis) :
    (crashloopReach logs services h).confidence ≤ 95 := by
  unfold crashloopReach
  dsimp only
  split
  · show 88 ≤ 95
    decide
  · show 80 ≤ 95
    decide

/-- Unless a missing Service is revealed, the conclusion is the same, with no less confidence. -/
theorem CrashloopBranch.firmer (hext : ctx.Extends ctx') (hreveal : ¬ RevealsMissing ctx ctx')
    (hb : CrashloopBranch ctx h) (hb' : CrashloopBranch ctx' h') :
    h'.issue = h.issue ∧ h'.rootCause = h.rootCause ∧ h.confidence ≤ h'.confidence := by
  have hlogs : allLogs ctx' = allLogs ctx := by rw [hext.same]; rfl
  -- the logs are the same in both contexts, so both take the same branch of the detector
  cases hb with
  | generic hloop hother =>
      cases hb' with
      | generic => exact ⟨rfl, rfl, le_rfl⟩
      | auth _ hdns hauth => simp [hlogs ▸ hdns, hlogs ▸ hauth] at hother
      | reach _ hdns _ hreach => simp [hlogs ▸ hdns, hlogs ▸ hreach] at hother
  | auth hloop hdns hauth =>
      cases hb' with
      | generic _ hother => simp [hlogs, hdns, hauth] at hother
      | auth =>
          refine ⟨?_, ?_, ?_⟩
          · simp only [creditRelease_issue, crashloopAuth_issue]
          · simp only [creditRelease_rootCause, crashloopAuth_rootCause]
          · -- a known change can only add points, to the branch's own score and to the credit
            exact creditRelease_mono (crashloopAuth_mono _ hext.change) (crashloopAuth_range _ _).2
              hext.change
      | reach _ _ hnone => simp [hlogs, hauth] at hnone
  | reach hloop hdns hauth hreach =>
      cases hb' with
      | generic _ hother => simp [hlogs, hdns, hreach] at hother
      | auth _ _ hsome => simp [hlogs, hauth] at hsome
      | reach =>
          -- the services alone could change the branch's text, and this is what the condition
          -- excludes
          have hmissing : serviceMissing (allLogs ctx) ctx'.services =
              serviceMissing (allLogs ctx) ctx.services := by
            rcases hext.services with hnone | hsame
            · have hunknown : serviceMissing (allLogs ctx) ctx.services = false := by
                rw [hnone, serviceMissing, Option.any_none, Bool.and_false]
              rw [hunknown, ← Bool.not_eq_true]
              intro hserv
              exact hreveal ⟨hnone, ⟨hloop, hdns, hauth, hreach, hostShort_of_missing hserv⟩, hserv⟩
            · rw [hsame]
          rw [hlogs, crashloopReach_congr hmissing]
          refine ⟨?_, ?_, ?_⟩
          · simp only [creditRelease_issue]
          · simp only [creditRelease_rootCause]
          · exact creditRelease_mono le_rfl (crashloopReach_le _ _ _) hext.change

/-! ## The report

Confidence goes through the runbook, which adds the same to both, since the text it is looked up by
is the same. Severity is looked up by the issue. -/

/-- A runbook adds the same to both. -/
theorem backed_mono {n m : Nat} (found : Bool) (hle : n ≤ m) : backed found n ≤ backed found m := by
  unfold backed
  split
  · exact min_le_min_left 97 (Nat.add_le_add_right hle 3)
  · exact hle

/-- What a report takes from the hypothesis on top. -/
theorem diagnoseContext_top {rb : Runbooks} {ns subject : String} {report : RCAReport}
    (hhead : (evaluate ctx).head? = some h) (hr : diagnoseContext rb ctx ns subject = .ok report) :
    report.severity = severityOf h.issue ∧
      report.confidence = backed (rb.finds (h.issue ++ " " ++ h.rootCause)) h.confidence := by
  unfold diagnoseContext at hr
  split at hr
  · next hnil => rw [hnil] at hhead; cases hhead
  · next top others hcons =>
    rw [hcons] at hhead
    obtain rfl := Option.some.inj hhead
    obtain ⟨hissue, hconf⟩ :=
      attachRunbook_verdict rb { top with evidence := top.evidence ++ degradedEvidence ctx }
    obtain ⟨lines, -, hr⟩ := bind_ok hr
    unfold reportOn at hr
    split at hr
    · cases hr
    · obtain rfl := Except.ok.inj hr
      exact ⟨congrArg severityOf hissue, hconf⟩

/-- A missing dependency is of medium severity, the crash loop it was taken for of high. -/
theorem softer_of_reveals (hext : ctx.Extends ctx') (hd : crashloopDbConnection ctx = some h)
    (hd' : crashloopDbConnection ctx' = some h') (hreveal : RevealsMissing ctx ctx') :
    (severityOf h'.issue).rank < (severityOf h.issue).rank := by
  obtain ⟨hnone, hhost, hserv⟩ := hreveal
  -- with the services listed, the unreachable host turns out not to exist
  have hmissing : h'.issue = missingDependency := by
    have hhost' : NamesUnreachableHost ctx' ∧ serviceMissing (allLogs ctx') ctx'.services = true := by
      rw [hext.same]
      exact ⟨hhost, hserv⟩
    obtain ⟨h'', hd'', hissue⟩ := (crashloop_missing_iff ctx').mpr hhost'
    obtain rfl := Option.some.inj (hd'.symm.trans hd'')
    exact hissue
  -- without the list it counted as existing, so the first report is the generic one
  have hgeneric : h.issue = "CrashLoopBackOff" := by
    have hissue := crashloop_reports ctx h hd
    rw [List.mem_cons, List.mem_singleton] at hissue
    apply hissue.resolve_right
    intro hdep
    have hunknown := ((crashloop_missing_iff ctx).mp ⟨h, hd, hdep⟩).2
    rw [hnone, serviceMissing, Option.any_none, Bool.and_false] at hunknown
    cases hunknown
  rw [hmissing, hgeneric]
  decide

/-- **Exactly when more evidence does not soften the verdict**: unless what is learned is that the
host of the logs is no Service. -/
theorem firmer_iff {rb : Runbooks} {ns subject : String} {report report' : RCAReport}
    (hext : ctx.Extends ctx') (htop : TopCrashloop ctx h) (htop' : TopCrashloop ctx' h')
    (hr : diagnoseContext rb ctx ns subject = .ok report)
    (hr' : diagnoseContext rb ctx' ns subject = .ok report') :
    NotSofter report report' ↔ ¬ RevealsMissing ctx ctx' := by
  obtain ⟨hseverity, hconf⟩ := diagnoseContext_top htop.1 hr
  obtain ⟨hseverity', hconf'⟩ := diagnoseContext_top htop'.1 hr'
  unfold NotSofter
  constructor
  · -- a revealed dependency is reported with the lower of the two severities
    rintro ⟨-, hrank⟩ hreveal
    rw [hseverity, hseverity'] at hrank
    exact absurd (softer_of_reveals hext htop.2 htop'.2 hreveal) (Nat.not_lt.mpr hrank)
  · intro hreveal
    -- same issue and same root cause, so the same runbook is looked up on both sides
    obtain ⟨hissue, hcause, hle⟩ := CrashloopBranch.firmer hext hreveal
      (crashloopDbConnection_iff.mp htop.2) (crashloopDbConnection_iff.mp htop'.2)
    rw [hseverity, hseverity', hconf, hconf', hissue, hcause]
    exact ⟨backed_mono _ hle, le_rfl⟩

/-! ## A database that is not there

The services are listed, and the one in the logs is not among them. What is now known for certain is
reported as less severe. -/

/-- A crash loop that cannot reach `db`. -/
def unreachableDb : Context where
  pods := [{ name := "web-0", reason := some "CrashLoopBackOff" }]
  previousLogs := ["dial tcp db:5432"]

def withServices (services : List String) : Context := { unreachableDb with services := some services }

/-- It has the first context and the services. -/
theorem withServices_extends (services : List String) :
    unreachableDb.Extends (withServices services) := ⟨rfl, .inl rfl, .inl rfl⟩

/-- The crash loop is on top if it comes first. -/
theorem topCrashloop_of_head (hhead : (evaluate ctx).head? = crashloopDbConnection ctx)
    (hloop : isCrashlooping ctx = true) : ∃ h, TopCrashloop ctx h := by
  rw [← crashloopDbConnection_isSome] at hloop
  obtain ⟨h, hd⟩ := Option.isSome_iff_exists.mp hloop
  exact ⟨h, hhead.trans hd, hd⟩

/-- Without times there is a report about it. -/
theorem TopCrashloop.exists_report (htop : TopCrashloop ctx h) (hchange : ctx.recentChange = none)
    (hevents : ctx.events = []) (ns subject : String) :
    ∃ report, diagnoseContext {} ctx ns subject = .ok report := by
  obtain ⟨others, hcons⟩ := List.head?_eq_some_iff.mp htop.1
  have htarget : h.rollbackTarget = some "" :=
    (crashloop_modest (fun c hc => by rw [hchange] at hc; cases hc) htop.2).target
  have htimeline : buildTimeline ctx = .ok [] := by
    rw [buildTimeline, timelineEntries, hevents, hchange]
    rfl
  unfold diagnoseContext
  rw [hcons, htimeline]
  simp only [attachRunbook, reportOn, htarget]
  exact ⟨_, rfl⟩

theorem unreachableDb_top : ∃ h, TopCrashloop unreachableDb h :=
  topCrashloop_of_head (by decide +kernel) (by decide +kernel)

/-- With the Service `db` listed the report is as firm as before. -/
theorem firmer_iff_listed : ∃ report report',
    diagnoseContext {} unreachableDb "shop" "web-0" = .ok report ∧
      diagnoseContext {} (withServices ["db"]) "shop" "web-0" = .ok report' ∧
        (NotSofter report report' ↔ ¬ RevealsMissing unreachableDb (withServices ["db"])) := by
  obtain ⟨h, htop⟩ := unreachableDb_top
  obtain ⟨h', htop'⟩ : ∃ h, TopCrashloop (withServices ["db"]) h :=
    topCrashloop_of_head (by decide +kernel) (by decide +kernel)
  obtain ⟨report, hr⟩ := htop.exists_report rfl rfl "shop" "web-0"
  obtain ⟨report', hr'⟩ := htop'.exists_report rfl rfl "shop" "web-0"
  exact ⟨report, report', hr, hr', firmer_iff (withServices_extends _) htop htop' hr hr'⟩

/-- With no Services at all, the host is revealed as missing. -/
theorem unreachableDb_reveals : RevealsMissing unreachableDb (withServices []) := by
  unfold RevealsMissing NamesUnreachableHost
  decide +kernel

/-- Without it the report is less severe. -/
theorem missing_softer : ∃ h h' report report', unreachableDb.Extends (withServices []) ∧
    TopCrashloop unreachableDb h ∧ TopCrashloop (withServices []) h' ∧
      diagnoseContext {} unreachableDb "shop" "web-0" = .ok report ∧
        diagnoseContext {} (withServices []) "shop" "web-0" = .ok report' ∧
          ¬ NotSofter report report' := by
  obtain ⟨h, htop⟩ := unreachableDb_top
  obtain ⟨h', htop'⟩ : ∃ h, TopCrashloop (withServices []) h :=
    topCrashloop_of_head (by decide +kernel) (by decide +kernel)
  obtain ⟨report, hr⟩ := htop.exists_report rfl rfl "shop" "web-0"
  obtain ⟨report', hr'⟩ := htop'.exists_report rfl rfl "shop" "web-0"
  refine ⟨h, h', report, report', withServices_extends _, htop, htop', hr, hr', ?_⟩
  rintro ⟨-, hrank⟩
  rw [(diagnoseContext_top htop.1 hr).1, (diagnoseContext_top htop'.1 hr').1] at hrank
  exact absurd (softer_of_reveals (withServices_extends _) htop.2 htop'.2 unreachableDb_reveals)
    (Nat.not_lt.mpr hrank)

end SreAgent.Rca
