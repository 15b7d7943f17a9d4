import SreAgent.Rca.Modest

/-!
# Whose error it is

`crashloop_db_connection` is to leave alone what other detectors own: it claims nothing about a
database when the logs show a DNS error, and credits a changed secret only when they show rejected
credentials. The second holds (`evaluate_secret_blind`). The first fails where the two detectors'
lists of phrases differ (`dnsOwned_iff`).

Both are conventions between detectors that no single function enforces: each reads the logs for
itself, with a list of its own.
-/

namespace SreAgent.Rca

variable {ctx : Context} {h : Hypothesis}

/-! ## What the crash loop claims

A claim beyond the generic one is always made with a confidence of at least 80. -/

/-- Where neither credentials nor the host are blamed, the hypothesis is the generic one. -/
theorem crashloop_generic (hd : crashloopDbConnection ctx = some h) (hb : ¬ BlamesConnection ctx) :
    h = genericCrashloop := by
  cases crashloopDbConnection_iff.mp hd with
  | generic => rfl
  | auth hloop hdns hauth => exact absurd ⟨hloop, hdns, .inl hauth⟩ hb
  | reach hloop hdns _ hreach => exact absurd ⟨hloop, hdns, .inr hreach⟩ hb

/-- Crediting a release does not lower the confidence, credentials are blamed with 82 to 95, and an
unreachable host with at least 80. -/
theorem creditRelease_confidence {n : Nat} (change : Option Change) (hn : n ≤ 95)
    (hh : n ≤ h.confidence) : n ≤ (creditRelease change h).confidence := by
  unfold creditRelease
  split
  · split
    · exact le_min hn (hh.trans (Nat.le_add_right _ _))
    · exact hh
  · exact hh

theorem crashloopAuth_range (change : Option Change) (h : Hypothesis) :
    82 ≤ (crashloopAuth change h).confidence ∧ (crashloopAuth change h).confidence ≤ 95 := by
  unfold crashloopAuth
  dsimp only
  split
  · split
    · show 82 ≤ min 95 (82 + 12) ∧ min 95 (82 + 12) ≤ 95
      decide
    · show 82 ≤ 82 ∧ 82 ≤ 95
      decide
  · show 82 ≤ 82 ∧ 82 ≤ 95
    decide

theorem crashloopReach_confidence (logs : String) (services : Option (List String))
    (h : Hypothesis) : 80 ≤ (crashloopReach logs services h).confidence := by
  unfold crashloopReach
  dsimp only
  split
  · show 80 ≤ 88
    decide
  · exact le_rfl

/-- A claim about the database is made with confidence. -/
theorem crashloop_blames (hb : BlamesConnection ctx) :
    ∃ h, crashloopDbConnection ctx = some h ∧ 80 ≤ h.confidence := by
  obtain ⟨hloop, hdns, herror⟩ := hb
  cases hauth : Py.containsAny (allLogs ctx) dbAuth with
  | true =>
      have hconf := (crashloopAuth_range ctx.recentChange genericCrashloop).1
      exact ⟨_, crashloopDbConnection_iff.mpr (.auth hloop hdns hauth),
        creditRelease_confidence _ (by decide) ((by decide : 80 ≤ 82).trans hconf)⟩
  | false =>
      rw [hauth] at herror
      have hreach := herror.resolve_left Bool.false_ne_true
      exact ⟨_, crashloopDbConnection_iff.mpr (.reach hloop hdns hauth hreach),
        creditRelease_confidence _ (by decide) (crashloopReach_confidence _ _ _)⟩

/-! ## DNS errors

The list of `dns_failure` has one phrase more than the one the crash loop defers to. In a log with
that phrase alone both detectors claim the error for themselves. -/

/-- What `dns_failure` looks for, told apart by the other detector's list. -/
theorem dnsPhrases (logs : String) :
    Py.containsAny logs (dnsStrong ++ dnsWeak) =
      (Py.containsAny logs dnsSpecific || Py.contains logs "server misbehaving") := by
  have hlist : dnsStrong ++ dnsWeak = dnsSpecific ++ ["server misbehaving"] := rfl
  rw [hlist, Py.containsAny, Py.containsAny, List.any_append]
  simp

/-- `dns_failure` looks at nothing but its phrases, and is confident. -/
theorem dnsFailure_isSome (ctx : Context) :
    (dnsFailure ctx).isSome = Py.containsAny (allLogs ctx) (dnsStrong ++ dnsWeak) := by
  unfold dnsFailure
  dsimp only
  split
  · next hnone => simpa using hnone
  · next hsome => simpa using hsome

theorem dnsFailure_confidence (hd : dnsFailure ctx = some h) : 72 ≤ h.confidence := by
  unfold dnsFailure at hd
  dsimp only at hd
  split at hd
  · cases hd
  · obtain rfl := Option.some.inj hd
    dsimp only
    split <;> decide

/-- The DNS error of the logs is left to `dns_failure`: beside its hypothesis the crash loop has the
generic one at most, with less confidence. -/
def DnsOwned (ctx : Context) : Prop :=
  ∀ dns, dnsFailure ctx = some dns → ∀ h, crashloopDbConnection ctx = some h →
    h = genericCrashloop ∧ h.confidence < dns.confidence

/-- The phrase only `dns_failure` knows brings both hypotheses about. -/
theorem not_dnsOwned (hmisbehaving : Py.contains (allLogs ctx) "server misbehaving" = true)
    (hb : BlamesConnection ctx) : ¬ DnsOwned ctx := by
  intro howned
  have hfires : (dnsFailure ctx).isSome = true := by
    rw [dnsFailure_isSome, dnsPhrases, hmisbehaving, Bool.or_true]
  obtain ⟨dns, hdns⟩ := Option.isSome_iff_exists.mp hfires
  obtain ⟨h, hloop, hconf⟩ := crashloop_blames hb
  obtain ⟨rfl, -⟩ := howned dns hdns h hloop
  exact absurd hconf (by decide)

/-- **Exactly when DNS errors are left to `dns_failure`.** The phrase only that detector knows is
not in the logs of a crash loop that shows an error of the database, and no other DNS error. -/
theorem dnsOwned_iff (ctx : Context) :
    DnsOwned ctx ↔ ¬ (Py.contains (allLogs ctx) "server misbehaving" = true ∧ BlamesConnection ctx) := by
  constructor
  · rintro howned ⟨hmisbehaving, hb⟩
    exact not_dnsOwned hmisbehaving hb howned
  · intro hclear dns hdns h hloop
    have hnot : ¬ BlamesConnection ctx := by
      intro hb
      have hfires := dnsFailure_isSome ctx
      rw [hdns, dnsPhrases, hb.2.1, Bool.false_or] at hfires
      exact hclear ⟨hfires.symm, hb⟩
    obtain rfl := crashloop_generic hloop hnot
    exact ⟨rfl, Nat.lt_of_lt_of_le (by decide) (dnsFailure_confidence hdns)⟩

/-- The name server answers, but not well. -/
def misbehavingServer : Context where
  pods := [{ name := "web-0", reason := some "CrashLoopBackOff" }]
  previousLogs := ["dial tcp: lookup db on 10.96.0.10:53: server misbehaving"]

/-- The crash loop blames the database for it, and is believed. -/
theorem misbehaving_blames_database : ¬ DnsOwned misbehavingServer := by
  have hshown : Py.contains (allLogs misbehavingServer) "server misbehaving" = true ∧
      BlamesConnection misbehavingServer := by
    unfold BlamesConnection
    decide +kernel
  exact not_dnsOwned hshown.1 hshown.2

/-! ## Changed secrets

The recent change enters through two steps of one detector. Where the credentials were not rejected
the first does not look at it, and the second does nothing with a secret. -/

/-- Only the crash loop reads the recent change. -/
theorem others_blind (ctx : Context) (change : Option Change) :
    ∀ d ∈ allDetectors.tail, d { ctx with recentChange := change } = d ctx := by
  simp only [allDetectors, List.tail_cons, List.forall_mem_cons]
  exact ⟨rfl, rfl, rfl, rfl, rfl, rfl, rfl, rfl, rfl, rfl, rfl, rfl, rfl, rfl, by simp⟩

/-- Without rejected credentials the crash loop takes the same branch whichever secret changed. -/
theorem CrashloopBranch.secret (hlogs : Py.containsAny (allLogs ctx) dbAuth = false ∨
      Py.containsAny (allLogs ctx) dnsSpecific = true) {change change' : Option Change}
    (hsecret : ∀ c ∈ change, c.kind = .secret) (hsecret' : ∀ c ∈ change', c.kind = .secret)
    (hb : CrashloopBranch { ctx with recentChange := change } h) :
    CrashloopBranch { ctx with recentChange := change' } h := by
  cases hb with
  | generic hloop hother => exact .generic hloop hother
  | auth hloop hdns hauth =>  -- the one branch that reads the change; the logs rule it out
      rcases hlogs with hnone | hsome
      · exact absurd (hauth.symm.trans hnone) (by decide)
      · exact absurd (hsome.symm.trans hdns) (by decide)
  | reach hloop hdns hauth hreach =>
      -- elsewhere the change only enters by the credit, and a rotated secret earns none
      have hsame := creditRelease_secret hsecret
        (crashloopReach (allLogs ctx) ctx.services genericCrashloop)
      have hsame' := creditRelease_secret hsecret'
        (crashloopReach (allLogs ctx) ctx.services genericCrashloop)
      show CrashloopBranch { ctx with recentChange := change' } (creditRelease change
        (crashloopReach (allLogs ctx) ctx.services genericCrashloop))
      rw [hsame, ← hsame']
      exact .reach hloop hdns hauth hreach

/-- So the crash loop does not depend on the secret. -/
theorem crashloop_blind (hlogs : Py.containsAny (allLogs ctx) dbAuth = false ∨
      Py.containsAny (allLogs ctx) dnsSpecific = true) {change : Option Change}
    (hsecret : ∀ c ∈ change, c.kind = .secret) :
    crashloopDbConnection { ctx with recentChange := change } =
      crashloopDbConnection { ctx with recentChange := none } := by
  have hnone : ∀ c ∈ (none : Option Change), c.kind = .secret := fun c hc => nomatch hc
  ext h
  rw [crashloopDbConnection_iff, crashloopDbConnection_iff]
  exact ⟨.secret hlogs hsecret hnone, .secret hlogs hnone hsecret⟩

/-- **A changed secret counts for nothing but rejected credentials.** If no phrase of rejected
credentials is in the logs, or one of a DNS error is, the diagnosis is the same whichever secret
changed and if none did. -/
theorem evaluate_secret_blind (hlogs : Py.containsAny (allLogs ctx) dbAuth = false ∨
      Py.containsAny (allLogs ctx) dnsSpecific = true) {c : Change} (hsecret : c.kind = .secret) :
    evaluate { ctx with recentChange := some c } = evaluate { ctx with recentChange := none } := by
  have hkind : ∀ c' ∈ some c, c'.kind = .secret := by
    intro c' hc'
    rw [← Option.some.inj hc']
    exact hsecret
  have hall : allDetectors.filterMap (fun d => d { ctx with recentChange := some c }) =
      allDetectors.filterMap fun d => d { ctx with recentChange := none } := by
    apply List.filterMap_congr
    intro d hd
    rcases List.mem_cons.mp hd with rfl | hd
    · exact crashloop_blind hlogs hkind
    · -- no other detector looks at the recent change at all
      rw [others_blind ctx (some c) d hd, others_blind ctx none d hd]
  rw [evaluate, evaluate, hall]

/-- A crash loop that cannot connect. -/
def timedOut : Context where
  pods := [{ name := "web-0", reason := some "CrashLoopBackOff" }]
  logs := ["could not connect: connection timed out"]

/-- A secret that was rotated before it makes no difference. -/
theorem evaluate_secret_blind_timeout :
    BlamesConnection timedOut ∧ Py.containsAny (allLogs timedOut) dbAuth = false ∧
      evaluate { timedOut with
          recentChange := some { kind := .secret, name := some "db", at_ := "10:00" } } =
        evaluate { timedOut with recentChange := none } := by
  have hlogs : BlamesConnection timedOut ∧ Py.containsAny (allLogs timedOut) dbAuth = false := by
    unfold BlamesConnection
    decide +kernel
  exact ⟨hlogs.1, hlogs.2, evaluate_secret_blind (.inl hlogs.2) rfl⟩

end SreAgent.Rca
