import SreAgent.Rca.Absence
import SreAgent.Rca.Ownership

/-!
# No error in the logs

`probe_failure` infers a failing liveness probe from restarts, and says that the logs show no
application error. It knows an error by a list of its own. Where an error on another detector's list
is not found by that one, the diagnosis contradicts itself (`consistent_iff`).

The lists of phrases are the source's. Whether one list finds what another one does depends on the
phrases alone: a text with the longer one contains the shorter.
-/

namespace SreAgent.Rca

variable {ctx : Context}

/-- The hypothesis rests on an application error in the logs: a cause beyond the generic crash loop,
a certificate that fails, or a name that does not resolve. -/
def RestsOnError (ctx : Context) (h : Hypothesis) : Prop :=
  (crashloopDbConnection ctx = some h ∧ h ≠ genericCrashloop) ∨ tlsCertificate ctx = some h ∨
    dnsFailure ctx = some h

/-- Where the probe is blamed for want of an error in the logs, no hypothesis rests on one: the
report does not both deny and cite the same line. -/
def Consistent (ctx : Context) : Prop :=
  (∃ h ∈ evaluate ctx, InfersProbe h) → ∀ h ∈ evaluate ctx, ¬ RestsOnError ctx h

/-! ## Phrases

A phrase is overlooked if no phrase of the other list is part of it. In a text where the other list
finds nothing, the two lists are the same as the overlooked ones. -/

/-- The phrases in which `_APP_ERROR_SIGNALS` finds nothing: a log with one of them counts as clean,
whatever detector the phrases belong to. -/
def overlooked (phrases : List String) : List String :=
  phrases.filter fun w => !Py.containsAny w appErrorSignals

example : overlooked (tlsSignals ++ (dnsStrong ++ dnsWeak)) =
    ["certificate has expired", "certificate verify failed", "tls handshake",
     "unable to verify the first certificate", "name or service not known", "could not resolve",
     "temporary failure in name resolution", "server misbehaving"] := by decide +kernel

/-- Searching for two lists is searching for either. -/
theorem containsAny_append (s : String) (phrases phrases' : List String) :
    Py.containsAny s (phrases ++ phrases') = (Py.containsAny s phrases || Py.containsAny s phrases') :=
  List.any_append

/-- In a text where the probe's list finds nothing, only the overlooked phrases can be. -/
theorem containsAny_overlooked {s : String} (hnone : Py.containsAny s appErrorSignals = false)
    (phrases : List String) : Py.containsAny s phrases = Py.containsAny s (overlooked phrases) := by
  rw [Bool.eq_iff_iff, Py.containsAny, Py.containsAny, List.any_eq_true, List.any_eq_true]
  constructor
  · rintro ⟨w, hw, hin⟩
    refine ⟨w, List.mem_filter.mpr ⟨hw, ?_⟩, hin⟩
    rw [Bool.not_eq_true', ← Bool.not_eq_true]
    intro hfound
    obtain ⟨v, hv, hvw⟩ := List.any_eq_true.mp hfound
    exact List.any_eq_false.mp hnone v hv (Py.contains_trans hin hvw)
  · rintro ⟨w, hw, hin⟩
    exact ⟨w, (List.mem_filter.mp hw).1, hin⟩

/-! ## Hypotheses on errors

Each detector that rests on an error fires exactly where one of its phrases is in the logs. -/

/-- The certificate detector looks at nothing else. -/
theorem tlsCertificate_isSome (ctx : Context) :
    (tlsCertificate ctx).isSome = Py.containsAny (allLogs ctx) tlsSignals := by
  unfold tlsCertificate
  split
  · next hnone => simpa using hnone
  · next hsome => simpa using hsome

/-- The crash loop goes beyond the generic hypothesis where it blames the connection. -/
theorem crashloop_beyond_iff :
    (∃ h, crashloopDbConnection ctx = some h ∧ h ≠ genericCrashloop) ↔ BlamesConnection ctx := by
  constructor
  · rintro ⟨h, hd, hne⟩
    by_contra hnot
    exact hne (crashloop_generic hd hnot)
  · intro hb
    obtain ⟨h, hd, hconf⟩ := crashloop_blames hb
    refine ⟨h, hd, ?_⟩
    rintro rfl
    exact absurd hconf (by decide)

/-- Some hypothesis rests on an error: one of the certificate or DNS phrases is there, or one of a
database in a crash loop. -/
theorem restsOnError_iff (ctx : Context) :
    (∃ h ∈ evaluate ctx, RestsOnError ctx h) ↔
      Py.containsAny (allLogs ctx) (tlsSignals ++ (dnsStrong ++ dnsWeak)) = true ∨
        isCrashlooping ctx = true ∧ Py.containsAny (allLogs ctx) (dbAuth ++ dbReach) = true := by
  have hmem : ∀ h, RestsOnError ctx h → h ∈ evaluate ctx := by
    rintro h (⟨hd, -⟩ | hd | hd) <;> exact mem_evaluate.mpr ⟨_, by simp [allDetectors], hd⟩
  have hsome : (∃ h ∈ evaluate ctx, RestsOnError ctx h) ↔
      BlamesConnection ctx ∨ Py.containsAny (allLogs ctx) tlsSignals = true ∨
        Py.containsAny (allLogs ctx) (dnsStrong ++ dnsWeak) = true := by
    rw [← crashloop_beyond_iff, ← tlsCertificate_isSome, ← dnsFailure_isSome,
      Option.isSome_iff_exists, Option.isSome_iff_exists, ← exists_or, ← exists_or]
    exact exists_congr fun h => and_iff_right_of_imp (hmem h)
  rw [hsome, containsAny_append (allLogs ctx) tlsSignals, containsAny_append (allLogs ctx) dbAuth,
    Bool.or_eq_true, Bool.or_eq_true]
  constructor
  · rintro (⟨hloop, -, herror⟩ | hplatform)
    · exact .inr ⟨hloop, herror⟩
    · exact .inl hplatform
  · rintro (hplatform | ⟨hloop, herror⟩)
    · exact .inr hplatform
    · -- a DNS error keeps the crash loop from blaming the database, and fires by itself
      cases hdns : Py.containsAny (allLogs ctx) dnsSpecific with
      | true => exact .inr (.inr (by rw [dnsPhrases, hdns, Bool.true_or]))
      | false => exact .inl ⟨hloop, hdns, herror⟩

/-- **Exactly when a diagnosis does not contradict itself**: unless the probe is blamed, and the logs
have a phrase that its list overlooks, of a certificate or of DNS, or of a database in a crash
loop. -/
theorem consistent_iff (ctx : Context) :
    Consistent ctx ↔
      ¬ (RestartsQuietly ctx ∧ Py.containsAny (allLogs ctx) appErrorSignals = false ∧
        (Py.containsAny (allLogs ctx) (overlooked (tlsSignals ++ (dnsStrong ++ dnsWeak))) = true ∨
          isCrashlooping ctx = true ∧
            Py.containsAny (allLogs ctx) (overlooked (dbAuth ++ dbReach)) = true)) := by
  have hrests := restsOnError_iff ctx
  rw [Consistent, inferred_iff]
  constructor
  · rintro h ⟨hquiet, hnone, hphrase⟩
    -- without the phrases of the probe detector, what is left are those it overlooks
    rw [← containsAny_overlooked hnone, ← containsAny_overlooked hnone] at hphrase
    obtain ⟨hyp, hh, herror⟩ := hrests.mpr hphrase
    exact h ⟨hquiet, hnone⟩ hyp hh herror
  · rintro hnot ⟨hquiet, hnone⟩ hyp hh herror
    apply hnot
    refine ⟨hquiet, hnone, ?_⟩
    rw [← containsAny_overlooked hnone, ← containsAny_overlooked hnone]
    exact hrests.mp ⟨hyp, hh, herror⟩

/-- A container that restarts because its certificate has expired. -/
def expiredCertificate : Context where
  pods := [{ name := "web-0", lastTerminated := some "Error" }]
  describe := { containers := [{ name := "app", liveness := true }] }
  previousLogs := ["handshake failed: certificate has expired"]

/-- It is diagnosed as a certificate issue, and as a failing probe because the logs show no error. -/
theorem expired_contradicts : ¬ Consistent expiredCertificate := by
  have hquiet : RestartsQuietly expiredCertificate := by
    unfold RestartsQuietly
    decide
  have hlogs : Py.containsAny (allLogs expiredCertificate) appErrorSignals = false ∧
      Py.containsAny (allLogs expiredCertificate) (tlsSignals ++ (dnsStrong ++ dnsWeak)) = true := by
    decide +kernel
  intro h
  obtain ⟨hyp, hh, herror⟩ := (restsOnError_iff expiredCertificate).mpr (.inl hlogs.2)
  exact h ((inferred_iff expiredCertificate).mpr ⟨hquiet, hlogs.1⟩) hyp hh herror

end SreAgent.Rca
