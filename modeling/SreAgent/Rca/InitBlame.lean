import Mathlib.Data.List.Find
import SreAgent.Rca.Collected
import SreAgent.Rca.Signals

/-!
# The init container that is blamed, and the one that is read

`init_container_failure` blames the first init container that failed. `collect_context` reads the
logs of the first one that failed or just ended once, with whatever exit code. `namesItsSource_iff`
says for which pods they are the same.

The two predicates differ in the exit code. An init container that ran to its end and was restarted
is passed over by the one and chosen by the other, so that the hypothesis names one container and
cites the log of another.
-/

namespace SreAgent.Rca

open Kube (Client Pod)

/-! ## Two predicates

The statement quantifies over every cluster the pod may be in and over all logs. Only so does it
depend on the pod alone. -/

/-- An init container that failed, for `init_container_failure`. -/
def InitContainerInfo.failed (c : InitContainerInfo) : Bool :=
  isCrashReason c.waitingReason || (Py.truthy c.lastTerminatedReason && c.lastExitCode.any (· != 0))

/-- An init container that was terminated before, for `collect_context`. -/
def InitContainerInfo.ended (c : InitContainerInfo) : Bool := Py.truthy c.lastTerminatedReason

/-- The one whose name the hypothesis gives. -/
def blamedInit (d : Describe) : Option InitContainerInfo :=
  d.initContainers.find? InitContainerInfo.failed

/-- The log `_read_logs` reads for a container of a pod. -/
def containerLog (cl : Client) (ns pod container : String) : List String :=
  readLogs cl .initLogs ns pod (nonEmpty (some container)) false

/-- The init log line a hypothesis cites comes from the log of the container it names. -/
def CitesNamed (cl : Client) (ns pod : String) (ctx : Context) : Prop :=
  ∀ h c e, initContainerFailure ctx = some h → blamedInit ctx.describe = some c →
    e ∈ h.evidence → e.source = "logs" →
      ∃ line ∈ containerLog cl ns pod c.name, e.summary = "init log: " ++ Py.slice line 160

/-- **The pod's init containers cannot be mixed up**: whatever cluster it is in and whatever its
logs say, a diagnosis that describes it cites the container it names. -/
def NamesItsSource (p : Pod) : Prop :=
  ∀ (w : World) (cluster : Option String) (name : String) (cl : Client) (ns subject : String)
    (ctx : Context), w.reach cluster ns = .ok (name, cl) →
      collectContext w cluster ns subject = .ok ctx →
      targetPod (podNamesOf cl ns subject) = some p.name → cl.readPod .describe ns p.name = .ok p →
        CitesNamed cl ns p.name ctx

/-- Before the first init container that failed none has ended, unless the first of these has the
same name. -/
def NoneEndedBefore (inits : List InitContainerInfo) : Prop :=
  ∀ before c after, inits = before ++ c :: after → c.failed = true →
    (∀ b ∈ before, b.failed = false) → ∀ b ∈ before.find? InitContainerInfo.ended, b.name = c.name

/-! ## What is blamed, and what is read

Both searches stop at the first hit. Up to the first container that failed they can differ only by
containers that ended well. -/

/-- The one blamed, with those before it, none of which failed. -/
theorem blamedInit_split {d : Describe} {c : InitContainerInfo} (h : blamedInit d = some c) :
    ∃ before after, d.initContainers = before ++ c :: after ∧ c.failed = true ∧
      ∀ b ∈ before, b.failed = false := by
  obtain ⟨hc, before, after, heq, hbefore⟩ := List.find?_eq_some_iff_append.mp h
  exact ⟨before, after, heq, hc, fun b hb => by simpa using hbefore b hb⟩

/-- Where the first one failed, the log read is that of the first one that ended before it, or its
own. -/
theorem failingInit_split {d : Describe} {before after : List InitContainerInfo}
    {c : InitContainerInfo} (heq : d.initContainers = before ++ c :: after) (hc : c.failed = true)
    (hbefore : ∀ b ∈ before, b.failed = false) :
    failingInit d = (before.find? InitContainerInfo.ended).or (some c) := by
  have hhead : (isCrashReason c.waitingReason || Py.truthy c.lastTerminatedReason) = true := by
    rw [InitContainerInfo.failed, Bool.or_eq_true, Bool.and_eq_true] at hc
    rw [Bool.or_eq_true]
    exact hc.imp_right And.left
  -- before the failing one the two predicates differ in containers that ended well
  have hsame : before.find? (fun b => isCrashReason b.waitingReason || Py.truthy b.lastTerminatedReason) =
      before.find? InitContainerInfo.ended := by
    apply List.find?_congr
    intro b hb
    have hb' := hbefore b hb
    rw [InitContainerInfo.failed, Bool.or_eq_false_iff] at hb'
    rw [hb'.1, Bool.false_or]
    rfl
  rw [failingInit, heq, List.find?_append, hsame]
  simp only [List.find?_cons, hhead]

/-- A hypothesis about a container cites the last error of the init logs, if there is one. -/
theorem initContainerFailure_blamed {ctx : Context} {c : InitContainerInfo}
    (hb : blamedInit ctx.describe = some c) :
    ∃ h, initContainerFailure ctx = some h ∧ ∀ e, e ∈ h.evidence ∧ e.source = "logs" ↔
      initError ctx ≠ "" ∧
        e = { source := "logs", summary := "init log: " ++ Py.slice (initError ctx) 160, weight := 0.3 } := by
  have hb' : (ctx.describe.initContainers.find? fun c => isCrashReason c.waitingReason ||
      (Py.truthy c.lastTerminatedReason && c.lastExitCode.any (· != 0))) = some c := hb
  unfold initContainerFailure
  rw [hb']
  dsimp only
  rw [if_neg (by simp)]
  refine ⟨_, rfl, fun e => ?_⟩
  show e ∈ (if initError ctx = "" then _ else _ : Hypothesis).evidence ∧ _ ↔ _
  -- the line of the log is cited only if there is one
  by_cases herr : initError ctx = ""
  · rw [if_pos herr]
    simp only [List.mem_singleton, herr, ne_eq, not_true_eq_false, false_and, iff_false, not_and]
    rintro rfl hsource
    simp at hsource
  · rw [if_neg herr]
    simp only [List.mem_append, List.mem_singleton, herr, ne_eq, not_false_eq_true, true_and]
    constructor
    · rintro ⟨rfl | rfl, hsource⟩
      · simp at hsource
      · rfl
    · rintro rfl
      exact ⟨.inr rfl, rfl⟩

/-- The line cited is one of those read. -/
theorem initError_mem {ctx : Context} (h : initError ctx ≠ "") : initError ctx ∈ ctx.initLogs := by
  unfold initError lastLineWith at *
  cases hline : ctx.initLogs.reverse.find? fun ln => Py.containsAny (Py.lower ln)
      ["error", "fatal", "fail", "cannot", "denied", "lock", "timeout"] with
  | some line => exact List.mem_reverse.mp (List.mem_of_find?_eq_some hline)
  | none =>
      rw [hline] at h
      rw [Option.getD_none] at *
      cases hlogs : ctx.initLogs with
      | nil => rw [hlogs] at h; exact absurd rfl h
      | cons l ls =>
          rw [List.getLastD_cons]
          exact List.getLastD_mem_cons

variable {cl : Client} {ns subject : String}

/-- The init logs of a context are those of the container that was read. -/
theorem initLogs_of_describe {pod : String} {p : Pod}
    (htarget : targetPod (podNamesOf cl ns subject) = some pod)
    (hread : cl.readPod .describe ns pod = .ok p) (name : String) (pdbs : List PdbInfo)
    (anchor : Option Py.DateTime) :
    (bundleOf cl name ns subject pdbs anchor).describe = describePod p ∧
      ∀ c, failingInit (describePod p) = some c →
        (bundleOf cl name ns subject pdbs anchor).initLogs = containerLog cl ns pod c.name := by
  -- the description that was read is that of the pod
  have hdescribe : (resultsOf cl ns subject).describe = describePod p := by
    rw [resultsOf, htarget, fanOut]
    dsimp only
    rw [kubernetesDescribe, hread]
    rfl
  refine ⟨hdescribe, fun c hc => ?_⟩
  have hfailing : failingInit (resultsOf cl ns subject).describe = some c := by rw [hdescribe, hc]
  have htarget' : targetPod (resolveSubject cl ns subject).2.podNames = some pod := htarget
  unfold bundleOf bundle
  dsimp only
  rw [htarget', hfailing]
  rfl

/-- One log for both, and the line cited is in it. -/
theorem namesItsSource_of_none {p : Pod} (h : NoneEndedBefore (describePod p).initContainers) :
    NamesItsSource p := by
  intro w cluster name cl ns subject ctx hreach hctx htarget hread hyp c e hfire hblamed he hsource
  rw [collectContext_of_reach hreach] at hctx
  obtain ⟨-, -, pdbs, anchor, recent, rfl, -⟩ := collectFrom_inv hctx
  obtain ⟨hdescribe, hlogs⟩ := initLogs_of_describe htarget hread name pdbs anchor
  obtain ⟨hyp', hfire', hcited⟩ := initContainerFailure_blamed hblamed
  obtain rfl : hyp' = hyp := Option.some.inj (hfire'.symm.trans hfire)
  obtain ⟨hne, rfl⟩ := (hcited e).mp ⟨he, hsource⟩
  refine ⟨_, ?_, rfl⟩
  have hmem := initError_mem hne
  change blamedInit (bundleOf cl name ns subject pdbs anchor).describe = some c at hblamed
  rw [hdescribe] at hblamed
  obtain ⟨before, after, heq, hc, hbefore⟩ := blamedInit_split hblamed
  have hchosen := failingInit_split heq hc hbefore
  have hsame := h before c after heq hc hbefore
  -- whichever of the two was read, its name is the one given
  cases hended : before.find? InitContainerInfo.ended with
  | none =>
      rw [hended, Option.none_or] at hchosen
      rw [← hlogs c hchosen]
      exact hmem
  | some b =>
      rw [hended, Option.some_or] at hchosen
      rw [← hsame b hended, ← hlogs b hchosen]
      exact hmem

/-! ## Where they are mixed up

A cluster is made for the pod, in which only the container that is read has an error in its log. The
diagnosis then cites that error under another name. -/

/-- A cluster with one pod, in which one init container logs an error and the others nothing. -/
def oneErrorLog (p : Pod) (container : String) : Client where
  namespaces _ :=
    { pods := [p]
      pods_nodup := List.nodup_singleton _
      podLog := fun _ read _ => .ok (if read = nonEmpty (some container) then "error" else "") }

/-- The pod is there in every namespace, and the subject is this pod, without labels. -/
theorem oneErrorLog_readPod (p : Pod) (container : String) (read : Kube.Read) (ns : String) :
    (oneErrorLog p container).readPod read ns p.name = .ok p := by
  simp [Client.readPod, Client.attempt, Kube.byName, oneErrorLog]

theorem oneErrorLog_podNames (p : Pod) (container ns : String) :
    podNamesOf (oneErrorLog p container) ns p.name = [p.name] ∧
      selectorLabelsOf (oneErrorLog p container) ns p.name = [] := by
  have htry : tryPod (oneErrorLog p container) ns p.name {} =
      (true, { podNames := [p.name] }) := by
    rw [tryPod, oneErrorLog_readPod]
  rw [podNamesOf, selectorLabelsOf, resolveSubject, orTry_of_true (orTry_of_true (orTry_of_true htry))]
  exact ⟨rfl, rfl⟩

/-- Only one of its logs has a line. -/
theorem containerLog_oneError (p : Pod) (container ns name : String) :
    containerLog (oneErrorLog p container) ns p.name name = if name = container then ["error"] else [] := by
  have hsplit : Py.splitlines "error" = ["error"] := by decide
  have hnone : Py.splitlines "" = [] := by decide
  show Py.splitlines (if nonEmpty (some name) = nonEmpty (some container) then "error" else "") = _
  -- an empty name stands for no name, on both sides
  have hname : nonEmpty (some name) = nonEmpty (some container) ↔ name = container := by
    constructor
    · intro h
      by_cases hn : name = "" <;> by_cases hc : container = "" <;>
        simp_all [nonEmpty, Option.filter]
    · rintro rfl
      rfl
  by_cases h : name = container
  · rw [if_pos (hname.mpr h), if_pos h, hsplit]
  · rw [if_neg (mt hname.mp h), if_neg h, hnone]

/-- **Another container's line** is cited, where another one ended before. -/
theorem cites_other {p : Pod} (hname : p.name ≠ "") {before after : List InitContainerInfo}
    {b c : InitContainerInfo} (heq : (describePod p).initContainers = before ++ c :: after)
    (hc : c.failed = true) (hbefore : ∀ b ∈ before, b.failed = false)
    (hb : before.find? InitContainerInfo.ended = some b) (hother : b.name ≠ c.name) :
    ¬ NamesItsSource p := by
  intro h
  obtain ⟨hnames, hlabels⟩ := oneErrorLog_podNames p b.name "default"
  have htarget : targetPod (podNamesOf (oneErrorLog p b.name) "default" p.name) = some p.name := by
    rw [hnames]
    simp [targetPod, nonEmpty, hname]
  have hread := oneErrorLog_readPod p b.name .describe "default"
  have hpdbs : ¬ MeetsNullSelector (oneErrorLog p b.name) "default" p.name := fun hm => hm.1 hlabels
  obtain ⟨pdbs, anchor, recent, hctx, -⟩ := collectFrom_ok rfl hpdbs "prod" demoNow
  obtain ⟨hdescribe, hlogs⟩ := initLogs_of_describe htarget hread "prod" pdbs anchor
  -- an earlier container that ended well is the one whose log is read
  have hchosen := failingInit_split heq hc hbefore
  rw [hb, Option.some_or] at hchosen
  have hinit := hlogs b hchosen
  rw [containerLog_oneError, if_pos rfl] at hinit
  -- the failing one is the one that is blamed
  have hblamed : blamedInit (bundleOf (oneErrorLog p b.name) "prod" "default" p.name pdbs
      anchor).describe = some c := by
    rw [hdescribe]
    refine List.find?_eq_some_iff_append.mpr ⟨hc, before, after, heq, fun b' hb' => ?_⟩
    simpa using hbefore b' hb'
  have herr : initError { bundleOf (oneErrorLog p b.name) "prod" "default" p.name pdbs anchor with
      recentChange := recent } = "error" := by
    unfold initError
    dsimp only
    rw [hinit]
    decide
  obtain ⟨hyp, hfire, hcited⟩ := @initContainerFailure_blamed
    { bundleOf (oneErrorLog p b.name) "prod" "default" p.name pdbs anchor with
      recentChange := recent } c hblamed
  obtain ⟨he, hsource⟩ := (hcited _).mpr ⟨by rw [herr]; decide, rfl⟩
  obtain ⟨line, hline, -⟩ := h (demoWorld (oneErrorLog p b.name)) (some "prod") "prod" _ "default"
    p.name _ rfl ((collectContext_of_reach rfl).trans hctx) htarget hread hyp c _ hfire hblamed he
    hsource
  rw [containerLog_oneError, if_neg (Ne.symm hother)] at hline
  cases hline

/-- **Exactly when blame and evidence agree.** For every pod: the init log line a diagnosis cites is
from the container it names, in every cluster and whatever the logs, iff none ended before the first
one that failed. (A pod without a name is not described at all.) -/
theorem namesItsSource_iff (p : Pod) :
    NamesItsSource p ↔ (p.name ≠ "" → NoneEndedBefore (describePod p).initContainers) := by
  constructor
  · intro h hname before c after heq hc hbefore b hb
    by_contra hother
    exact cites_other hname heq hc hbefore hb hother h
  · intro h
    by_cases hname : p.name = ""
    · intro w cluster name cl ns subject ctx _ _ htarget
      rw [hname, targetPod, nonEmpty] at htarget  -- a target pod has a name
      have hne := (Option.filter_eq_some_iff.mp htarget).2
      simp at hne
    · exact namesItsSource_of_none (h hname)

/-- An init container that ran to its end, was restarted and is done again, and one that fails. -/
def twoInits : Pod where
  name := "web-0"
  initContainers := [{ name := "fetch-config" }, { name := "migrate" }]
  initContainerStatuses :=
    [{ name := "fetch-config", lastTerminated := some { reason := some "Completed", exitCode := 0 } },
     { name := "migrate", waiting := some ⟨some "CrashLoopBackOff"⟩
       lastTerminated := some { reason := some "Error", exitCode := 1 } }]

/-- `migrate` is blamed on what `fetch-config` logged. -/
theorem twoInits_mixed_up : ¬ NamesItsSource twoInits := by
  have heq : (describePod twoInits).initContainers =
      [{ name := "fetch-config", lastTerminatedReason := some "Completed", lastExitCode := some 0 }] ++
        { name := "migrate", waitingReason := some "CrashLoopBackOff"
          lastTerminatedReason := some "Error", lastExitCode := some 1 } :: [] := by decide
  exact cites_other (by decide) heq (by decide) (by decide) rfl (by decide)

end SreAgent.Rca
