import SreAgent.Rca.Modest
import SreAgent.Rca.PodScope

/-!
# Denied reads

What the API server denies to `collect_context` should cost the diagnosis that one signal and be
named in the report. `degradesHonestly_iff` says for which denied reads it does.

The reads of the fan-out are guarded; those that resolve the subject, the list of pods and the logs
are not, or swallow what went wrong. A denied read is honest if it is one of the former. Resolving
the subject is delicate: a denied attempt sends the code on to the next, and may end with other
labels.
-/

namespace SreAgent.Rca

open Kube (Client Read Labels Pod Timestamp)

/-- The cluster `cl` behind an API server that denies some reads and answers all others. -/
def denying (cl : Client) (denied : Read → Bool) : Client :=
  { cl with faults := fun read => if denied read then some (.apiException 403) else none }

variable {cl : Client} {denied : Read → Bool} {ns subject : String}

/-- It answers exactly what is not denied. -/
theorem denying_faults {read : Read} :
    (denying cl denied).faults read = none ↔ denied read = false := by
  show (if denied read then some (Exc.apiException 403) else none) = none ↔ _
  cases denied read <;> simp

/-! ## The reads that are issued

Which reads are issued depends on the answers to earlier ones. `Issued` is that dependence, one
constructor for each place in the source. -/

/-- The reads `collect_context` issues. An attempt to resolve the subject runs if the ones before it
failed; what comes after the pod list, if the list was read. -/
inductive Issued (cl : Client) (ns subject : String) : Read → Prop where
  | resolvePod : Issued cl ns subject .resolvePod
  | resolveDeployment (hpod : (tryPod cl ns subject {}).1 = false) :
      Issued cl ns subject .resolveDeployment
  | deploymentPods {w : Kube.Workload} (hpod : (tryPod cl ns subject {}).1 = false)
      (hread : cl.attempt .resolveDeployment
        (Kube.byName Kube.Workload.name (cl.namespaces ns).deployments subject) = .ok w) :
      Issued cl ns subject .deploymentPods
  | resolveStatefulSet (hpod : (tryPod cl ns subject {}).1 = false)
      (hdeploy : (tryDeployment cl ns subject {}).1 = false) :
      Issued cl ns subject .resolveStatefulSet
  | statefulSetPods {w : Kube.Workload} (hpod : (tryPod cl ns subject {}).1 = false)
      (hdeploy : (tryDeployment cl ns subject {}).1 = false)
      (hread : cl.attempt .resolveStatefulSet
        (Kube.byName Kube.Workload.name (cl.namespaces ns).statefulSets subject) = .ok w) :
      Issued cl ns subject .statefulSetPods
  | resolveJob (hpod : (tryPod cl ns subject {}).1 = false)
      (hdeploy : (tryDeployment cl ns subject {}).1 = false)
      (hsts : (tryStatefulSet cl ns subject {}).1 = false) :
      Issued cl ns subject .resolveJob
  | jobPods {job : Kube.Job} (hpod : (tryPod cl ns subject {}).1 = false)
      (hdeploy : (tryDeployment cl ns subject {}).1 = false)
      (hsts : (tryStatefulSet cl ns subject {}).1 = false)
      (hread : cl.attempt .resolveJob
        (Kube.byName Kube.Job.name (cl.namespaces ns).jobs subject) = .ok job) :
      Issued cl ns subject .jobPods
  | podList : Issued cl ns subject .podList
  | fanOut {read : Read} (hlist : cl.faults .podList = none)
      (hread : read ∈ [.events, .nodes, .secrets, .services, .hpas, .pdbs]) :
      Issued cl ns subject read
  | target {read : Read} {pod : String} (hlist : cl.faults .podList = none)
      (htarget : targetPod (podNamesOf cl ns subject) = some pod)
      (hread : read ∈ [.describe, .logs, .previousLogs]) : Issued cl ns subject read
  | initLogs {pod : String} {c : InitContainerInfo} (hlist : cl.faults .podList = none)
      (hpdbs : ¬ MeetsNullSelector cl ns subject)
      (htarget : targetPod (podNamesOf cl ns subject) = some pod)
      (hinit : failingInit (resultsOf cl ns subject).describe = some c) :
      Issued cl ns subject .initLogs

/-- The name of what a read is for: the keys of `futures`. The reads before and after the fan-out
have none. -/
def signal : Read → Option String
  | .events       => some "events"
  | .nodes        => some "nodes"
  | .secrets      => some "secrets"
  | .services     => some "services"
  | .hpas         => some "hpas"
  | .pdbs         => some "pdbs"
  | .describe     => some "describe"
  | .logs         => some "logs"
  | .previousLogs => some "previous_logs"
  | _             => none

/-- The reads whose failure `collect_context` notes. -/
def notedReads : List Read := [.events, .nodes, .secrets, .services, .hpas, .pdbs, .describe]

/-- No two reads have one key, and no key has a comma in it. -/
theorem signal_inj {r s : Read} {key : String} (hr : signal r = some key)
    (hs : signal s = some key) : r = s := by
  have hall : ∀ r s : Read, (signal r).isSome → signal r = signal s → r = s := by
    intro r s
    cases r <;> cases s <;> simp [signal]
  exact hall r s (by simp [hr]) (hr.trans hs.symm)

theorem signal_noComma {r : Read} {key : String} (h : signal r = some key) : ',' ∉ key.toList := by
  cases r <;> cases h <;> decide

/-! ## The note

The signals are joined by commas in one line of evidence of weight zero. Since no key has a comma,
the line determines the list. -/

/-- The notes about unavailable inputs in a list of evidence. -/
def notesIn (evidence : List Evidence) : List String :=
  (evidence.filter fun e => e.source == "k8s" && e.weight == 0 &&
    Py.startsWith e.summary "Partial inputs — reads unavailable for: ").map Evidence.summary

/-- One note that names these signals, or no note if there are none. -/
def Names (report : RCAReport) (signals : List String) : Prop :=
  notesIn report.evidence = if signals.isEmpty then [] else [degradedNote signals]

/-- The report names exactly the signals whose read was issued and denied. -/
def Honest (cl : Client) (denied : Read → Bool) (ns subject : String) (report : RCAReport) : Prop :=
  ∃ signals, Names report signals ∧
    (∀ read, Issued (denying cl denied) ns subject read → denied read = true →
      ∃ key ∈ signals, signal read = some key) ∧
    (∀ key ∈ signals, ∃ read, Issued (denying cl denied) ns subject read ∧ denied read = true ∧
      signal read = some key)

/-- A note says which signals it is about. -/
theorem degradedNote_inj {signals signals' : List String} (hne : signals ≠ []) (hne' : signals' ≠ [])
    (h : ∀ s ∈ signals, ',' ∉ s.toList) (h' : ∀ s ∈ signals', ',' ∉ s.toList)
    (heq : degradedNote signals = degradedNote signals') : signals = signals' := by
  apply Py.join_comma_inj hne hne' h h'
  unfold degradedNote at heq
  exact (String.append_right_inj _).mp ((String.append_left_inj _).mp heq)

/-- A report has at most one set of names. -/
theorem Names.unique {report : RCAReport} {signals signals' : List String}
    (hs : Names report signals) (hs' : Names report signals') (h : ∀ s ∈ signals, ',' ∉ s.toList)
    (h' : ∀ s ∈ signals', ',' ∉ s.toList) : signals = signals' := by
  have heq := hs.symm.trans hs'
  cases signals with  -- no signal gives no note, so the lists are both empty or neither is
  | nil =>
      cases signals' with
      | nil => rfl
      | cons t ts => cases heq
  | cons t ts =>
      cases signals' with
      | nil => cases heq
      | cons t' ts' =>
          apply degradedNote_inj (by simp) (by simp) h h'
          exact (List.cons.inj heq).1

/-! ## What `diagnose` notes

Between the collection and the report evidence is only added. What is added has a weight, so it is
no note. -/

/-- The runbook adds weighted evidence and leaves the target alone. -/
theorem attachRunbook_evidence (rb : Runbooks) (h : Hypothesis) :
    (attachRunbook rb h).rollbackTarget = h.rollbackTarget ∧
      ∃ extra, (attachRunbook rb h).evidence = h.evidence ++ extra ∧
        ∀ e ∈ extra, e.weight ≠ 0 := by
  unfold attachRunbook
  split
  · exact ⟨rfl, [], (List.append_nil _).symm, by simp⟩
  · split
    · next hit hits hlookup =>
      refine ⟨rfl, [{ source := "kb", summary := "Matched runbook: " ++ hit.title, weight := 0.05 }],
        rfl, fun e he => ?_⟩
      rw [List.mem_singleton.mp he]
      norm_num
    · exact ⟨rfl, [], (List.append_nil _).symm, by simp⟩

/-- With a target the report validates, and has the evidence of its hypothesis. -/
theorem reportOn_ok {ctx : Context} {top : Hypothesis} {others : List Hypothesis}
    {timeline : List String} {target : String} (h : top.rollbackTarget = some target) :
    ∃ report, reportOn ctx ns subject top others timeline = .ok report ∧
      report.evidence = top.evidence := by
  rw [reportOn, h]
  exact ⟨_, rfl, rfl⟩

/-- Notes are collected from each part, and none from evidence with a weight. -/
theorem notesIn_append (l l' : List Evidence) : notesIn (l ++ l') = notesIn l ++ notesIn l' := by
  rw [notesIn, List.filter_append, List.map_append]
  rfl

theorem notesIn_weighted {l : List Evidence} (h : ∀ e ∈ l, e.weight ≠ 0) : notesIn l = [] := by
  rw [notesIn, List.filter_eq_nil_iff.mpr, List.map_nil]
  intro e he
  simp [h e he]

/-- A note begins like one. -/
theorem startsWith_degradedNote (signals : List String) : Py.startsWith (degradedNote signals)
    "Partial inputs — reads unavailable for: " = true := by
  have hfront : degradedNote signals = "Partial inputs — reads unavailable for: " ++
      (Py.join ", " signals ++
        " (least-privilege identity). Analysis proceeded without them.") :=
    String.append_assoc ..
  rw [hfront]
  apply Py.startsWith_append

/-- There is one note if a read has failed, and none otherwise. -/
theorem notesIn_degraded (ctx : Context) : notesIn (degradedEvidence ctx) =
    if ctx.degradedReads.isEmpty then [] else [degradedNote ctx.degradedReads] := by
  have hstarts := startsWith_degradedNote ctx.degradedReads
  unfold degradedEvidence
  generalize degradedNote ctx.degradedReads = note at hstarts ⊢
  by_cases h : ctx.degradedReads.isEmpty
  · rw [if_pos h, if_pos h]
    rfl
  · rw [if_neg h, if_neg h, notesIn, List.filter_cons_of_pos (by simp [hstarts]), List.filter_nil]
    rfl

/-- **The report names the reads** that the context has noted. -/
theorem diagnoseContext_names {ctx : Context} (rb : Runbooks)
    (hevents : ∀ e ∈ ctx.events, AwareText (some e.timestamp))
    (hrecent : ∀ c ∈ ctx.recentChange, c.kind = .secret ∧ AwareText (some c.at_)) :
    ∃ report, diagnoseContext rb ctx ns subject = .ok report ∧
      Names report ctx.degradedReads := by
  obtain ⟨lines, hlines, -⟩ := buildTimeline_ok hevents fun c hc => (hrecent c hc).2
  unfold diagnoseContext
  rw [hlines]
  cases hev : evaluate ctx with
  | nil =>  -- the notes stand behind the evidence that nothing was found
      refine ⟨_, rfl, ?_⟩
      have hfirst : notesIn [{ source := "k8s", summary := "No CrashLoop/ImagePull/OOM/probe/node-pressure signatures matched" }] = [] := by
        decide
      show notesIn (_ :: degradedEvidence ctx) = _
      rw [← List.singleton_append, notesIn_append, hfirst, List.nil_append, notesIn_degraded]
  -- the notes stand between the evidence of the hypothesis and a runbook, neither of which looks
  -- like one
  | cons top others =>
      have hmodest : Modest top := evaluate_modest (fun c hc => (hrecent c hc).1)
        (hev ▸ List.mem_cons_self ..)
      obtain ⟨htarget, extra, hevidence, hextra⟩ :=
        attachRunbook_evidence rb { top with evidence := top.evidence ++ degradedEvidence ctx }
      obtain ⟨report, hreport, hsame⟩ := reportOn_ok (htarget.trans hmodest.target)
      refine ⟨report, hreport, ?_⟩
      rw [Names, hsame, hevidence, notesIn_append, notesIn_append, notesIn_weighted hmodest.weighted,
        notesIn_weighted hextra, List.nil_append, List.append_nil, notesIn_degraded]

/-! ## What the fan-out degrades

Of the seven guarded reads each is noted exactly if it is denied and issued. The description is the
only one that might fail otherwise, and it does not, since the pod it is about was listed. -/

/-- A noted read is issued once the pods are listed; the description only for a target pod. -/
def reachesNoted (cl : Client) (ns subject : String) (read : Read) : Bool :=
  read != .describe || (targetPod (podNamesOf cl ns subject)).isSome

/-- A read whose answer exists is noted exactly if it is denied. -/
theorem degrade_denying {α : Type} (read : Read) (key : String) (default : α) {answer : Except Exc α}
    (h : ∃ a, answer = .ok a) :
    (degrade key default ((denying cl denied).attempt read answer)).2 =
      if denied read then [key] else [] := by
  obtain ⟨a, rfl⟩ := h
  unfold Client.attempt denying
  dsimp only
  cases denied read <;> rfl

/-- What is done to an answer does not matter for the failure. -/
theorem map_attempt {α β : Type} (cl : Client) (read : Read) (answer : Except Exc α) (f : α → β) :
    (cl.attempt read answer).map f = cl.attempt read (answer.map f) := by
  unfold Client.attempt
  cases cl.faults read <;> rfl

/-- An attempt that only ever names pods of the namespace. -/
def NamesPods (cl : Client) (ns : String) (a : Attempt) : Prop :=
  ∀ r : Resolution, r.podNames ⊆ (cl.namespaces ns).pods.map Pod.name →
    (a r).2.podNames ⊆ (cl.namespaces ns).pods.map Pod.name

/-- Two attempts name pods if each does. -/
theorem NamesPods.orTry {a b : Attempt} (ha : NamesPods cl ns a) (hb : NamesPods cl ns b) :
    NamesPods cl ns (orTry a b) := by
  intro r hr
  have har := ha r hr
  unfold SreAgent.Rca.orTry
  cases hres : a r with
  | mk came r' =>
      rw [hres] at har
      cases came with
      | true  => exact har
      | false => exact hb r' har

/-- What is listed under a selector is in the namespace. -/
theorem listPods_names {read : Read} {sel : String} {pods : List Pod}
    (h : cl.listPods read ns sel = .ok pods) :
    pods.map Pod.name ⊆ (cl.namespaces ns).pods.map Pod.name := by
  obtain ⟨-, hpods⟩ := Kube.Client.attempt_eq_ok.mp h
  obtain rfl := Except.ok.inj hpods
  exact List.map_subset _ (List.filter_subset_self _)

/-- Each of the attempts names pods of the namespace: -/
theorem tryPod_names (subject : String) : NamesPods cl ns (tryPod cl ns subject) := by
  intro r hr
  unfold tryPod
  split
  · exact hr
  · next p hread =>
    obtain ⟨hmem, hname⟩ := Kube.byName_eq_ok (Kube.Client.attempt_eq_ok.mp hread).2
    intro name hm
    rw [List.mem_singleton.mp hm, ← hname]
    exact List.mem_map_of_mem hmem

/-- those of a workload and of a job are listed there. -/
theorem tryWorkload_names (readAt podsAt : Read) (workloads : List Kube.Workload)
    (subject : String) : NamesPods cl ns (tryWorkload cl readAt podsAt workloads ns subject) := by
  intro r hr
  unfold tryWorkload
  split
  · exact hr
  · dsimp only
    split
    · exact hr
    · next pods hlist => exact listPods_names hlist

theorem tryJob_names (subject : String) : NamesPods cl ns (tryJob cl ns subject) := by
  intro r hr
  unfold tryJob
  split
  · exact hr
  · dsimp only
    split
    · exact hr
    · next pods hlist => exact listPods_names hlist

/-- The pods of the subject are pods of the namespace. -/
theorem podNamesOf_subset (cl : Client) (ns subject : String) :
    podNamesOf cl ns subject ⊆ (cl.namespaces ns).pods.map Pod.name := by
  have hdeploy : NamesPods cl ns (tryDeployment cl ns subject) := tryWorkload_names _ _ _ _
  have hsts : NamesPods cl ns (tryStatefulSet cl ns subject) := tryWorkload_names _ _ _ _
  have hall := (((tryPod_names subject).orTry hdeploy).orTry hsts).orTry (tryJob_names subject)
  exact hall {} (List.nil_subset _)

/-- So the target pod is there to be described, and describing it fails only if it is denied. -/
theorem target_exists {pod : String} (h : targetPod (podNamesOf cl ns subject) = some pod) :
    ∃ p, Kube.byName Pod.name (cl.namespaces ns).pods pod = .ok p := by
  have hmem := podNamesOf_subset cl ns subject
    (List.mem_of_mem_head? (Option.filter_eq_some_iff.mp h).1)
  obtain ⟨p, hp, hname⟩ := List.mem_map.mp hmem
  have hsome : ((cl.namespaces ns).pods.find? fun p => p.name == pod).isSome := by
    rw [List.find?_isSome]
    exact ⟨p, hp, by simp [hname]⟩
  obtain ⟨q, hq⟩ := Option.isSome_iff_exists.mp hsome
  exact ⟨q, by rw [Kube.byName, hq]⟩

theorem degrade_describe {pod : String}
    (h : targetPod (podNamesOf (denying cl denied) ns subject) = some pod) :
    (degrade "describe" {} (kubernetesDescribe (denying cl denied) ns pod)).2 =
      if denied .describe then ["describe"] else [] := by
  obtain ⟨p, hp⟩ := target_exists h
  rw [kubernetesDescribe, Client.readPod, map_attempt]
  apply degrade_denying
  exact ⟨describePod p, congrArg (Except.map describePod) hp⟩

/-- The reads noted, in the order of the futures. -/
theorem resultsOf_degradedReads (cl : Client) (denied : Read → Bool) (ns subject : String) :
    (resultsOf (denying cl denied) ns subject).degradedReads =
      notedReads.flatMap fun read =>
        if denied read && reachesNoted (denying cl denied) ns subject read
        then (signal read).toList else [] := by
  unfold resultsOf fanOut reachesNoted
  dsimp only
  rw [map_attempt]
  simp only [Except.map, degrade_denying _ _ _ ⟨_, rfl⟩]
  cases htarget : targetPod (podNamesOf (denying cl denied) ns subject) with
  | none => simp [notedReads, signal]  -- without a target pod nothing is described
  | some pod =>
      dsimp only
      rw [degrade_describe htarget]
      simp [notedReads, signal]

/-- A guarded read is issued once the pods are listed. -/
theorem issued_noted (hlist : denied .podList = false) {read : Read} (hread : read ∈ notedReads) :
    Issued (denying cl denied) ns subject read ↔
      reachesNoted (denying cl denied) ns subject read = true := by
  have hpods : (denying cl denied).faults .podList = none := denying_faults.mpr hlist
  unfold reachesNoted
  by_cases hdescribe : read = .describe  -- all but the description are issued with the fan-out
  · subst hdescribe
    constructor
    · intro h
      cases h with
      | fanOut _ hmem => exact absurd hmem (by decide)
      | target _ htarget _ => simp [htarget]
    · intro h
      obtain ⟨pod, hpod⟩ := Option.isSome_iff_exists.mp (show Option.isSome _ = true by simpa using h)
      exact .target hpods hpod (by decide)
  · refine iff_of_true (.fanOut hpods ?_) (by simp [hdescribe])
    simpa [notedReads, hdescribe] using hread

/-- **What is noted is what was issued and denied**: a read that was not made leaves no note, and
one that was answered leaves none either. -/
theorem mem_degradedReads (hlist : denied .podList = false) {key : String} :
    key ∈ (resultsOf (denying cl denied) ns subject).degradedReads ↔
      ∃ read ∈ notedReads, Issued (denying cl denied) ns subject read ∧ denied read = true ∧
        signal read = some key := by
  rw [resultsOf_degradedReads, List.mem_flatMap]
  refine exists_congr fun read => and_congr_right fun hread => ?_
  rw [issued_noted hlist hread]
  cases denied read
  · simp
  · cases reachesNoted (denying cl denied) ns subject read <;> simp

/-! ## The labels the budgets are compared with

Whether a budget without a selector is met depends on the labels of the subject. They are those of
the workload if no attempt to resolve it is denied. -/

/-- A read that is not denied is answered. -/
theorem attempt_denying {α : Type} {read : Read} (h : denied read = false) (answer : Except Exc α) :
    (denying cl denied).attempt read answer = answer := by
  rw [Client.attempt, denying_faults.mpr h]

/-- A pod that may be read is found if it is there. -/
theorem tryPod_eq (h : denied .resolvePod = false) (r : Resolution) :
    tryPod (denying cl denied) ns subject r =
      match Kube.byName Pod.name (cl.namespaces ns).pods subject with
      | .error _ => (false, r)
      | .ok _    => (true, { r with podNames := [subject] }) := by
  rw [tryPod, Client.readPod, attempt_denying h]
  rfl

/-- A workload that may be read is found if it is there, and its labels are kept. -/
theorem tryWorkload_answered {readAt podsAt : Read} {workloads : List Kube.Workload}
    (hread : denied readAt = false)
    (hlist : ∀ w, (denying cl denied).attempt readAt
      (Kube.byName Kube.Workload.name workloads subject) = .ok w → denied podsAt = false)
    (r : Resolution) :
    match Kube.byName Kube.Workload.name workloads subject with
    | .ok w    => ∃ r', tryWorkload (denying cl denied) readAt podsAt workloads ns subject r =
        (true, r') ∧ r'.selectorLabels = w.selector.matchLabels
    | .error _ => tryWorkload (denying cl denied) readAt podsAt workloads ns subject r =
        (false, r) := by
  have hanswer := @attempt_denying cl denied _ _ hread
    (Kube.byName Kube.Workload.name workloads subject)
  cases hfind : Kube.byName Kube.Workload.name workloads subject with
  | ok w =>  -- a workload that was found has its pods listed, and leaves its labels
      have hfound := hanswer.trans hfind
      exact ⟨_, tryWorkload_ok hfound (denying_faults.mpr (hlist w hfound)) r, rfl⟩
  | error e =>
      rw [tryWorkload, hanswer, hfind]

/-- A job leaves no labels. -/
theorem tryJob_selectorLabels (r : Resolution) :
    (tryJob cl ns subject r).2.selectorLabels = r.selectorLabels := by
  unfold tryJob
  split
  · rfl
  · dsimp only
    split <;> rfl

/-- The `match_labels` of the workload a subject stands for, if it is no pod. -/
def workloadLabels (n : Kube.Namespace) (subject : String) : Labels :=
  match Kube.byName Pod.name n.pods subject with
  | .ok _    => []
  | .error _ =>
    match Kube.byName Kube.Workload.name n.deployments subject with
    | .ok w    => w.selector.matchLabels
    | .error _ =>
      match Kube.byName Kube.Workload.name n.statefulSets subject with
      | .ok w    => w.selector.matchLabels
      | .error _ => []

/-- Only noted reads are denied: those whose failure the collection catches and writes down. The
listing of the pods is not among them. -/
def DeniesNoted (cl : Client) (denied : Read → Bool) (ns subject : String) : Prop :=
  ∀ read, Issued (denying cl denied) ns subject read → denied read = true → read ∈ notedReads

/-- Where only guarded reads are denied, the others are answered. -/
theorem DeniesNoted.answered (h : DeniesNoted cl denied ns subject) {read : Read}
    (hissued : Issued (denying cl denied) ns subject read) (hread : read ∉ notedReads) :
    denied read = false := by
  by_contra hd
  exact hread (h read hissued (by simpa using hd))

/-- If no read of the resolution is denied, the labels are those of the workload. -/
theorem DeniesNoted.selectorLabels (h : DeniesNoted cl denied ns subject) :
    selectorLabelsOf (denying cl denied) ns subject = workloadLabels (cl.namespaces ns) subject := by
  have hpod := @tryPod_eq cl denied ns subject (h.answered .resolvePod (by decide)) {}
  unfold selectorLabelsOf resolveSubject workloadLabels
  cases hp : Kube.byName Pod.name (cl.namespaces ns).pods subject with
  | ok p =>
      rw [hp] at hpod
      rw [orTry_of_true (orTry_of_true (orTry_of_true hpod))]
  | error e =>
      rw [hp] at hpod
      have hfail : (tryPod (denying cl denied) ns subject {}).1 = false := by rw [hpod]
      have hdeploy := @tryWorkload_answered cl denied ns subject _ .deploymentPods
        (cl.namespaces ns).deployments (h.answered (.resolveDeployment hfail) (by decide))
        (fun w hw => h.answered (.deploymentPods hfail hw) (by decide)) {}
      cases hd : Kube.byName Kube.Workload.name (cl.namespaces ns).deployments subject with
      | ok w =>
          rw [hd] at hdeploy
          obtain ⟨r, hdeploy, hlabels⟩ : ∃ r, tryDeployment (denying cl denied) ns subject {} =
            (true, r) ∧ r.selectorLabels = w.selector.matchLabels := hdeploy
          rw [orTry_of_true (orTry_of_true ((orTry_of_false hpod).trans hdeploy))]
          exact hlabels
      | error e' =>
          rw [hd] at hdeploy
          have hdeploy : tryDeployment (denying cl denied) ns subject {} = (false, {}) := hdeploy
          have hfail' : (tryDeployment (denying cl denied) ns subject {}).1 = false := by rw [hdeploy]
          have hfirst := (orTry_of_false hpod).trans hdeploy
          have hsts := @tryWorkload_answered cl denied ns subject _ .statefulSetPods
            (cl.namespaces ns).statefulSets
            (h.answered (.resolveStatefulSet hfail hfail') (by decide))
            (fun w hw => h.answered (.statefulSetPods hfail hfail' hw) (by decide)) {}
          cases hs : Kube.byName Kube.Workload.name (cl.namespaces ns).statefulSets subject with
          | ok w =>
              rw [hs] at hsts
              obtain ⟨r, hsts, hlabels⟩ : ∃ r, tryStatefulSet (denying cl denied) ns subject {} =
                (true, r) ∧ r.selectorLabels = w.selector.matchLabels := hsts
              rw [orTry_of_true ((orTry_of_false hfirst).trans hsts)]
              exact hlabels
          | error e'' =>
              rw [hs] at hsts  -- a Job, or nothing: neither has labels
              have hsts : tryStatefulSet (denying cl denied) ns subject {} = (false, {}) := hsts
              rw [orTry_of_false ((orTry_of_false hfirst).trans hsts), tryJob_selectorLabels]

/-- The budgets are those of the namespace, unless they are denied. -/
theorem pdbs_denying : (resultsOf (denying cl denied) ns subject).pdbs =
    if denied .pdbs then [] else (cl.namespaces ns).pdbs := by
  unfold resultsOf fanOut Client.attempt denying
  dsimp only
  cases denied .pdbs <;> rfl

/-- Every budget that is compared with the labels of a workload has a selector, so the comparison
does not raise. -/
def BudgetsSelect (cl : Client) (denied : Read → Bool) (ns subject : String) : Prop :=
  workloadLabels (cl.namespaces ns) subject ≠ [] → denied .pdbs = false →
    ∀ p ∈ (cl.namespaces ns).pdbs, p.selector ≠ none

/-- So meeting a budget without selector can be read off the namespace. -/
theorem DeniesNoted.budgets (h : DeniesNoted cl denied ns subject) :
    BudgetsSelect cl denied ns subject ↔ ¬ MeetsNullSelector (denying cl denied) ns subject := by
  unfold BudgetsSelect MeetsNullSelector
  rw [h.selectorLabels, pdbs_denying]
  cases denied .pdbs <;> simp

/-! ## Honest degradation

In one direction the report is constructed. In the other, the report determines its note, the note
determines the signals, and a denied read without a signal cannot be among them. -/

/-- `diagnose` returns a report that names exactly what was denied: no exception leaves it, nothing
that failed is left out, and nothing else is named. -/
def DegradesHonestly (w : World) (rb : Runbooks) (cluster : Option String) (ns subject : String)
    (cl : Client) (denied : Read → Bool) : Prop :=
  ∃ report, diagnose w rb cluster ns subject = .ok report ∧ Honest cl denied ns subject report

/-- What is known of a diagnosis that gets past the collection. -/
theorem diagnose_names {w : World} {cluster : Option String} {name : String} (rb : Runbooks)
    (hreach : w.reach cluster ns = .ok (name, cl)) (hlist : cl.faults .podList = none)
    (hpdbs : ¬ MeetsNullSelector cl ns subject) :
    ∃ report, diagnose w rb cluster ns subject = .ok report ∧
      Names report (resultsOf cl ns subject).degradedReads := by
  obtain ⟨pdbs, anchor, recent, hctx, hrecent⟩ := collectFrom_ok hlist hpdbs name w.now
  rw [diagnose, collectContext_of_reach hreach, hctx]
  exact diagnoseContext_names rb (aware_selectEvents _ _ _) hrecent

/-- A report means that the collection came through. -/
theorem diagnose_collected {w : World} {cluster : Option String} {name : String} {rb : Runbooks}
    {report : RCAReport} (hreach : w.reach cluster ns = .ok (name, cl))
    (h : diagnose w rb cluster ns subject = .ok report) :
    cl.faults .podList = none ∧ ¬ MeetsNullSelector cl ns subject := by
  rw [diagnose, collectContext_of_reach hreach] at h
  cases hctx : collectFrom cl name ns subject w.now with
  | error e => rw [hctx] at h; cases h
  | ok ctx =>
      obtain ⟨hlist, hpdbs, -⟩ := collectFrom_inv hctx
      exact ⟨hlist, hpdbs⟩

/-- **Exactly when denied reads degrade the diagnosis honestly.** Only reads that are noted are
denied, and no budget without a selector is met. -/
theorem degradesHonestly_iff {w : World} {cluster : Option String} {name : String} (rb : Runbooks)
    (hreach : w.reach cluster ns = .ok (name, denying cl denied)) :
    DegradesHonestly w rb cluster ns subject cl denied ↔
      DeniesNoted cl denied ns subject ∧ BudgetsSelect cl denied ns subject := by
  constructor
  · rintro ⟨report, hreport, signals, hnames, hnamed, hsound⟩
    obtain ⟨hlist, hpdbs⟩ := diagnose_collected hreach hreport
    obtain ⟨report', hreport', hnames'⟩ := diagnose_names rb hreach hlist hpdbs
    obtain rfl := Except.ok.inj (hreport.symm.trans hreport')
    -- the report came about, so it is the one whose note lists the degraded reads
    have hdegraded := fun key => @mem_degradedReads cl denied ns subject (denying_faults.mp hlist) key
    -- both lists are made of signals, so the note determines them
    have hsame := hnames.unique hnames'
      (fun s hs => by
        obtain ⟨read, -, -, hsignal⟩ := hsound s hs
        exact signal_noComma hsignal)
      (fun s hs => by
        obtain ⟨read, -, -, -, hsignal⟩ := (hdegraded s).mp hs
        exact signal_noComma hsignal)
    have hnoted : DeniesNoted cl denied ns subject := by
      intro read hissued hdenied
      obtain ⟨key, hkey, hsignal⟩ := hnamed read hissued hdenied
      rw [hsame] at hkey
      obtain ⟨read', hread', -, -, hsignal'⟩ := (hdegraded key).mp hkey
      rwa [signal_inj hsignal hsignal']
    exact ⟨hnoted, hnoted.budgets.mpr hpdbs⟩
  · rintro ⟨hnoted, hbudgets⟩
    have hlist := hnoted.answered .podList (by decide)
    obtain ⟨report, hreport, hnames⟩ := diagnose_names rb hreach (denying_faults.mpr hlist)
      (hnoted.budgets.mp hbudgets)
    refine ⟨report, hreport, _, hnames, fun read hissued hdenied => ?_, fun key hkey => ?_⟩
    · have hread := hnoted read hissued hdenied
      -- a noted read has a name, and the name is in the note
      have hsome : ∀ r ∈ notedReads, (signal r).isSome := by decide
      obtain ⟨key, hkey⟩ := Option.isSome_iff_exists.mp (hsome read hread)
      exact ⟨key, (mem_degradedReads hlist).mpr ⟨read, hread, hissued, hdenied, hkey⟩, hkey⟩
    · obtain ⟨read, -, hrest⟩ := (mem_degradedReads hlist).mp hkey
      exact ⟨read, hrest⟩

/-! ## A denied pod list

The read that everything else waits for has no default. -/

def onePodClient : Client where
  namespaces _ := { pods := [{ name := "web-0", phase := some "Running" }] }

/-- With the nodes denied, the report says so. -/
theorem degradesHonestly_iff_nodes :
    DegradesHonestly (demoWorld (denying onePodClient (· == .nodes))) {} (some "prod") "shop" "web-0"
        onePodClient (· == .nodes) ↔
      DeniesNoted onePodClient (· == .nodes) "shop" "web-0" ∧
        BudgetsSelect onePodClient (· == .nodes) "shop" "web-0" :=
  degradesHonestly_iff {} rfl

/-- With the pod list denied, there is no report. -/
theorem pod_list_denied_raises :
    ¬ DegradesHonestly (demoWorld (denying onePodClient (· == .podList))) {} (some "prod") "shop"
      "web-0" onePodClient (· == .podList) := by
  rintro ⟨report, hreport, -⟩
  have hreach : (demoWorld (denying onePodClient (· == .podList))).reach (some "prod") "shop" =
      .ok ("prod", denying onePodClient (· == .podList)) := rfl
  obtain ⟨hlist, -⟩ := diagnose_collected hreach hreport
  cases hlist

end SreAgent.Rca
