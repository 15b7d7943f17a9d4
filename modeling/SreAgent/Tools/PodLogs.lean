import SreAgent.Tools.Confinement

/-!
# The lines of a log

The API hands out the last lines of a log, each ended by a line feed, and `logs_pod` takes the text apart
with `splitlines`, which knows ten line breaks. The tool shows the lines of the log that match, for every
pattern, exactly if none of the other nine is in a line (`logsPod_exact_iff`); otherwise it shows pieces of
lines, and fewer of the lines asked for.

Python's line breaks include the form feed, the separators of ASCII and those of Unicode. A program
that prints one of these in the middle of a line has its line shown as two, of which a pattern may
match one and not the other.
-/

namespace SreAgent.Tools

open Interaction (Prog)

/-! ## Taking a log apart

The inverse of joining is splitting at the same character. `splitlines` splits at more, so it is an
inverse on lines without any of the others. -/

/-- A line that `splitlines` leaves whole. -/
def IsWholeLine (line : String) : Prop := ∀ c ∈ line.toList, Py.isLineBreak c = false

/-- The lines of a log as the API sends them. -/
def logText (lines : List String) : String :=
  String.ofList (lines.flatMap fun line => line.toList ++ ['\n'])

/-- A line without a line break is read up to its line feed. -/
theorem linesFrom_line {line : List Char} (h : ∀ c ∈ line, Py.isLineBreak c = false)
    (cur rest : List Char) :
    Py.linesFrom cur (line ++ '\n' :: rest) = (cur.reverse ++ line) :: Py.linesFrom [] rest := by
  induction line generalizing cur with
  | nil =>
      rw [List.nil_append, List.append_nil, Py.linesFrom]
      · rw [if_pos (by decide)]
      · intro cs hcs
        cases hcs
  | cons c line ih =>
      have hc := h c List.mem_cons_self
      -- a carriage return would be looked at together with the character behind it
      have hr : c ≠ '\r' := by
        rintro rfl
        exact absurd hc (by decide)
      rw [List.cons_append, Py.linesFrom]
      · rw [if_neg (by simp [hc]), ih (fun d hd => h d (List.mem_cons_of_mem _ hd))]
        simp
      · intro cs hcr
        exact absurd hcr hr

/-- **Whole lines** are what a log is taken apart into. -/
theorem splitlines_logText {lines : List String} (h : ∀ line ∈ lines, IsWholeLine line) :
    Py.splitlines (logText lines) = lines := by
  unfold Py.splitlines logText
  rw [String.toList_ofList]
  induction lines with
  | nil => rfl
  | cons line lines ih =>
      rw [List.flatMap_cons, List.append_assoc, List.singleton_append,
        linesFrom_line (h line List.mem_cons_self), List.map_cons,
        ih fun l hl => h l (List.mem_cons_of_mem _ hl), List.reverse_nil, List.nil_append,
        String.ofList_toList]

/-- What a text is taken apart into has no line break in it. -/
theorem notBreak_of_mem_linesFrom {cur cs w : List Char} (hcur : ∀ c ∈ cur, Py.isLineBreak c = false)
    (hw : w ∈ Py.linesFrom cur cs) : ∀ c ∈ w, Py.isLineBreak c = false := by
  fun_induction Py.linesFrom cur cs with
  | case1 cur hempty => cases hw
  | case2 cur hempty =>
      rw [List.mem_singleton.mp hw]
      exact fun c hc => hcur c (List.mem_reverse.mp hc)
  | case3 cur cs ih =>  -- at a break the line read so far is closed, and the next one starts empty
      rcases List.mem_cons.mp hw with rfl | hw
      · exact fun c hc => hcur c (List.mem_reverse.mp hc)
      · exact ih (fun c hc => absurd hc List.not_mem_nil) hw
  | case4 cur c cs hne hbreak ih =>
      rcases List.mem_cons.mp hw with rfl | hw
      · exact fun c hc => hcur c (List.mem_reverse.mp hc)
      · exact ih (fun c hc => absurd hc List.not_mem_nil) hw
  | case5 cur c cs hne hbreak ih =>
      apply ih _ hw
      intro d hd
      rcases List.mem_cons.mp hd with rfl | hd
      · simpa using hbreak
      · exact hcur d hd

theorem isWholeLine_of_mem_splitlines {text line : String} (h : line ∈ Py.splitlines text) :
    IsWholeLine line := by
  obtain ⟨w, hw, rfl⟩ := List.mem_map.mp h
  intro c hc
  rw [String.toList_ofList] at hc
  exact notBreak_of_mem_linesFrom (fun d hd => absurd hd List.not_mem_nil) hw c hc

/-! ## Reading a log

The API has cut the log before the tool sees it. The second cut of the tool changes nothing on whole
lines, because there are no more of them than were asked for. -/

/-- The last `tail` lines of a log, as the API cuts it. -/
def recent (tail : ℤ) (log : List String) : List String := log.drop (log.length - tail.toNat)

/-- The lines that match a pattern, in any case. The empty one is no pattern. -/
def matching (grep : String) (lines : List String) : List String :=
  if grep = "" then lines
  else lines.filter fun line => Py.contains (Py.lower line) (Py.lower grep)

/-- A cluster with the log of one pod. -/
def podWorld (log : List String) : (q : Upstream) → q.Reply
  | .connect _                           => .ok ()
  | .kube (.readPodLog _ _ _ tail _ _) _ => .ok (logText (recent tail log))
  | .kube ..                             => .error (.apiException 404)
  | .get _                               => .raised (.other "no backend")
  | .knowledge _                         => .ok []

/-- The API hands out no more lines than asked for. -/
theorem length_recent {tail : ℤ} (htail : 0 ≤ tail) (log : List String) :
    ((recent tail log).length : ℤ) ≤ tail := by
  rw [recent, List.length_drop]
  omega

/-- Cutting again changes nothing if there are no more lines than asked for. -/
theorem lastLines_of_length_le {tail : ℤ} {lines : List String} (h : (lines.length : ℤ) ≤ tail) :
    lastLines tail lines = lines := by
  unfold lastLines
  split
  · rw [Nat.sub_eq_zero_of_le (by omega), List.drop_zero]
  · have hempty : lines = [] := List.length_eq_zero_iff.mp (by omega)
    rw [hempty, List.drop_nil]

/-- A pattern leaves no more lines than there were. -/
theorem length_matching_le (grep : String) (lines : List String) :
    (matching grep lines).length ≤ lines.length := by
  unfold matching
  split
  · exact Nat.le_refl _
  · exact List.length_filter_le ..

variable {site : Site} {cluster : Option String} {cfg : ClusterConfig} {ns : String}

/-- What the tool returns for a log. -/
theorem eval_logsPod (hcfg : site.registry.get cluster = .ok cfg)
    (hallowed : cfg.namespaceAllowed ns = true) (pod container : String) (tail : ℤ) (previous : Bool)
    (grep : String) (log : List String) :
    (logsPod site ns pod cluster container tail previous grep).eval (podWorld log) =
      .ok ⟨pod, if container = "" then "(default)" else container, previous,
        lastLines tail (matching grep (Py.splitlines (logText (recent tail log))))⟩ := by
  have hguard := guardNamespace_done hcfg hallowed
  unfold logsPod guarded clients
  rw [hguard, hcfg]
  rfl

/-- **What the tool shows are the lines of the log that match**, for every pattern: exactly if each of
the lines asked for is a line to `splitlines` as well. -/
theorem logsPod_exact_iff (hcfg : site.registry.get cluster = .ok cfg)
    (hallowed : cfg.namespaceAllowed ns = true) (pod container : String) {tail : ℤ} (htail : 0 ≤ tail)
    (previous : Bool) (log : List String) :
    (∀ grep, (logsPod site ns pod cluster container tail previous grep).eval (podWorld log) =
        .ok ⟨pod, if container = "" then "(default)" else container, previous,
          matching grep (recent tail log)⟩) ↔
      ∀ line ∈ recent tail log, IsWholeLine line := by
  constructor
  · intro h line hline
    -- the empty filter keeps every line, so the answer is what `splitlines` made of the text
    have hall := h ""
    rw [eval_logsPod hcfg hallowed] at hall
    have hlines : lastLines tail (Py.splitlines (logText (recent tail log))) = recent tail log :=
      congrArg PodLog.lines (Except.ok.inj hall)
    rw [← hlines] at hline
    apply isWholeLine_of_mem_splitlines
    unfold lastLines at hline
    split at hline
    · exact List.mem_of_mem_drop hline
    · exact List.mem_of_mem_drop hline
  · intro h grep
    -- filtering never adds a line, so taking the tail a second time changes nothing
    have hfew : ((matching grep (recent tail log)).length : ℤ) ≤ tail :=
      le_trans (Int.ofNat_le.mpr (length_matching_le grep _)) (length_recent htail log)
    rw [eval_logsPod hcfg hallowed, splitlines_logText h, lastLines_of_length_le hfew]

/-- The last two lines of three. -/
theorem logsPod_exact_iff_payments :
    (∀ line ∈ recent 2 ["start", "dial tcp: i/o timeout", "retrying"], IsWholeLine line) ∧
      ∀ grep, (logsPod paymentsSite "payments" "api-0" none "" 2 false grep).eval
          (podWorld ["start", "dial tcp: i/o timeout", "retrying"]) =
        .ok ⟨"api-0", "(default)", false, matching grep ["dial tcp: i/o timeout", "retrying"]⟩ := by
  have hwhole : ∀ line ∈ recent 2 ["start", "dial tcp: i/o timeout", "retrying"],
      IsWholeLine line := by
    intro line hline c hc
    have hplain : ∀ line ∈ recent 2 ["start", "dial tcp: i/o timeout", "retrying"],
        line.toList.any Py.isLineBreak = false := by decide
    exact eq_false_of_ne_true (List.any_eq_false.mp (hplain line hline) c hc)
  refine ⟨hwhole, ?_⟩
  have hcfg : paymentsSite.registry.get none = .ok paymentsCluster := rfl
  have hallowed : paymentsCluster.namespaceAllowed "payments" = true := by decide
  exact (logsPod_exact_iff hcfg hallowed "api-0" "" (by decide) false
    ["start", "dial tcp: i/o timeout", "retrying"]).mpr hwhole

end SreAgent.Tools
