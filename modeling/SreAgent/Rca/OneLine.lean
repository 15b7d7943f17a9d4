import SreAgent.Rca.Signals

/-!
# One line that says it

The detectors search for phrases in all lines joined by blanks. A phrase with a blank in it is then
found across the end of a line as well, and two phrases are found in two messages. `WitnessedByOne`
asks for a single line or message behind everything that counts as found; `witnessedByOne_iff` says
when there is one.

Whether a phrase occurs in joined lines is a question about lists (`Py.SplitOver`). The module takes
the detectors' phrases one by one and says which of them can be split: those with a blank.
-/

namespace SreAgent.Rca

/-! ## What is searched for

Two kinds of conclusions rest on phrases. In the logs a phrase counts by itself. In messages a
refined root cause needs one of some phrases, or two of them together, and `MessageSays` asks for
both in one message. -/

/-- The phrases four detectors look for in the logs. -/
def logPhrases : List String :=
  dnsSpecific ++ dbAuth ++ dbReach ++ tlsSignals ++ (dnsStrong ++ dnsWeak) ++ appErrorSignals

/-- The refined root causes of `image_pull` and `container_config_error`. -/
def imageMissing : String :=
  "Image tag/digest does not exist in the registry (likely a typo or a never-pushed tag)."

def registryRefused : String :=
  "Registry authentication failed — imagePullSecret missing, expired, or wrong registry."

def configMapMissing : String :=
  "Referenced ConfigMap does not exist (envFrom/volume mount points at a missing ConfigMap)."

def secretMissing : String := "Referenced Secret does not exist."

/-- A line contains the phrase. -/
def LineSays (lines : List String) (w : String) : Prop :=
  ∃ line ∈ lines, Py.contains (Py.lower line) w = true

/-- A single message contains both phrases. -/
def MessageSays (events : List EventInfo) (w w' : String) : Prop :=
  ∃ e ∈ events, Py.contains (Py.lower e.message) w = true ∧
    Py.contains (Py.lower e.message) w' = true

def messages (events : List EventInfo) : List String := events.map EventInfo.message

/-- The detector's container is waiting for its image, or for its config. -/
def PullWaiting (ctx : Context) : Prop := hits ctx ["ErrImagePull", "ImagePullBackOff"] ≠ []

def ConfigWaiting (ctx : Context) : Prop :=
  hits ctx ["CreateContainerConfigError", "CreateContainerError"] ≠ []

/-- **Signatures are witnessed**: a phrase that counts as present is in a single line, and a refined
root cause rests on a single message. -/
structure WitnessedByOne (ctx : Context) : Prop where
  logs      : ∀ w ∈ logPhrases,
    Py.contains (allLogs ctx) w = true ↔ LineSays (ctx.logs ++ ctx.previousLogs) w
  image     : ∀ h, imagePull ctx = some h → h.rootCause = imageMissing →
    ∃ w ∈ ["not found", "manifest unknown"], LineSays (messages (pullEvents ctx.events)) w
  registry  : ∀ h, imagePull ctx = some h → h.rootCause = registryRefused →
    ∃ w ∈ ["unauthorized", "denied", "forbidden"], LineSays (messages (pullEvents ctx.events)) w
  configMap : ∀ h, containerConfigError ctx = some h → h.rootCause = configMapMissing →
    MessageSays (warningEvents ctx.events) "configmap" "not found"
  secret    : ∀ h, containerConfigError ctx = some h → h.rootCause = secretMissing →
    MessageSays (warningEvents ctx.events) "secret" "not found"

/-- "not found" is in a warning, or split over two. -/
def NotFoundRead (ctx : Context) : Prop :=
  LineSays (messages (warningEvents ctx.events)) "not found" ∨
    Py.SplitOver "not found" (messages (warningEvents ctx.events))

/-- **No phrase is put together from pieces**, unless it stands in one piece as well. -/
structure Unsplit (ctx : Context) : Prop where
  logs      : ∀ w ∈ logPhrases, Py.SplitOver w (ctx.logs ++ ctx.previousLogs) →
    LineSays (ctx.logs ++ ctx.previousLogs) w
  image     : PullWaiting ctx → ∀ w ∈ ["not found", "manifest unknown"],
    Py.SplitOver w (messages (pullEvents ctx.events)) →
      ∃ w' ∈ ["not found", "manifest unknown"], LineSays (messages (pullEvents ctx.events)) w'
  configMap : ConfigWaiting ctx → LineSays (messages (warningEvents ctx.events)) "configmap" →
    NotFoundRead ctx → MessageSays (warningEvents ctx.events) "configmap" "not found"
  secret    : ConfigWaiting ctx → ¬ LineSays (messages (warningEvents ctx.events)) "configmap" →
    LineSays (messages (warningEvents ctx.events)) "secret" → NotFoundRead ctx →
      MessageSays (warningEvents ctx.events) "secret" "not found"

variable {ctx : Context}

/-! ## Phrases in joined texts

The library's lemma about joined lines, at the texts the detectors look at. -/

theorem allLogs_contains {w : String} (hne : w ≠ "") :
    Py.contains (allLogs ctx) w = true ↔ LineSays (ctx.logs ++ ctx.previousLogs) w ∨
      Py.SplitOver w (ctx.logs ++ ctx.previousLogs) := Py.contains_lower_join_iff hne _

theorem joinedMessages_contains {events : List EventInfo} {w : String} (hne : w ≠ "") :
    Py.contains (joinedMessages events) w = true ↔
      LineSays (messages events) w ∨ Py.SplitOver w (messages events) :=
  Py.contains_lower_join_iff hne _

/-- A word without blanks is not split. -/
theorem joinedMessages_word {events : List EventInfo} {w : String} (hne : w ≠ "")
    (hblank : ' ' ∉ w.toList) :
    Py.contains (joinedMessages events) w = true ↔ LineSays (messages events) w := by
  rw [joinedMessages, Py.contains_lower_join hne hblank, List.any_eq_true]
  exact Iff.rfl

theorem containsAny_iff {s : String} {phrases : List String} :
    Py.containsAny s phrases = true ↔ ∃ w ∈ phrases, Py.contains s w = true := List.any_eq_true

/-! ## Root causes

A hypothesis shows by its root cause which phrases were found. The causes are different texts, so
each is given exactly in its own case. -/

/-- The root cause `image_pull` gives. -/
theorem imagePull_cause {h : Hypothesis} (hd : imagePull ctx = some h) :
    PullWaiting ctx ∧ h.rootCause =
      if Py.containsAny (joinedMessages (pullEvents ctx.events)) ["not found", "manifest unknown"] then
        imageMissing
      else if Py.containsAny (joinedMessages (pullEvents ctx.events))
          ["unauthorized", "denied", "forbidden"] then registryRefused
      else "Image cannot be pulled." := by
  unfold imagePull at hd
  split at hd
  · cases hd
  · next hit rest hhits =>
    refine ⟨by rw [PullWaiting, hhits]; exact List.cons_ne_nil _ _, ?_⟩
    obtain rfl := Option.some.inj hd
    -- the citations never change the cause, so only the three texts are left to choose from
    simp only [apply_ite Hypothesis.rootCause, Hypothesis.cite, ite_self]
    rfl

/-- Whoever waits for an image gets a hypothesis about it. -/
theorem imagePull_some (h : PullWaiting ctx) : ∃ h, imagePull ctx = some h := by
  unfold imagePull
  split
  · next hhits => exact absurd hhits h
  · exact ⟨_, rfl⟩

/-- The root cause `container_config_error` gives. -/
theorem containerConfigError_cause {h : Hypothesis} (hd : containerConfigError ctx = some h) :
    ConfigWaiting ctx ∧ h.rootCause =
      if Py.contains (joinedMessages (warningEvents ctx.events)) "configmap" &&
          Py.contains (joinedMessages (warningEvents ctx.events)) "not found" then configMapMissing
      else if Py.contains (joinedMessages (warningEvents ctx.events)) "secret" &&
          Py.contains (joinedMessages (warningEvents ctx.events)) "not found" then secretMissing
      else "Container cannot be created from its config." := by
  unfold containerConfigError at hd
  split at hd
  · cases hd
  · next hit rest hhits =>
    refine ⟨by rw [ConfigWaiting, hhits]; exact List.cons_ne_nil _ _, ?_⟩
    obtain rfl := Option.some.inj hd
    -- here too only the root cause differs between the branches
    simp only [apply_ite Hypothesis.rootCause, Hypothesis.cite, ite_self]
    rfl

/-- Whoever waits for a configuration gets a hypothesis as well. -/
theorem containerConfigError_some (h : ConfigWaiting ctx) :
    ∃ h, containerConfigError ctx = some h := by
  unfold containerConfigError
  split
  · next hhits => exact absurd hhits h
  · exact ⟨_, rfl⟩

/-- Of three different causes the first one is given in the first case, and the second one in the
second. -/
theorem cause_first {p q : Prop} [Decidable p] [Decidable q] {a b c : String} (hab : a ≠ b)
    (hac : a ≠ c) : (if p then a else if q then b else c) = a ↔ p := by
  by_cases hp : p <;> by_cases hq : q <;> simp [hp, hq, hab.symm, hac.symm]

theorem cause_second {p q : Prop} [Decidable p] [Decidable q] {a b c : String} (hab : a ≠ b)
    (hbc : b ≠ c) : (if p then a else if q then b else c) = b ↔ ¬ p ∧ q := by
  by_cases hp : p <;> by_cases hq : q <;> simp [hp, hq, hab, hbc.symm]

/-- The image is said not to exist if its phrase is in a message, or split over two. -/
theorem image_iff {h : Hypothesis} (hd : imagePull ctx = some h) :
    h.rootCause = imageMissing ↔
      ∃ w ∈ ["not found", "manifest unknown"], LineSays (messages (pullEvents ctx.events)) w ∨
        Py.SplitOver w (messages (pullEvents ctx.events)) := by
  rw [(imagePull_cause hd).2, cause_first (by decide) (by decide), containsAny_iff]
  have hne : ∀ w ∈ ["not found", "manifest unknown"], w ≠ "" := by decide
  constructor
  · rintro ⟨w, hw, hin⟩
    exact ⟨w, hw, (joinedMessages_contains (hne w hw)).mp hin⟩
  · rintro ⟨w, hw, hin⟩
    exact ⟨w, hw, (joinedMessages_contains (hne w hw)).mpr hin⟩

/-- The registry's phrases are single words, so they are in one message. -/
theorem registry_line {h : Hypothesis} (hd : imagePull ctx = some h)
    (hcause : h.rootCause = registryRefused) :
    ∃ w ∈ ["unauthorized", "denied", "forbidden"],
      LineSays (messages (pullEvents ctx.events)) w := by
  rw [(imagePull_cause hd).2, cause_second (by decide) (by decide)] at hcause
  have hword : ∀ w ∈ ["unauthorized", "denied", "forbidden"], w ≠ "" ∧ ' ' ∉ w.toList := by decide
  obtain ⟨w, hw, hin⟩ := containsAny_iff.mp hcause.2
  exact ⟨w, hw, (joinedMessages_word (hword w hw).1 (hword w hw).2).mp hin⟩

theorem notFound_iff : Py.contains (joinedMessages (warningEvents ctx.events)) "not found" = true ↔
    NotFoundRead ctx := joinedMessages_contains (by decide)

/-- A ConfigMap is blamed on two phrases that need not be in one message, -/
theorem configMap_iff {h : Hypothesis} (hd : containerConfigError ctx = some h) :
    h.rootCause = configMapMissing ↔
      LineSays (messages (warningEvents ctx.events)) "configmap" ∧ NotFoundRead ctx := by
  rw [(containerConfigError_cause hd).2, cause_first (by decide) (by decide), Bool.and_eq_true,
    joinedMessages_word (by decide) (by decide), notFound_iff]

/-- and so is a Secret, where no message speaks of a ConfigMap. -/
theorem secret_iff {h : Hypothesis} (hd : containerConfigError ctx = some h) :
    h.rootCause = secretMissing ↔
      ¬ LineSays (messages (warningEvents ctx.events)) "configmap" ∧
        LineSays (messages (warningEvents ctx.events)) "secret" ∧ NotFoundRead ctx := by
  -- both words are without a blank, so a match cannot lie over two messages
  have hmap : Py.contains (joinedMessages (warningEvents ctx.events)) "configmap" = true ↔
      LineSays (messages (warningEvents ctx.events)) "configmap" :=
    joinedMessages_word (by decide) (by decide)
  have hsecret : Py.contains (joinedMessages (warningEvents ctx.events)) "secret" = true ↔
      LineSays (messages (warningEvents ctx.events)) "secret" :=
    joinedMessages_word (by decide) (by decide)
  rw [(containerConfigError_cause hd).2, cause_second (by decide) (by decide), Bool.and_eq_true,
    Bool.and_eq_true, hmap, hsecret, notFound_iff]
  constructor
  · rintro ⟨hnot, hsecret, hfound⟩
    -- the config map is asked for first, and hides the secret
    exact ⟨fun hmap => hnot ⟨hmap, hfound⟩, hsecret, hfound⟩
  · rintro ⟨hnot, hsecret, hfound⟩
    exact ⟨fun hboth => hnot hboth.1, hsecret, hfound⟩

/-- **Exactly when every signature is witnessed.** For every context: a single line or message is
behind all that counts as found iff no phrase is put together from pieces. -/
theorem witnessedByOne_iff (ctx : Context) : WitnessedByOne ctx ↔ Unsplit ctx := by
  have hne : ∀ w ∈ logPhrases, w ≠ "" := by decide
  constructor
  · intro h
    refine ⟨?_, ?_, ?_, ?_⟩
    · intro w hw hsplit
      -- a phrase that is only found over a seam is one that no line says
      exact (h.logs w hw).mp ((allLogs_contains (hne w hw)).mpr (.inr hsplit))
    · intro hwaiting w hw hsplit
      obtain ⟨hyp, hd⟩ := imagePull_some hwaiting
      -- the detector names the image for it, and no single message does
      exact h.image hyp hd ((image_iff hd).mpr ⟨w, hw, .inr hsplit⟩)
    · intro hwaiting hmap hfound
      obtain ⟨hyp, hd⟩ := containerConfigError_some hwaiting
      exact h.configMap hyp hd ((configMap_iff hd).mpr ⟨hmap, hfound⟩)
    · intro hwaiting hmap hsecret hfound
      obtain ⟨hyp, hd⟩ := containerConfigError_some hwaiting
      exact h.secret hyp hd ((secret_iff hd).mpr ⟨hmap, hsecret, hfound⟩)
  · intro h
    refine ⟨?_, ?_, fun hyp hd hcause => registry_line hd hcause, ?_, ?_⟩
    · intro w hw
      rw [allLogs_contains (hne w hw)]
      exact or_iff_left_of_imp (h.logs w hw)
    · intro hyp hd hcause
      -- a match lies within one message or over a seam, and the latter is excluded
      obtain ⟨w, hw, hline | hsplit⟩ := (image_iff hd).mp hcause
      · exact ⟨w, hw, hline⟩
      · exact h.image (imagePull_cause hd).1 w hw hsplit
    · intro hyp hd hcause
      obtain ⟨hmap, hfound⟩ := (configMap_iff hd).mp hcause
      exact h.configMap (containerConfigError_cause hd).1 hmap hfound
    · intro hyp hd hcause
      obtain ⟨hmap, hsecret, hfound⟩ := (secret_iff hd).mp hcause
      exact h.secret (containerConfigError_cause hd).1 hmap hsecret hfound

def twoLines : Context where
  pods := [{ name := "web-0", reason := some "CrashLoopBackOff" }]
  previousLogs := ["closing idle connection", "refused to start without a licence"]

/-- Together they read as a refused connection. -/
theorem twoLines_refused : ¬ WitnessedByOne twoLines := by
  intro h
  have hfound : Py.contains (allLogs twoLines) "connection refused" = true := by decide +kernel
  obtain ⟨line, hline, hin⟩ := (h.logs "connection refused" (by decide)).mp hfound
  have hnone : (twoLines.logs ++ twoLines.previousLogs).all
      (fun line => !Py.contains (Py.lower line) "connection refused") = true := by decide +kernel
  have hout := List.all_eq_true.mp hnone line hline
  rw [hin] at hout
  cases hout

end SreAgent.Rca
