import SreAgent.Rca.Detectors

/-!
# Storage failures of the scheduler

`pending_unschedulable` tells by phrases why a pod was not scheduled, one rule after the other. The
phrase about node affinity is a part of one about volumes, and its rule comes first
(`storage_iff`).

The rules are a chain of searches in one message. The theorem is about every message that speaks of
storage and nothing else, with `node affinity` in it only as part of the longer phrase.
-/

namespace SreAgent.Rca

/-! ## Messages about storage

That an occurrence is part of a longer one is a statement about places in the text. It can be
decided, so that a concrete message can be tried. -/

/-- Every occurrence of `node affinity` in the text is one of `volume node affinity`. -/
def VolumeAffinityOnly (msg : String) : Prop :=
  ∀ before after, msg.toList = before ++ "node affinity".toList ++ after →
    "volume ".toList <:+ before

theorem volumeAffinityOnly_iff (msg : String) : VolumeAffinityOnly msg ↔
    ∀ i < msg.toList.length + 1, "node affinity".toList.isPrefixOf (msg.toList.drop i) = true →
      "volume ".toList.isSuffixOf (msg.toList.take i) = true := by
  simp only [List.isPrefixOf_iff_prefix, List.isSuffixOf_iff_suffix]
  constructor
  · rintro h i - ⟨after, hafter⟩
    apply h _ after  -- a match at `i` splits the message into what stands before and after it
    rw [List.append_assoc, hafter, List.take_append_drop]
  · intro h before after heq
    have hlt : before.length < msg.toList.length + 1 := by
      rw [heq, List.length_append, List.length_append]
      omega
    have hplace := h before.length hlt
    rw [heq, List.append_assoc, List.drop_left, List.take_left] at hplace
    exact hplace (List.prefix_append _ _)

instance (msg : String) : Decidable (VolumeAffinityOnly msg) :=
  decidable_of_iff _ (volumeAffinityOnly_iff msg).symm

/-- A message about storage, and about no other resource. -/
structure StorageMessage (msg : String) : Prop where
  storage  : Py.containsAny msg ["volume node affinity", "persistentvolumeclaim", "pvc"] = true
  other    : Py.containsAny msg ["insufficient cpu", "insufficient memory", "taint", "didn't match"] =
    false
  affinity : VolumeAffinityOnly msg

/-- The message of the first `FailedScheduling` event is `msg`. -/
def SchedulerSays (ctx : Context) (msg : String) : Prop :=
  (ctx.events.filter fun e => e.reason == some "FailedScheduling").head?.map EventInfo.message =
    some msg

/-- Then the shorter phrase is found exactly where the longer one is. -/
theorem VolumeAffinityOnly.contains_eq {msg : String} (h : VolumeAffinityOnly msg) :
    Py.contains msg "node affinity" = Py.contains msg "volume node affinity" := by
  rw [Bool.eq_iff_iff, Py.contains_eq_true, Py.contains_eq_true]
  constructor
  · rintro ⟨before, after, heq⟩
    obtain ⟨front, rfl⟩ := h before after heq.symm
    exact ⟨front, after, by rw [← heq]; simp⟩
  · intro hvolume
    have hpart : "node affinity".toList <:+: "volume node affinity".toList := by decide
    exact hpart.trans hvolume

/-- The rules about other resources leave a message about storage alone, and the one about storage does
not, if it comes to that. -/
theorem StorageMessage.rules {msg : String} (h : StorageMessage msg) :
    Py.containsAny msg ["insufficient cpu", "insufficient memory"] = false ∧
      Py.containsAny msg ["taint", "node(s) had untolerated taint"] = false ∧
      Py.contains msg "didn't match" = false ∧
      Py.containsAny msg ["persistentvolumeclaim", "pvc", "volume node affinity"] = true := by
  have hother := h.other
  have hstorage := h.storage
  simp only [Py.containsAny, List.any_cons, List.any_nil, Bool.or_false, Bool.or_eq_false_iff,
    Bool.or_eq_true] at hother hstorage ⊢
  obtain ⟨hcpu, hmemory, htaint, hmatch⟩ := hother
  refine ⟨⟨hcpu, hmemory⟩, ⟨htaint, ?_⟩, hmatch, ?_⟩
  · rw [← Bool.not_eq_true]
    intro huntolerated
    -- the longer phrase of the rule contains `taint` already
    rw [Py.contains_trans huntolerated (by decide)] at htaint
    cases htaint
  · rcases hstorage with hvolume | hclaim | hpvc
    · exact .inr (.inr hvolume)
    · exact .inl hclaim
    · exact .inr (.inl hpvc)

/-- The rule about affinity comes before the one about storage. -/
theorem pendingUnschedulable_storage {ctx : Context} {msg : String} (hfirst : SchedulerSays ctx msg)
    (hmsg : StorageMessage (Py.lower msg)) : ∃ h, pendingUnschedulable ctx = some h ∧
      h.issue = if Py.contains (Py.lower msg) "node affinity" then "Pending Pods"
        else "Pending Pods (PVC)" := by
  obtain ⟨first, hhead, rfl⟩ := Option.map_eq_some_iff.mp hfirst
  have hsome : (ctx.events.filter fun e => e.reason == some "FailedScheduling").isEmpty = false := by
    cases hevents : ctx.events.filter fun e => e.reason == some "FailedScheduling" with
    | nil => rw [hevents] at hhead; cases hhead
    | cons e events => rfl
  obtain ⟨hresources, htaint, hmatch, hstorage⟩ := hmsg.rules
  -- none of the three earlier rules applies, so the order of the last two decides
  unfold pendingUnschedulable
  simp only [hsome, hhead, Bool.and_false, Option.map_some, Option.getD_some, hresources, htaint,
    hmatch, hstorage, Bool.false_and, Bool.false_or, Bool.false_eq_true, if_false, if_true]
  refine ⟨_, rfl, ?_⟩
  rw [apply_ite Hypothesis.issue]

/-- **Exactly when a storage failure is classified as one**: the message does not speak of volume
node affinity, which an earlier branch takes for placement. -/
theorem storage_iff {ctx : Context} {msg : String} (hfirst : SchedulerSays ctx msg)
    (hmsg : StorageMessage (Py.lower msg)) :
    (∃ h, pendingUnschedulable ctx = some h ∧ h.issue = "Pending Pods (PVC)") ↔
      Py.contains (Py.lower msg) "volume node affinity" = false := by
  obtain ⟨h, hd, hissue⟩ := pendingUnschedulable_storage hfirst hmsg
  -- in a storage message `node affinity` only occurs behind `volume`
  rw [hmsg.affinity.contains_eq] at hissue
  constructor
  · rintro ⟨h', hd', hpvc⟩
    obtain rfl := Option.some.inj (hd.symm.trans hd')
    rw [← Bool.not_eq_true]
    intro hvolume
    rw [hvolume, hpvc] at hissue
    exact absurd hissue (by decide)
  · intro hclaim
    rw [hclaim] at hissue
    exact ⟨h, hd, hissue⟩

/-! ## A volume in another zone

The message that the scheduler writes if the volume is bound to a zone without a free node. -/

def zoneMessage : String := "1 node(s) had volume node affinity conflict"

/-- A database that waits for its volume. -/
def zoneConflict : Context where
  pods := [{ name := "db-0", phase := some "Pending" }]
  events := [{ reason := some "FailedScheduling", message := zoneMessage }]

/-- The message is the first about scheduling, it is about storage alone, so the condition applies.
-/
theorem zoneConflict_scheduler : SchedulerSays zoneConflict zoneMessage := rfl

theorem zoneMessage_storage : StorageMessage (Py.lower zoneMessage) := by
  constructor <;> decide +kernel

theorem storage_iff_zone :
    (∃ h, pendingUnschedulable zoneConflict = some h ∧ h.issue = "Pending Pods (PVC)") ↔
      Py.contains (Py.lower zoneMessage) "volume node affinity" = false :=
  storage_iff zoneConflict_scheduler zoneMessage_storage

/-- The volume is taken for a node selector. -/
theorem zoneConflict_not_storage :
    SchedulerSays zoneConflict zoneMessage ∧ StorageMessage (Py.lower zoneMessage) ∧
      ¬ ∃ h, pendingUnschedulable zoneConflict = some h ∧ h.issue = "Pending Pods (PVC)" := by
  refine ⟨zoneConflict_scheduler, zoneMessage_storage, ?_⟩
  rintro ⟨h, hd, hissue⟩
  obtain ⟨h', hd', hissue'⟩ := pendingUnschedulable_storage zoneConflict_scheduler zoneMessage_storage
  have haffinity : Py.contains (Py.lower zoneMessage) "node affinity" = true := by decide +kernel
  obtain rfl := Option.some.inj (hd.symm.trans hd')
  rw [haffinity, hissue] at hissue'
  exact absurd hissue' (by decide)

end SreAgent.Rca
