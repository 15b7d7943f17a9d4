import Mathlib.Data.Prod.Lex
import SreAgent.Kube
import SreAgent.Lib.TopK

/-!
# The events of a namespace

What `k8s_get_events` of `tools/kubernetes.py` makes of the events it is answered. They are sorted by
class and time in one go, and the first fifty are returned: of the class in which the list ends these
are the oldest ones, so the recent ones are kept only if it does not matter (`keepsRecent_iff`).

The sort is by a pair, the class and the time, and it is ascending in both. For the class this puts
the warnings in front, as intended. For the time it puts the oldest first, and the cut at fifty then
takes the old and leaves the new. The docstring of the source speaks of recent events.
-/

namespace SreAgent.Tools.Events

open Kube (Timestamp)

/-- A `CoreV1Event` with its `count`, which nothing else reads. -/
structure NamespacedEvent extends Kube.Event where
  count : Option Nat := none
  deriving DecidableEq

def NamespacedEvent.isWarning (e : NamespacedEvent) : Bool := e.type == some "Warning"

/-- `e.last_timestamp or e.event_time`. -/
def NamespacedEvent.seen (e : NamespacedEvent) : Option Timestamp := e.lastTimestamp.or e.eventTime

def minTime : Py.DateTime where
  year := 1
  month := 1
  day := 1
  offset := some 0

theorem minTime_valid : minTime.valid = true := by decide

/-- `datetime.min.replace(tzinfo=timezone.utc)`. -/
def earliest : Timestamp := ⟨minTime, minTime_valid, rfl⟩

/-- The time an event is sorted by. -/
def NamespacedEvent.time (e : NamespacedEvent) : ℤ := (e.seen.getD earliest).value.instant

def age (now : Timestamp) : Option Timestamp → String
  | none    => "?"
  | some ts =>
    let secs := (now.value.instant - ts.value.instant).tdiv 1000000
    if secs < 3600 then toString (secs / 60) ++ "m"
    else if secs < 86400 then toString (secs / 3600) ++ "h"
    else toString (secs / 86400) ++ "d"

structure EventEntry where
  type    : Option String
  reason  : Option String
  object  : String
  message : Option String
  count   : Option Nat
  age     : String
  deriving DecidableEq, Repr

def entry (now : Timestamp) (e : NamespacedEvent) : EventEntry where
  type := e.type
  reason := e.reason
  object := Py.showOpt e.involvedKind ++ "/" ++ Py.showOpt e.involvedName
  message := e.message
  count := e.count
  age := age now e.seen

/-- The key of the sort: `False` comes before `True`. -/
def sortKey (e : NamespacedEvent) : Bool ×ₗ ℤ := toLex (!e.isWarning, e.time)

def items (events : List NamespacedEvent) : List NamespacedEvent :=
  events.insertionSort fun a b => sortKey a ≤ sortKey b

/-- `items[:50]`. -/
def returned (events : List NamespacedEvent) : List NamespacedEvent := (items events).take 50

def leftOut (events : List NamespacedEvent) : List NamespacedEvent := (items events).drop 50

/-- `k8s_get_events`, from the answer on. -/
def k8sGetEvents (now : Timestamp) (events : List NamespacedEvent) : List EventEntry :=
  (returned events).map (entry now)

/-! ## The order

One part of the statement may fail. The others hold: all events are there or left out,
warnings come before others and are never left out for them. What may fail is that within a class
the recent ones are kept. -/

/-- The recent events are kept: the warnings come first and are all there if anything else is, and no
event that is left out is more recent than one of its class that is returned. -/
structure KeepsRecent (events : List NamespacedEvent) : Prop where
  listed   : (returned events ++ leftOut events).Perm events
  short    : ∀ now, (k8sGetEvents now events).length ≤ 50
  first    : (returned events).Pairwise fun a b => b.isWarning = true → a.isWarning = true
  included : (∃ a ∈ returned events, a.isWarning = false) →
    ∀ b ∈ leftOut events, b.isWarning = false
  recent   : ∀ a ∈ returned events, ∀ b ∈ leftOut events, a.isWarning = b.isWarning →
    b.time ≤ a.time

def SameTime (events : List NamespacedEvent) : Prop := ∀ a ∈ events, ∀ b ∈ events, a.time = b.time

/-- The class that is returned in part, if there is one, is of one time. Warnings come first and the
rest after them, so that only one class can be cut. -/
structure CutsEvenly (events : List NamespacedEvent) : Prop where
  warnings : 50 < (events.filter NamespacedEvent.isWarning).length →
    SameTime (events.filter NamespacedEvent.isWarning)
  others   : (events.filter NamespacedEvent.isWarning).length < 50 → 50 < events.length →
    SameTime (events.filter fun e => !e.isWarning)

/-- Sorting loses nothing, and puts the keys in order. -/
theorem perm_items (events : List NamespacedEvent) : (items events).Perm events :=
  List.perm_insertionSort _ events

theorem pairwise_items (events : List NamespacedEvent) :
    (items events).Pairwise fun a b => sortKey a ≤ sortKey b :=
  StableSort.pairwise_sort sortKey events

/-- The key is compared by class first, then by time. -/
theorem sortKey_le_iff {a b : NamespacedEvent} : sortKey a ≤ sortKey b ↔
    (a.isWarning = true ∧ b.isWarning = false) ∨ (a.isWarning = b.isWarning ∧ a.time ≤ b.time) := by
  rw [sortKey, sortKey, Prod.Lex.toLex_le_toLex]
  cases a.isWarning <;> cases b.isWarning <;> simp

/-- So warnings come first. -/
theorem warnings_first (events : List NamespacedEvent) :
    (items events).Pairwise fun a b => b.isWarning = true → a.isWarning = true := by
  apply (pairwise_items events).imp
  intro a b hab hb
  rcases sortKey_le_iff.mp hab with ⟨ha, -⟩ | ⟨hclass, -⟩
  · exact ha
  · rw [hclass, hb]

/-- Within a class the oldest events come first. -/
theorem oldest_first (events : List NamespacedEvent) :
    (items events).Pairwise fun a b => a.isWarning = b.isWarning → a.time ≤ b.time := by
  apply (pairwise_items events).imp
  intro a b hab hclass
  rcases sortKey_le_iff.mp hab with ⟨ha, hb⟩ | ⟨-, htime⟩
  · rw [ha, hb] at hclass
    cases hclass
  · exact htime

/-- What is returned and what is left out are the sorted list. -/
theorem returned_append (events : List NamespacedEvent) :
    returned events ++ leftOut events = items events := List.take_append_drop 50 _

/-- No warning is left out for another event. -/
theorem warnings_included (events : List NamespacedEvent)
    (h : ∃ a ∈ returned events, a.isWarning = false) : ∀ b ∈ leftOut events, b.isWarning = false := by
  obtain ⟨a, ha, hother⟩ := h
  intro b hb
  have hsplit := warnings_first events
  rw [← returned_append] at hsplit
  by_contra hwarning
  -- whatever is left out stands behind what is returned, and warnings stand first
  have hfirst := (List.pairwise_append.mp hsplit).2.2 a ha b hb (Bool.eq_true_of_not_eq_false hwarning)
  rw [hother] at hfirst
  cases hfirst

/-- The cut of the sorted list keeps the recent events of each class only if it is of one time or not
cut. -/
theorem recent_iff (events : List NamespacedEvent) :
    (∀ a ∈ returned events, ∀ b ∈ leftOut events, a.isWarning = b.isWarning → b.time ≤ a.time) ↔
      CutsEvenly events := by
  have hwarnings := (perm_items events).filter NamespacedEvent.isWarning
  have hothers := (perm_items events).filter fun e => !e.isWarning
  -- both classes together are all events
  have hlength : (events.filter NamespacedEvent.isWarning).length +
      (events.filter fun e => !e.isWarning).length = events.length := by
    rw [← hwarnings.length_eq, ← hothers.length_eq, ← List.length_append,
      TopK.filter_append_filter (warnings_first events), (perm_items events).length_eq]
  have hcut := TopK.class_cut_iff (n := 50) (warnings_first events) (oldest_first events)
  simp only [hwarnings.mem_iff, hothers.mem_iff, hwarnings.length_eq, hothers.length_eq] at hcut
  constructor
  · intro h
    obtain ⟨hfront, hback⟩ := hcut.mp h
    refine ⟨hfront (by decide), fun hfew hmany => hback ?_ ?_⟩ <;> omega
  · intro h
    refine hcut.mpr ⟨fun _ hmany => h.warnings hmany, fun hroom hmany => h.others ?_ ?_⟩ <;> omega

/-- **Exactly when the recent events are kept**: the class in which the list is cut, if it is cut at
all, has events of one time only. -/
theorem keepsRecent_iff (events : List NamespacedEvent) :
    KeepsRecent events ↔ CutsEvenly events := by
  constructor
  · intro h
    exact (recent_iff events).mp h.recent
  · intro h
    refine ⟨?_, ?_, ?_, warnings_included events, (recent_iff events).mpr h⟩
    · rw [returned_append]
      exact perm_items events
    · intro now
      rw [k8sGetEvents, List.length_map]
      exact List.length_take_le ..
    · exact (warnings_first events).sublist (List.take_sublist ..)

/-! ## A crash loop of an hour

Sixty warnings, one a minute, all alike but for their times. Fifty are returned, and the last ten
minutes are not among them. -/

def minuteOf (minute : Fin 60) : Py.DateTime where
  year := 2026
  month := 6
  day := 13
  hour := 10
  minute := minute
  offset := some 0

/-- Each minute is a time. -/
theorem minuteOf_valid (minute : Fin 60) : (minuteOf minute).valid = true := by
  have h : minute.val ≤ 59 := Nat.le_of_lt_succ minute.isLt
  have hday : 13 ≤ Py.daysInMonth 2026 6 := by decide
  simp [Py.DateTime.valid, minuteOf, h, hday]

def backOff (minute : Fin 60) : NamespacedEvent where
  type := some "Warning"
  reason := some "BackOff"
  lastTimestamp := some ⟨minuteOf minute, minuteOf_valid minute, rfl⟩

def crashLoop : List NamespacedEvent := (List.finRange 60).map backOff

/-- Those of the last ten minutes are left out. -/
theorem crashLoop_not_recent : ¬ KeepsRecent crashLoop := by
  intro hkeeps
  have h := (recent_iff crashLoop).mp hkeeps.recent
  have hmany : 50 < (crashLoop.filter NamespacedEvent.isWarning).length := by decide
  have hmem : ∀ minute, backOff minute ∈ crashLoop.filter NamespacedEvent.isWarning := fun minute =>
    List.mem_filter.mpr ⟨List.mem_map_of_mem (List.mem_finRange minute), rfl⟩
  exact absurd (h.warnings hmany (backOff 0) (hmem 0) (backOff 59) (hmem 59)) (by decide)

end SreAgent.Tools.Events
