import SreAgent.Rca.Rollback

/-!
# Naive and aware times

A time stamp with a zone becomes an aware `datetime` and one without a zone a naive one, and Python does
not compare the two. `tolerates_iff` says for which contexts the three functions of the correlation
return.

The contexts here are arbitrary, not only those that are collected from a cluster: `correlate.py` is
called with whatever a caller has put into the bundle. For collected ones see `Rca.Collected`.
-/

namespace SreAgent.Rca

open Kube (Timestamp)
open Py (DateTime)

/-! ## Returning

More is asked than that nothing raises: a timeline must have all its lines, in order. A function
that dropped what it cannot compare would return as well. -/

/-- The lines of a timeline: one for every event and for the recent change, where their times are
known, in the order of these. -/
structure TimelineOf (ctx : Context) (lines : List String) : Prop where
  ordered : ∃ entries : List (DateTime × String), entries.Perm (timelineEntries ctx) ∧
    entries.Pairwise (fun a b => a.1.instant ≤ b.1.instant) ∧
      lines = entries.map fun (t, msg) => t.isoformat ++ "  " ++ msg
  counted : lines.length = (ctx.events.filterMap fun e => parse (some e.timestamp)).length +
    (ctx.recentChange.toList.filterMap fun c => parse (some c.at_)).length

/-- The correlation gets by with the times of the context: the anchor, the search for a recent
change and the timeline all return. -/
structure Tolerates (ctx : Context) (now : Timestamp) : Prop where
  failure  : ∃ t, firstFailureTime ctx.events = .ok t
  change   : ∃ c, findRecentChange ctx now.value = .ok c
  timeline : ∃ lines, buildTimeline ctx = .ok lines ∧ TimelineOf ctx lines

/-! ## Times of one kind

Three places compare: the sort of the warnings, the comparison of each change with the failure, and
the sort of the timeline. Each has its own set of times. -/

/-- The times of the known changes. -/
def changeTimes (ctx : Context) : List DateTime :=
  ctx.argocdHistory.filterMap (fun h => parse h.at_) ++
    ctx.deployments.filterMap (fun d => parse d.at_) ++
      ctx.secretChanges.filterMap fun s => parse s.at_

/-- The times of the events and of the recent change. -/
def timelineTimes (ctx : Context) : List DateTime :=
  (ctx.events.filterMap fun e => parse (some e.timestamp)) ++
    ctx.recentChange.toList.filterMap fun c => parse (some c.at_)

/-- Times that are compared are all aware or all naive; those of changes are compared with the time of
the failure. -/
structure OneKind (ctx : Context) (now : Timestamp) : Prop where
  warnings : comparable (warningTimes ctx.events) = true
  changes  : ∀ t ∈ changeTimes ctx, t.aware = (failureOf ctx now.value).aware
  timeline : comparable (timelineTimes ctx) = true

/-- A sort returns on times of one kind, such as times that are all like one of them, and a
comparison on two. -/
theorem sortByTime_ok_iff {α : Type} {key : α → DateTime} {items : List α} :
    (∃ l, sortByTime key items = .ok l) ↔ comparable (items.map key) = true := by
  unfold sortByTime
  split
  · next h => exact iff_of_true ⟨_, rfl⟩ h
  · next h => exact iff_of_false (by simp) h

theorem comparable_of_aware_eq {ts : List DateTime} {kind : Bool} (h : ∀ t ∈ ts, t.aware = kind) :
    comparable ts = true := by
  unfold comparable
  cases kind with
  | true =>
      rw [List.all_eq_true.mpr h]
      rfl
  | false =>
      have hnaive : (ts.all fun t => !t.aware) = true := List.all_eq_true.mpr fun t ht => by
        rw [h t ht]
        rfl
      rw [hnaive, Bool.or_true]

theorem notAfter_ok_iff {d e : DateTime} : (∃ b, notAfter d e = .ok b) ↔ d.aware = e.aware := by
  unfold notAfter DateTime.le?
  split
  · next heq =>
    split at heq
    · next h => exact iff_of_true ⟨_, rfl⟩ h
    · cases heq
  · next heq =>
    split at heq
    · cases heq
    · next h => exact iff_of_false (by simp) h

/-- A loop of `find_recent_change` returns iff it can compare. -/
theorem candidatesOf_ok_iff {α : Type} {failure : DateTime} {at_ : α → Option String}
    (mk : α → String → Change) {items : List α} :
    (∃ cs, candidatesOf failure at_ mk items = .ok cs) ↔
      ∀ t ∈ items.filterMap fun x => parse (at_ x), t.aware = failure.aware := by
  induction items with
  | nil => simp [candidatesOf]
  | cons x xs ih =>
      cases hparse : parse (at_ x) with
      -- an entry whose time does not parse is skipped, so nothing is compared
      | none => simp only [candidatesOf, hparse, List.filterMap_cons_none, ih]
      | some t =>
          -- one comparison with the failure's time for every time that parses
          rw [List.filterMap_cons_some (f := fun x => parse (at_ x)) hparse, List.forall_mem_cons, ← ih,
            ← notAfter_ok_iff]
          simp only [candidatesOf, hparse]
          constructor
          · rintro ⟨cs, hcs⟩
            obtain ⟨before, hbefore, hcs⟩ := bind_ok hcs
            obtain ⟨rest, hrest, -⟩ := bind_ok hcs
            exact ⟨⟨before, hbefore⟩, rest, hrest⟩
          · rintro ⟨⟨before, hbefore⟩, rest, hrest⟩
            rw [hbefore, hrest]
            exact ⟨_, rfl⟩

/-- What such a loop keeps has the times of its items. -/
theorem aware_of_candidatesOf {α : Type} {failure : DateTime} {at_ : α → Option String}
    {mk : α → String → Change} {items : List α} {cs : List Candidate}
    (h : candidatesOf failure at_ mk items = .ok cs) : ∀ c ∈ cs, c.t.aware = failure.aware := by
  intro c hc
  rw [candidatesOf_inv h] at hc
  obtain ⟨x, hx, hknown⟩ := List.mem_filterMap.mp hc
  obtain ⟨t, hparse, -, rfl⟩ := knownAt_eq_some.mp hknown
  exact (candidatesOf_ok_iff mk).mp ⟨cs, h⟩ t (List.mem_filterMap.mpr ⟨x, hx, hparse⟩)

/-! ## The three functions

Each returns exactly if its own comparisons can be made. In `find_recent_change` there is a further
sort, of candidates; they have passed the comparison with the failure, so it never raises. -/

/-- The first failure, by the times of warnings. -/
theorem firstFailureTime_ok_iff {events : List EventInfo} :
    (∃ t, firstFailureTime events = .ok t) ↔ comparable (warningTimes events) = true := by
  -- the function is one call of `sorted` on the warnings' times
  have hsort := @sortByTime_ok_iff _ id (warningTimes events)
  rw [List.map_id] at hsort
  rw [← hsort]
  constructor
  · rintro ⟨t, ht⟩
    obtain ⟨times, htimes, -⟩ := bind_ok ht
    exact ⟨times, htimes⟩
  · rintro ⟨times, htimes⟩
    refine ⟨times.head?, ?_⟩
    unfold warningTimes at htimes
    unfold firstFailureTime
    dsimp only
    rw [htimes]
    rfl

/-- The recent change, by the kind of the failure's time. -/
theorem findRecentChange_ok_iff {ctx : Context} {now : DateTime} :
    (∃ c, findRecentChange ctx now = .ok c) ↔
      ∀ t ∈ changeTimes ctx, t.aware = (failureOf ctx now).aware := by
  unfold changeTimes
  simp only [List.forall_mem_append]
  constructor
  · rintro ⟨c, hc⟩
    obtain ⟨syncs, hsyncs, hc⟩ := bind_ok hc
    obtain ⟨deploys, hdeploys, hc⟩ := bind_ok hc
    obtain ⟨secrets, hsecrets, -⟩ := bind_ok hc
    exact ⟨⟨(candidatesOf_ok_iff _).mp ⟨syncs, hsyncs⟩,
      (candidatesOf_ok_iff _).mp ⟨deploys, hdeploys⟩⟩, (candidatesOf_ok_iff _).mp ⟨secrets, hsecrets⟩⟩
  · rintro ⟨⟨hsync, hdeploy⟩, hsecret⟩
    obtain ⟨syncs, hsyncs⟩ := (candidatesOf_ok_iff fun h t =>
      { kind := .sync, revision := h.revision, at_ := t }).mpr hsync
    obtain ⟨deploys, hdeploys⟩ := (candidatesOf_ok_iff fun d t =>
      { kind := .deploy, revision := d.revision, at_ := t }).mpr hdeploy
    obtain ⟨secrets, hsecrets⟩ := (candidatesOf_ok_iff fun s t =>
      { kind := .secret, name := s.name, at_ := t }).mpr hsecret
    -- what is left to compare are candidates, and they are all of the kind of the failure
    have hkind : ∀ c ∈ syncs ++ deploys ++ secrets, c.t.aware = (failureOf ctx now).aware := by
      simp only [List.forall_mem_append]
      exact ⟨⟨aware_of_candidatesOf hsyncs, aware_of_candidatesOf hdeploys⟩,
        aware_of_candidatesOf hsecrets⟩
    unfold failureOf at hsyncs hdeploys hsecrets
    unfold findRecentChange
    simp only [hsyncs, hdeploys, hsecrets, bind, Except.bind]
    cases latest (syncs ++ deploys ++ secrets) with
    | none => exact ⟨none, rfl⟩
    | some best =>
        have hsame : ∀ t ∈ ((syncs ++ deploys ++ secrets).filter
            (·.change.kind = best.change.kind)).map Candidate.t,
            t.aware = (failureOf ctx now).aware := by
          intro t ht
          obtain ⟨c, hc, rfl⟩ := List.mem_map.mp ht
          exact hkind c (List.mem_filter.mp hc).1
        obtain ⟨sorted, hsorted⟩ := sortByTime_ok_iff.mpr (comparable_of_aware_eq hsame)
        dsimp only
        rw [hsorted]
        exact ⟨_, rfl⟩

/-- The times of the entries of a timeline. -/
theorem map_timelineEntries (ctx : Context) :
    (timelineEntries ctx).map Prod.fst = timelineTimes ctx := by
  unfold timelineEntries timelineTimes
  rw [List.map_append, List.map_filterMap, List.map_filterMap]
  simp only [Option.map_map, Function.comp_def, Option.map_id_fun', id]

/-- A timeline that is built is complete and in order. -/
theorem timelineOf_of_ok {ctx : Context} {lines : List String} (h : buildTimeline ctx = .ok lines) :
    TimelineOf ctx lines := by
  obtain ⟨entries, hentries, hlines⟩ := bind_ok h
  obtain rfl := Except.ok.inj hlines
  unfold sortByTime at hentries
  split at hentries
  · obtain rfl := Except.ok.inj hentries
    have hperm := List.perm_insertionSort (fun a b : DateTime × String => a.1.instant ≤ b.1.instant)
      (timelineEntries ctx)
    have hsorted := StableSort.pairwise_sort (fun entry => entry.1.instant) (timelineEntries ctx)
    refine ⟨⟨_, hperm, hsorted, rfl⟩, ?_⟩
    rw [List.length_map, hperm.length_eq, ← List.length_map Prod.fst, map_timelineEntries,
      timelineTimes, List.length_append]
  · cases hentries

/-- The timeline, by the times of its entries. -/
theorem buildTimeline_ok_iff {ctx : Context} :
    (∃ lines, buildTimeline ctx = .ok lines) ↔ comparable (timelineTimes ctx) = true := by
  rw [← map_timelineEntries, ← sortByTime_ok_iff]
  constructor
  · rintro ⟨lines, hlines⟩
    obtain ⟨entries, hentries, -⟩ := bind_ok hlines
    exact ⟨entries, hentries⟩
  · rintro ⟨entries, hentries⟩
    rw [buildTimeline, hentries]
    exact ⟨_, rfl⟩

/-- **Exactly when the correlation tolerates the times**: those that are compared with each other
are all aware, or all naive. -/
theorem tolerates_iff (ctx : Context) (now : Timestamp) : Tolerates ctx now ↔ OneKind ctx now := by
  constructor
  · intro h
    exact ⟨firstFailureTime_ok_iff.mp h.failure, findRecentChange_ok_iff.mp h.change,
      buildTimeline_ok_iff.mp (h.timeline.imp fun lines => And.left)⟩
  · intro h
    obtain ⟨lines, hlines⟩ := buildTimeline_ok_iff.mpr h.timeline
    exact ⟨firstFailureTime_ok_iff.mpr h.warnings, findRecentChange_ok_iff.mpr h.changes, lines,
      hlines, timelineOf_of_ok hlines⟩

/-! ## A zone that is left out

Two warnings of one exporter, one of which has lost its `Z`. -/

/-- Two warnings, the second without a zone. -/
def zoneless : Context where
  events := [{ type := some "Warning", timestamp := "2026-06-13T10:00:00Z" },
             { type := some "Warning", timestamp := "2026-06-13T10:05:00" }]

/-- The second warning cannot be compared with the first one. -/
theorem zoneless_raises : ¬ Tolerates zoneless demoNow := by
  intro h
  have hcomparable := firstFailureTime_ok_iff.mp h.failure
  exact absurd hcomparable (by decide +kernel)

end SreAgent.Rca
