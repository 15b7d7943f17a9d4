import SreAgent.Rca.Collected
import SreAgent.Rca.Credit
import SreAgent.Tools.Gitops

/-!
# Where a rollback goes

`find_recent_change` blames the first-listed of the latest changes and proposes the revision that
comes before the last one when the changes of that kind are sorted by time; the detector takes the
proposal, or a phrase where there is none. Which release that is can be read off the history without
sorting it (`StableSort.IsRunnerUp`): with a tie at the end, or a release deployed twice, it need
not be older than the blamed one, nor another revision.

Two tools propose a target. The diagnosis looks at times, and the tool for ArgoCD at positions in a
list. Each is compared with what a rollback is for: to get back to something else that was there
before.
-/

namespace SreAgent.Rca

open Py (DateTime Json)

/-! ## The changes that are known

Three loops over three lists. Each keeps those changes whose time is known and not after the
failure, in order; so what they keep is a filter, if they return at all. -/

/-- The candidate for one change: its time is known and not after the failure. -/
def knownAt {α : Type} (failure : DateTime) (at_ : α → Option String) (mk : α → String → Change)
    (x : α) : Option Candidate :=
  (parse (at_ x)).bind fun t =>
    if t.instant ≤ failure.instant then some ⟨mk x ((at_ x).getD ""), t⟩ else none

/-- A comparison that returns compares instants. -/
theorem notAfter_inv {d e : DateTime} {b : Bool} (h : notAfter d e = .ok b) :
    b = decide (d.instant ≤ e.instant) := by
  unfold notAfter DateTime.le? at h
  by_cases hkind : d.aware = e.aware
  · rw [if_pos hkind] at h
    exact (Except.ok.inj h).symm
  · rw [if_neg hkind] at h
    cases h

/-- A loop of `find_recent_change` that returns has kept the known changes, in order. -/
theorem candidatesOf_inv {α : Type} {failure : DateTime} {at_ : α → Option String}
    {mk : α → String → Change} {items : List α} {cs : List Candidate}
    (h : candidatesOf failure at_ mk items = .ok cs) :
    cs = items.filterMap (knownAt failure at_ mk) := by
  induction items generalizing cs with
  | nil => exact (Except.ok.inj h).symm
  | cons x xs ih =>
      rw [candidatesOf] at h
      cases hp : parse (at_ x) with
      | none =>
          rw [hp] at h
          have hx : knownAt failure at_ mk x = none := by simp [knownAt, hp]
          rw [List.filterMap_cons_none hx]
          exact ih h
      | some t =>
          rw [hp] at h
          obtain ⟨before, hbefore, h⟩ := bind_ok h
          obtain ⟨rest, hrest, h⟩ := bind_ok h
          have hcs := Except.ok.inj h
          -- the entry is kept exactly when its time is not after the failure
          rw [notAfter_inv hbefore, ih hrest] at hcs
          rw [← hcs]
          by_cases hle : t.instant ≤ failure.instant
          · simp [knownAt, hp, hle]
          · simp [knownAt, hp, hle]

/-- The known changes of one kind, in the order of their list. -/
def known (ctx : Context) (failure : DateTime) : ChangeKind → List Candidate
  | .sync   => ctx.argocdHistory.filterMap (knownAt failure Release.at_
      fun h t => { kind := .sync, revision := h.revision, at_ := t })
  | .deploy => ctx.deployments.filterMap (knownAt failure Release.at_
      fun d t => { kind := .deploy, revision := d.revision, at_ := t })
  | .secret => ctx.secretChanges.filterMap (knownAt failure SecretChange.at_
      fun s t => { kind := .secret, name := s.name, at_ := t })

/-- A change is known with its time. -/
theorem knownAt_eq_some {α : Type} {failure : DateTime} {at_ : α → Option String}
    {mk : α → String → Change} {x : α} {c : Candidate} :
    knownAt failure at_ mk x = some c ↔ ∃ t, parse (at_ x) = some t ∧
      t.instant ≤ failure.instant ∧ ⟨mk x ((at_ x).getD ""), t⟩ = c := by
  rw [knownAt, Option.bind_eq_some_iff]
  refine exists_congr fun t => and_congr_right fun _ => ?_
  rw [Option.ite_none_right_eq_some, Option.some.injEq]

/-- The candidates of a kind are of that kind. -/
theorem known_kind {ctx : Context} {failure : DateTime} {kind : ChangeKind} {c : Candidate}
    (h : c ∈ known ctx failure kind) : c.change.kind = kind := by
  cases kind <;>
  · obtain ⟨x, -, hx⟩ := List.mem_filterMap.mp h
    obtain ⟨t, -, -, rfl⟩ := knownAt_eq_some.mp hx
    rfl

/-- Of all candidates, those of one kind. -/
theorem filter_known (ctx : Context) (failure : DateTime) (kind : ChangeKind) :
    (known ctx failure .sync ++ known ctx failure .deploy ++ known ctx failure .secret).filter
      (·.change.kind = kind) = known ctx failure kind := by
  -- each of the three lists holds changes of one kind only
  have own : ∀ k, k = kind →
      (known ctx failure k).filter (fun c => decide (c.change.kind = kind)) = known ctx failure k := by
    intro k hk
    rw [List.filter_eq_self]
    intro c hc
    simp [known_kind hc, hk]
  have foreign : ∀ k, k ≠ kind →
      (known ctx failure k).filter (fun c => decide (c.change.kind = kind)) = [] := by
    intro k hk
    rw [List.filter_eq_nil_iff]
    intro c hc
    simp [known_kind hc, hk]
  rw [List.filter_append, List.filter_append]
  cases kind with
  | sync => rw [own .sync rfl, foreign .deploy (by simp), foreign .secret (by simp)]; simp
  | deploy => rw [foreign .sync (by simp), own .deploy rfl, foreign .secret (by simp)]; simp
  | secret => rw [foreign .sync (by simp), foreign .deploy (by simp), own .secret rfl]; simp

/-! ## What is blamed and what is proposed

`max` takes the first of the latest, and the sort is stable. Which element comes last but one is
said by order statistics of the unsorted list, with ties broken by position. -/

/-- The time by which changes are compared. -/
def Candidate.instant (c : Candidate) : ℤ := c.t.instant

/-- The moment up to which changes count. -/
def failureOf (ctx : Context) (now : DateTime) : DateTime := ctx.firstFailureTime.getD now

/-- The change that is blamed: of the latest ones, the first in the order syncs, deploys, secrets.
It is an order statistic of the history, and no run of the search is needed to name it. -/
def Blamed (ctx : Context) (now : DateTime) (best : Candidate) : Prop :=
  StableSort.IsFirst Candidate.instant
    (known ctx (failureOf ctx now) .sync ++ known ctx (failureOf ctx now) .deploy ++
      known ctx (failureOf ctx now) .secret) best

/-- The known changes of the same kind, and the last but one of them. -/
def RunnerUp (ctx : Context) (now : DateTime) (kind : ChangeKind) (r : Candidate) : Prop :=
  StableSort.IsRunnerUp Candidate.instant (known ctx (failureOf ctx now) kind) r

/-- **The change that `find_recent_change` returns** is the blamed one, with the revision of the
runner-up of its kind as its rollback target, if there are two. -/
theorem findRecentChange_inv {ctx : Context} {now : DateTime} {c : Change}
    (h : findRecentChange ctx now = .ok (some c)) :
    ∃ best, Blamed ctx now best ∧ c = { best.change with rollbackTarget := c.rollbackTarget } ∧
      ((known ctx (failureOf ctx now) c.kind).length < 2 ∧ c.rollbackTarget = none ∨
        ∃ r, RunnerUp ctx now c.kind r ∧ c.rollbackTarget = some r.change.revisionOr) := by
  unfold findRecentChange at h
  unfold Blamed RunnerUp failureOf
  dsimp only at h
  obtain ⟨syncs, hsyncs, h⟩ := bind_ok h
  obtain ⟨deploys, hdeploys, h⟩ := bind_ok h
  obtain ⟨secrets, hsecrets, h⟩ := bind_ok h
  -- from here on the failure's time is just a time: the three lists are known as filters
  generalize ctx.firstFailureTime.getD now = failure at *
  obtain rfl : syncs = known ctx failure .sync := candidatesOf_inv hsyncs
  obtain rfl : deploys = known ctx failure .deploy := candidatesOf_inv hdeploys
  obtain rfl : secrets = known ctx failure .secret := candidatesOf_inv hsecrets
  split at h
  · cases h
  · next best hbest =>
    obtain ⟨sorted, hsorted, h⟩ := bind_ok h
    rw [filter_known] at hsorted  -- `same_kind` is one of the three lists again
    have hc := Option.some.inj (Except.ok.inj h)
    have hkind : c.kind = best.change.kind := by rw [← hc]
    refine ⟨best, latest_isFirst hbest, by rw [← hc], ?_⟩
    unfold sortByTime at hsorted
    split at hsorted
    · have hsort : StableSort.sort Candidate.instant (known ctx failure c.kind) = sorted := by
        rw [hkind]
        exact Except.ok.inj hsorted
      have hlen : sorted.length = (known ctx failure c.kind).length := by
        rw [← hsort]
        exact List.length_insertionSort ..
      by_cases htwo : sorted.length ≥ 2  -- `same_kind[1]` exists from two changes of the kind on
      · right
        obtain ⟨r, hr⟩ := @StableSort.exists_isRunnerUp _ _ _ Candidate.instant _
          (hlen ▸ htwo : 2 ≤ (known ctx failure c.kind).length)
        refine ⟨r, hr, ?_⟩
        have hget := StableSort.getElem?_sort_of_isRunnerUp hr
        rw [hsort] at hget
        rw [← hc]
        simp only [if_pos htwo, hget, Option.map_some]
      · left
        refine ⟨by omega, ?_⟩
        rw [← hc]
        simp only [if_neg htwo]
    · cases hsorted

/-- Whatever is blamed is returned. -/
theorem Blamed.returned {ctx : Context} {now : DateTime} {best : Candidate}
    (hbest : Blamed ctx now best) {change : Option Change}
    (h : findRecentChange ctx now = .ok change) :
    ∃ target, change = some { best.change with rollbackTarget := target } := by
  cases change with
  | none =>  -- nothing is returned only when there is no candidate, and the blamed change is one
      have hmem := hbest.mem
      unfold findRecentChange at h
      dsimp only at h
      obtain ⟨syncs, hsyncs, h⟩ := bind_ok h
      obtain ⟨deploys, hdeploys, h⟩ := bind_ok h
      obtain ⟨secrets, hsecrets, h⟩ := bind_ok h
      rw [candidatesOf_inv hsyncs, candidatesOf_inv hdeploys, candidatesOf_inv hsecrets] at h
      split at h
      · next hnone =>
        have hnil : known ctx (failureOf ctx now) .sync ++ known ctx (failureOf ctx now) .deploy ++
            known ctx (failureOf ctx now) .secret = [] := by
          unfold latest at hnone
          split at hnone
          · next hnil => exact hnil
          · cases hnone
        rw [hnil] at hmem
        cases hmem
      · obtain ⟨sorted, -, h⟩ := bind_ok h
        cases h
  | some c =>
      obtain ⟨best', hbest', hc, -⟩ := findRecentChange_inv h
      obtain rfl := hbest.unique hbest'
      exact ⟨_, congrArg some hc⟩

/-! ## The hypothesis

From a hypothesis that asks for a rollback back to the change, and the other way round. -/

/-- A release asks for a rollback to its target, a secret for none. -/
theorem creditRelease_rollback {change : Option Change} {h : Hypothesis}
    (hno : h.rollbackRequired = false) :
    (creditRelease change h).rollbackRequired = true ↔
      ∃ c, change = some c ∧ c.kind ≠ .secret ∧ (creditRelease change h).rollbackTarget =
        c.rollbackTarget.getD (some "previous revision") := by
  cases change with
  | none => simp [creditRelease, hno]
  | some c => cases hk : c.kind <;> simp [creditRelease, hk, hno]

/-- **When a rollback is asked for**, and where to: a crash loop blames the connection, the last
change is no secret, and its target is taken over. -/
theorem rollback_of_evaluate {ctx : Context} {h : Hypothesis} (hh : h ∈ evaluate ctx)
    (hrequired : h.rollbackRequired = true) :
    BlamesConnection ctx ∧ ∃ c, ctx.recentChange = some c ∧ c.kind ≠ .secret ∧
      h.rollbackTarget = c.rollbackTarget.getD (some "previous revision") := by
  -- only the crash-loop detector ever credits a release, so no other asks for a rollback
  rcases crashloop_or_uncredited hh with hdh | hother
  · cases crashloopDbConnection_iff.mp hdh with
    | generic => cases hrequired
    | auth hloop hdns hauth =>
        obtain ⟨c, hc, hkind, htarget⟩ := (creditRelease_rollback
          (crashloopAuth_rollback _)).mp hrequired
        exact ⟨⟨hloop, hdns, .inl hauth⟩, c, hc, hkind, htarget⟩
    | reach hloop hdns hauth hreach =>
        obtain ⟨c, hc, hkind, htarget⟩ := (creditRelease_rollback
          (crashloopReach_uncredited ..).rollback).mp hrequired
        exact ⟨⟨hloop, hdns, .inr hreach⟩, c, hc, hkind, htarget⟩
  · rw [hother.rollback] at hrequired
    cases hrequired

/-- And it is asked for then. -/
theorem BlamesConnection.rollback {ctx : Context} (h : BlamesConnection ctx) {c : Change}
    (hc : ctx.recentChange = some c) (hkind : c.kind ≠ .secret) :
    ∃ hyp ∈ evaluate ctx, hyp.rollbackRequired = true := by
  obtain ⟨hloop, hdns, hcause⟩ := h
  -- whichever branch was taken, crediting the release sets the flag
  have found : ∀ hyp, hyp.rollbackRequired = false →
      crashloopDbConnection ctx = some (creditRelease ctx.recentChange hyp) →
      ∃ hyp ∈ evaluate ctx, hyp.rollbackRequired = true := by
    intro hyp hno hd
    refine ⟨_, mem_evaluate.mpr ⟨_, List.mem_cons_self .., hd⟩, ?_⟩
    rw [hc]
    cases hk : c.kind with
    | secret => exact absurd hk hkind
    | sync => simp [creditRelease, hk]
    | deploy => simp [creditRelease, hk]
  -- the authentication branch is tried before the unreachable host
  cases hauth : Py.containsAny (allLogs ctx) dbAuth with
  | true =>
      apply found (crashloopAuth ctx.recentChange genericCrashloop)
      · exact crashloopAuth_rollback _
      · exact crashloopDbConnection_iff.mpr (.auth hloop hdns hauth)
  | false =>
      rw [hauth] at hcause
      have hreach := hcause.resolve_left Bool.false_ne_true
      apply found (crashloopReach (allLogs ctx) ctx.services genericCrashloop)
      · exact (crashloopReach_uncredited ..).rollback
      · exact crashloopDbConnection_iff.mpr (.reach hloop hdns hauth hreach)

/-! ## Going back

A target leads back if it names something other than what is deployed now, and something that was
deployed before it; or if it is the phrase that leaves the choice to the reader. -/

def releases (ctx : Context) : ChangeKind → List Release
  | .sync   => ctx.argocdHistory
  | .deploy => ctx.deployments
  | .secret => []

/-- The revision was deployed strictly before the change. -/
def DeployedBefore (ctx : Context) (c : Change) (revision : String) : Prop :=
  ∃ x ∈ releases ctx c.kind, x.revision = some revision ∧
    ∃ t ∈ parse x.at_, ∃ u ∈ parse (some c.at_), t.instant < u.instant

/-- A target to which a rollback from the change leads back. -/
def LeadsBack (ctx : Context) (c : Change) (target : Option String) : Prop :=
  ∃ s, target = some s ∧ s ≠ "" ∧ (s = "previous revision" ∨ DeployedBefore ctx c s) ∧
    c.revision ≠ some s

/-- Whoever is asked to roll back is told where to: the target leads back from the change that is
blamed, and not to it again. -/
def RollbackSafe (ctx : Context) : Prop :=
  ∀ h ∈ evaluate ctx, h.rollbackRequired = true →
    ∃ c, ctx.recentChange = some c ∧ LeadsBack ctx c h.rollbackTarget

/-- The blamed release is the only one of its kind, or the one listed before it in time is older,
has a revision and has another one. -/
def HasPredecessor (ctx : Context) (now : DateTime) (best : Candidate) : Prop :=
  (known ctx (failureOf ctx now) best.change.kind).length < 2 ∧
      best.change.revision ≠ some "previous revision" ∨
    ∃ r s, RunnerUp ctx now best.change.kind r ∧ r.change.revision = some s ∧ s ≠ "" ∧
      best.change.revision ≠ some s ∧
      (r.instant < best.instant ∨ s = "previous revision" ∨ DeployedBefore ctx best.change s)

/-- A time that was parsed once can be parsed again. -/
theorem parse_getD {ts : Option String} {t : DateTime} (h : parse ts = some t) :
    parse (some (ts.getD "")) = some t := by
  cases ts with
  | none => cases h
  | some s => exact h

/-- A known release with its entry. -/
theorem known_release {ctx : Context} {failure : DateTime} {kind : ChangeKind} {c : Candidate}
    (h : c ∈ known ctx failure kind) (hkind : kind ≠ .secret) :
    parse (some c.change.at_) = some c.t ∧
      ∃ x ∈ releases ctx kind, x.revision = c.change.revision ∧ parse x.at_ = some c.t := by
  -- syncs and deploys are candidates built from a release; a secret's rotation is not
  have entry : ∀ (items : List Release) (mk : Release → String → Change),
      (∀ x t, (mk x t).revision = x.revision ∧ (mk x t).at_ = t) →
      c ∈ items.filterMap (knownAt failure Release.at_ mk) →
      parse (some c.change.at_) = some c.t ∧
        ∃ x ∈ items, x.revision = c.change.revision ∧ parse x.at_ = some c.t := by
    intro items mk hmk hc
    obtain ⟨x, hx, hxc⟩ := List.mem_filterMap.mp hc
    obtain ⟨t, ht, -, rfl⟩ := knownAt_eq_some.mp hxc
    refine ⟨?_, x, hx, (hmk _ _).1.symm, ht⟩
    dsimp only
    rw [(hmk _ _).2]
    exact parse_getD ht
  cases kind with
  | sync => exact entry _ _ (fun _ _ => ⟨rfl, rfl⟩) h
  | deploy => exact entry _ _ (fun _ _ => ⟨rfl, rfl⟩) h
  | secret => exact absurd rfl hkind

/-- An older release was deployed before. -/
theorem deployedBefore_of_older {ctx : Context} {failure : DateTime} {best r : Candidate} {s : String}
    (hbest : best ∈ known ctx failure best.change.kind)
    (hr : r ∈ known ctx failure best.change.kind) (hkind : best.change.kind ≠ .secret)
    (hs : r.change.revision = some s) (hlt : r.instant < best.instant) :
    DeployedBefore ctx best.change s := by
  obtain ⟨hat, -⟩ := known_release hbest hkind
  obtain ⟨-, x, hx, hrev, hparse⟩ := known_release hr hkind
  exact ⟨x, hx, hrev.trans hs, r.t, hparse, best.t, hat, hlt⟩

/-- A release has its own revision. -/
theorem Change.revisionOr_of_release {c : Change} (h : c.kind ≠ .secret) :
    c.revisionOr = c.revision := if_neg h

/-- What is blamed is a known change of its kind. -/
theorem Blamed.mem_known {ctx : Context} {now : DateTime} {best : Candidate}
    (h : Blamed ctx now best) : best ∈ known ctx (failureOf ctx now) best.change.kind := by
  rw [← filter_known]
  exact List.mem_filter.mpr ⟨h.mem, by simp⟩

/-- **The target leads back exactly if there is a predecessor.** -/
theorem leadsBack_iff {ctx : Context} {now : DateTime} {best : Candidate}
    (hbest : Blamed ctx now best) (hkind : best.change.kind ≠ .secret)
    {target : Option (Option String)}
    (h : findRecentChange ctx now = .ok (some { best.change with rollbackTarget := target })) :
    LeadsBack ctx best.change (target.getD (some "previous revision")) ↔
      HasPredecessor ctx now best := by
  obtain ⟨best', hbest', -, htarget⟩ := findRecentChange_inv h
  obtain rfl := hbest.unique hbest'
  dsimp only at htarget
  rcases htarget with ⟨hone, rfl⟩ | ⟨r, hr, rfl⟩
  · constructor
    · rintro ⟨s, hs, -, -, hne⟩
      obtain rfl := Option.some.inj hs
      exact .inl ⟨hone, hne⟩
    · rintro (⟨-, hne⟩ | ⟨r, s, hr, -⟩)
      · exact ⟨_, rfl, by simp, .inl rfl, hne⟩
      · exact absurd hr.two_le (by omega)
  · have hrk : r.change.kind = best.change.kind := known_kind hr.mem
    rw [Option.getD_some, Change.revisionOr_of_release (hrk ▸ hkind)]
    constructor
    · rintro ⟨s, hs, hne, hdeployed, hdiffers⟩
      exact .inr ⟨r, s, hr, hs, hne, hdiffers, .inr hdeployed⟩
    · rintro (⟨hone, -⟩ | ⟨r', s, hr', hs, hne, hdiffers, hdeployed⟩)
      · exact absurd hr.two_le (by omega)
      · obtain rfl := hr.unique hr'
        refine ⟨s, hs, hne, ?_, hdiffers⟩
        rcases hdeployed with hlt | hdeployed
        · right
          exact deployedBefore_of_older hbest.mem_known hr.mem hkind hs hlt
        · exact hdeployed

/-- **When a rollback leads back**: whatever release is blamed for the connection has a predecessor
in the history. -/
theorem rollbackSafe_iff {ctx : Context} {now : DateTime}
    (h : findRecentChange ctx now = .ok ctx.recentChange) :
    RollbackSafe ctx ↔ (BlamesConnection ctx →
      ∀ best, Blamed ctx now best → best.change.kind ≠ .secret → HasPredecessor ctx now best) := by
  constructor
  · intro hsafe hblames best hbest hkind
    obtain ⟨target, htarget⟩ := hbest.returned h
    obtain ⟨hyp, hhyp, hrequired⟩ := hblames.rollback htarget hkind
    obtain ⟨c, hc, hback⟩ := hsafe hyp hhyp hrequired
    obtain ⟨-, c', hc', -, hto⟩ := rollback_of_evaluate hhyp hrequired
    obtain rfl := Option.some.inj (hc.symm.trans htarget)
    obtain rfl := Option.some.inj (hc'.symm.trans htarget)
    rw [hto] at hback
    exact (leadsBack_iff hbest hkind (htarget ▸ h)).mp hback
  · intro hcond hyp hhyp hrequired
    obtain ⟨hblames, c, hc, hkind, hto⟩ := rollback_of_evaluate hhyp hrequired
    rw [hc] at h
    obtain ⟨best, hbest, hbc, -⟩ := findRecentChange_inv h
    have hk : best.change.kind ≠ .secret := by
      rw [hbc] at hkind
      exact hkind
    refine ⟨c, hc, ?_⟩
    rw [hto]
    rw [hbc] at h ⊢
    exact (leadsBack_iff hbest hk h).mpr (hcond hblames best hbest hk)

/-! ## The revision that ArgoCD proposes

The tool reads JSON documents of any shape. A missing key is `None`, and so is what comes of
indexing it; the lemmas follow such lookups through. -/

open Tools (RollbackInfo rollbackInfo argocdRollbackInfo getKey orEmpty lastButOne)

/-- The value at a key of an object. -/
def field (key : String) : Json → Option Json
  | .obj members => Py.member members key
  | _            => none

/-- The last entry but one of a list. -/
def penultimate : Json → Option Json
  | .arr items => items.dropLast.getLast?
  | _          => none

/-- The revision of the last deployment but one. -/
def revisionBefore (data : Json) : Option Json :=
  (((field "status" data).bind (field "history")).bind penultimate).bind (field "revision")

/-- The revision that is deployed now. -/
def syncedRevision (data : Json) : Option Json :=
  ((field "status" data).bind (field "sync")).bind (field "revision")

/-- What is proposed is not what is deployed: the revision that `argocd_rollback_info` offers
differs from the one it reports as current, or none is offered. -/
def ProposesOther (info : RollbackInfo) : Prop :=
  info.rollbackCandidate ≠ .null → info.rollbackCandidate ≠ info.currentRevision

/-- A lookup with a default is one with a default. -/
theorem getKey_inv {v default w : Json} {key : String} (h : getKey v key default = .ok w) :
    w = (field key v).getD default := by
  unfold getKey at h
  split at h
  · exact (Except.ok.inj h).symm
  · cases h

/-- An empty object has no more fields than nothing at all. -/
theorem field_orEmpty {v : Json} (key : String) : field key (orEmpty v) = field key v := by
  unfold orEmpty
  split
  · rfl
  · next hfalsy =>
    cases v with
    | obj members =>
        cases members with
        | nil => rfl
        | cons m ms => exact absurd rfl hfalsy
    | _ => rfl

/-- The entry that is looked at is the last but one, where there is one. -/
theorem lastButOne_field {history previous : Json} (h : lastButOne history = .ok previous)
    (key : String) :
    field key previous = (penultimate history).bind (field key) := by
  unfold lastButOne at h
  cases history with
  | arr items =>  -- a list of fewer than two entries gives nothing that has a field
      rw [← Except.ok.inj h]
      show _ = (items.dropLast.getLast?).bind (field key)
      by_cases htwo : items.length ≥ 2
      · have hlast : items.dropLast.getLast? = some (items.getD (items.length - 2) .null) := by
          have hlt : items.length - 2 < items.length := by omega
          rw [List.getLast?_eq_getElem?, List.length_dropLast, List.getElem?_dropLast,
            if_pos (by omega), Nat.sub_sub, List.getD_eq_getElem?_getD, List.getElem?_eq_getElem hlt]
          rfl
        rw [if_pos htwo, hlast]
        rfl
      · have hnil : items.dropLast = [] := by
          rw [← List.length_eq_zero_iff, List.length_dropLast]
          omega
        rw [if_neg htwo, hnil]
        rfl
  | str s =>  -- any other value is indexed by an integer and raises, unless it is too short to be
      dsimp only at h
      split at h
      · cases h
      · rw [← Except.ok.inj h]
        rfl
  | obj members =>
      dsimp only at h
      split at h
      · cases h
      · rw [← Except.ok.inj h]
        rfl
  | null => cases h
  | bool b => cases h
  | num n => cases h

/-- What is read out of the application. -/
theorem rollbackInfo_inv {data : Json} {info : RollbackInfo} (h : rollbackInfo data = .ok info) :
    info.currentRevision = (syncedRevision data).getD .null ∧
      info.rollbackCandidate = (revisionBefore data).getD .null := by
  unfold rollbackInfo at h
  obtain ⟨status, hstatus, h⟩ := bind_ok h
  obtain ⟨history, hhistory, h⟩ := bind_ok h
  obtain ⟨status', hstatus', h⟩ := bind_ok h
  obtain ⟨sync, hsync, h⟩ := bind_ok h
  obtain ⟨current, hcurrent, h⟩ := bind_ok h
  obtain ⟨previous, hprevious, h⟩ := bind_ok h
  obtain ⟨candidate, hcandidate, h⟩ := bind_ok h
  obtain ⟨deployedAt, hdeployedAt, h⟩ := bind_ok h
  rw [← Except.ok.inj h]
  -- every `.get` with a default reads a field of the document or the default
  have hst := getKey_inv hstatus
  have hst' := getKey_inv hstatus'
  have hhi := getKey_inv hhistory
  have hsy := getKey_inv hsync
  have hcu := getKey_inv hcurrent
  have hca := getKey_inv hcandidate
  rw [field_orEmpty, lastButOne_field hprevious] at hca
  constructor
  · show current = _
    unfold syncedRevision  -- `status.sync.revision`, read from the second copy of the status
    rw [hcu, hsy, hst']
    cases field "status" data with
    | none => rfl
    | some st =>
        show (field "revision" ((field "sync" st).getD (.obj []))).getD .null = _
        rw [Option.bind_some]
        cases field "sync" st <;> rfl
  · show candidate = _
    unfold revisionBefore  -- `status.history[-2].revision`, from the first
    rw [hca, hhi, hst]
    cases field "status" data with
    | none => rfl
    | some st =>
        show ((penultimate ((field "history" st).getD (.arr []))).bind (field "revision")).getD .null = _
        rw [Option.bind_some]
        cases field "history" st <;> rfl

/-- **The tool proposes something else** iff the last but one is not what is deployed. -/
theorem proposesOther_iff {data : Json} {info : RollbackInfo} (h : rollbackInfo data = .ok info) :
    ProposesOther info ↔
      ∀ revision, revisionBefore data = some revision → revision ≠ .null →
        syncedRevision data ≠ some revision := by
  obtain ⟨hcurrent, hcandidate⟩ := rollbackInfo_inv h
  unfold ProposesOther
  rw [hcurrent, hcandidate]
  constructor
  · intro hdiffers revision hrev hnull hsync
    rw [hrev, hsync] at hdiffers
    exact hdiffers hnull rfl
  · intro hcond hnull heq
    -- no candidate, or an explicit null, counts as none proposed
    cases hrev : revisionBefore data with
    | none =>
        rw [hrev] at hnull
        exact hnull rfl
    | some revision =>
        rw [hrev] at hnull heq
        cases hsync : syncedRevision data with
        | none =>
            rw [hsync] at heq
            exact hnull heq
        | some synced =>
            rw [hsync] at heq
            refine hcond revision hrev hnull ?_
            rw [hsync]
            exact congrArg some heq.symm

/-! ## Both

The two parts, for contexts and documents that have nothing to do with each other. -/

/-- **No rollback leads to what it is to undo, exactly if there is something else to go back to**: in
a diagnosis the blamed release needs a predecessor, and ArgoCD's last deployment but one must not be
of the revision that is deployed. -/
theorem rollback_safe_iff {ctx : Context} {now : DateTime} {settings : Settings}
    {registry : ClusterRegistry} {app : String} {cluster : Option String} {data : Json}
    {info : RollbackInfo} (hchange : findRecentChange ctx now = .ok ctx.recentChange)
    (hinfo : argocdRollbackInfo (fun _ _ => .ok data) settings registry app cluster = .ok info) :
    (RollbackSafe ctx ↔ (BlamesConnection ctx → ∀ best, Blamed ctx now best →
      best.change.kind ≠ .secret → HasPredecessor ctx now best)) ∧
    (ProposesOther info ↔ ∀ revision, revisionBefore data = some revision → revision ≠ .null →
      syncedRevision data ≠ some revision) := by
  refine ⟨rollbackSafe_iff hchange, ?_⟩
  obtain ⟨cfg, -, hinfo⟩ := bind_ok hinfo
  exact proposesOther_iff hinfo

/-- A crash loop on a refused connection after some deployments, at the given hours of a day. -/
def afterReleases (releases : List Release) (change : Change) : Context where
  resolved := true
  pods := [{ name := "web-1", reason := some "CrashLoopBackOff" }]
  logs := ["connection refused"]
  deployments := releases
  recentChange := some change

/-- The release `v2` was deployed twice. -/
def redeployed : Context := afterReleases
  [⟨some "v1", some "2026-01-01T09:00:00Z"⟩, ⟨some "v2", some "2026-01-01T10:00:00Z"⟩,
    ⟨some "v2", some "2026-01-01T11:00:00Z"⟩]
  { kind := .deploy
    revision := some "v2"
    at_ := "2026-01-01T11:00:00Z"
    rollbackTarget := some (some "v2") }

def noon : DateTime := { year := 2026, month := 1, day := 1, hour := 12, offset := some 0 }

/-- The context has the change that is found. -/
theorem redeployed_change : findRecentChange redeployed noon = .ok redeployed.recentChange := by
  decide

/-- Its crash loop blames the connection. -/
theorem redeployed_blames : BlamesConnection redeployed := by
  refine ⟨?_, ?_, .inr ?_⟩ <;> decide

/-- An application whose last deployment but one was of the revision `before`. -/
def applicationAfter (before : String) : Json :=
  .obj [("status", .obj
    [("history", .arr [.obj [("revision", .str before)], .obj [("revision", .str "v2")]]),
     ("sync", .obj [("revision", .str "v2")])])]

/-- Both parts on an input each: a release deployed twice, and an application with two revisions. -/
theorem rollback_safe_demo :
    (RollbackSafe redeployed ↔ (BlamesConnection redeployed → ∀ best, Blamed redeployed noon best →
      best.change.kind ≠ .secret → HasPredecessor redeployed noon best)) ∧
    ProposesOther ⟨.str "v2", .str "v1", .null⟩ := by
  have hinfo : argocdRollbackInfo (fun _ _ => .ok (applicationAfter "v1")) {}
      { clusters := [{ name := "prod", auth := { mode := .kubeconfig } }] } "web" (some "prod") =
      .ok ⟨.str "v2", .str "v1", .null⟩ := rfl
  obtain ⟨hrollback, hproposal⟩ := rollback_safe_iff redeployed_change hinfo
  refine ⟨hrollback, hproposal.mpr ?_⟩
  intro revision hrev _ hsync
  obtain rfl : Json.str "v1" = revision := Option.some.inj hrev
  have hv : some (Json.str "v2") = some (Json.str "v1") := hsync
  simp at hv

/-- **A release deployed twice**: after `v1`, `v2` and `v2` again, the rollback from `v2` is to
`v2`. -/
theorem redeployed_rolls_back_to_itself :
    findRecentChange redeployed noon = .ok redeployed.recentChange ∧ ¬ RollbackSafe redeployed := by
  refine ⟨redeployed_change, fun hsafe => ?_⟩
  obtain ⟨hyp, hhyp, hrequired⟩ := redeployed_blames.rollback rfl (by simp)
  obtain ⟨c, hc, s, hs, -, -, hdiffers⟩ := hsafe hyp hhyp hrequired
  obtain ⟨-, c', hc', -, hto⟩ := rollback_of_evaluate hhyp hrequired
  obtain rfl := Option.some.inj hc
  obtain rfl := Option.some.inj hc'
  apply hdiffers
  show some "v2" = some s
  rw [← hs, hto]
  rfl

end SreAgent.Rca
