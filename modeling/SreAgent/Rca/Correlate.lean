import Mathlib.Data.List.Sort
import SreAgent.Rca.Models

/-!
# Change correlation

`rca/correlate.py`. Every comparison of a naive with an aware time raises, so the functions return
`Except`. Sorting a list that mixes the two kinds always meets such a comparison: the elements that
end up side by side have been compared.
-/

namespace SreAgent.Rca

open Py (DateTime)

/-! ## Times and sorting

`_parse` accepts what `fromisoformat` does, after a `Z` has been replaced, and swallows the error.
`list.sort` compares neighbours at least, so it raises exactly on a list that mixes the two kinds of
times. -/

/-- `_parse`: the time of a text, `None` where there is none. -/
def parse (ts : Option String) : Option DateTime :=
  if Py.truthy ts then Py.fromIsoChars (Py.replace 'Z' "+00:00".toList (ts.getD "").toList) else none

/-- All aware or all naive. -/
def comparable (ts : List DateTime) : Bool := ts.all (·.aware) || ts.all (!·.aware)

/-- `items.sort(key=..)`. -/
def sortByTime {α : Type} (key : α → DateTime) (items : List α) : Except Exc (List α) :=
  if comparable (items.map key) then
    .ok (items.insertionSort fun a b => (key a).instant ≤ (key b).instant)
  else .error .typeError  -- comparing a naive with an aware time is a `TypeError`

/-- `d <= e`. -/
def notAfter (d e : DateTime) : Except Exc Bool :=
  match d.le? e with
  | some b => .ok b
  | none   => .error .typeError

/-- `min(d, e)`. -/
def earlier (d e : DateTime) : Except Exc DateTime := do
  if ← notAfter d e then pure d else pure e

/-- `first_failure_time`: the earliest time of a warning. -/
def firstFailureTime (events : List EventInfo) : Except Exc (Option DateTime) := do
  let warnings := events.filter fun e => e.type == some "Warning" && e.timestamp != ""
  let times ← sortByTime id (warnings.filterMap fun e => parse (some e.timestamp))
  pure times.head?

/-! ## The recent change

Syncs, deploys and secrets are collected in this order, each kind with a time not after the failure,
and the latest of all is taken. Among equals the first wins, so a sync wins over a secret of the
same second. -/

/-- A change and its time, parsed. -/
structure Candidate where
  change : Change
  t      : DateTime

/-- One of the three loops of `find_recent_change`: the changes whose time is known and not after
the failure. -/
def candidatesOf {α : Type} (failure : DateTime) (at_ : α → Option String)
    (mk : α → String → Change) : List α → Except Exc (List Candidate)
  | []      => .ok []
  | x :: xs =>
    match parse (at_ x) with
    -- no time, or one that does not parse: the entry is passed over
    | none   => candidatesOf failure at_ mk xs
    | some t => do
      let before ← notAfter t failure
      let rest ← candidatesOf failure at_ mk xs
      pure (if before then ⟨mk x ((at_ x).getD ""), t⟩ :: rest else rest)

/-- `max(candidates, key=..)`: the first of the latest. -/
def latest : List Candidate → Option Candidate
  | []      => none
  | c :: cs => some (cs.foldl (fun best c => if best.t.instant < c.t.instant then c else best) c)

/-- `c.get("revision", "previous revision")`: a secret change has no such key. -/
def Change.revisionOr (c : Change) : Option String :=
  if c.kind = .secret then some "previous revision" else c.revision

/-- `find_recent_change`. A rollback target is the change of the same kind before the one that is
blamed; that lookup sorts once more. -/
def findRecentChange (ctx : Context) (now : DateTime) : Except Exc (Option Change) := do
  -- without a known failure everything up to now is a candidate
  let failure := ctx.firstFailureTime.getD now
  let syncs ← candidatesOf failure Release.at_
    (fun h t => { kind := .sync, revision := h.revision, at_ := t }) ctx.argocdHistory
  let deploys ← candidatesOf failure Release.at_
    (fun d t => { kind := .deploy, revision := d.revision, at_ := t }) ctx.deployments
  let secrets ← candidatesOf failure SecretChange.at_
    (fun s t => { kind := .secret, name := s.name, at_ := t }) ctx.secretChanges
  let candidates := syncs ++ deploys ++ secrets
  match latest candidates with
  | none      => pure none
  | some best => do
    let sameKind ← sortByTime Candidate.t (candidates.filter (·.change.kind = best.change.kind))
    -- `same_kind[-2]`: the one before the last, whatever revision it has
    let target := if sameKind.length ≥ 2
      then (sameKind[sameKind.length - 2]?).map (·.change.revisionOr) else none
    pure (some { best.change with rollbackTarget := target })

/-! ## The timeline

Events and the change, each as one line, sorted by time. What has no time is left out. -/

/-- The first truthy one of two optional strings, or the default. -/
def orElse (a b : Option String) (default : String) : String :=
  if Py.truthy a then a.getD "" else if Py.truthy b then b.getD "" else default

/-- The timed lines of `build_timeline`, before they are sorted. -/
def timelineEntries (ctx : Context) : List (DateTime × String) :=
  ctx.events.filterMap (fun e => (parse (some e.timestamp)).map fun t =>
      (t, Py.showOpt e.reason ++ ": " ++ Py.slice e.message 120)) ++
    -- the change is listed among the events, with the time it was blamed by
    (ctx.recentChange.toList.filterMap fun c => (parse (some c.at_)).map fun t =>
      (t, "CHANGE [" ++ c.kind.value ++ "] " ++ orElse c.revision c.name "change"))

def buildTimeline (ctx : Context) : Except Exc (List String) := do
  let entries ← sortByTime Prod.fst (timelineEntries ctx)
  pure (entries.map fun (t, msg) => t.isoformat ++ "  " ++ msg)

end SreAgent.Rca
