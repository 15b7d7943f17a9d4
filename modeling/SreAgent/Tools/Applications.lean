import SreAgent.Tools.Server

/-!
# ArgoCD applications

The other tools of `tools/gitops.py`, and all four as programs: each reads the one application document
of the ArgoCD API. What `argocd_rollback_info` would roll back to is the second row `argocd_history` shows
of the same document (`rollback_is_second_row`).

The document is asked for four times in the same way, and each tool reads another part of it. Where
a part is missing the source has a default, and where it is of another kind the source raises. Both
are kept, so two tools that look at the same document may disagree on whether it is readable at all.
-/

namespace SreAgent.Tools

open Interaction (Prog)
open Py (Json)

def applicationRequest (settings : Settings) (cfg : ClusterConfig) (app : String) : GetRequest :=
  { url := (argocd settings cfg).1 ++ "/api/v1/applications/" ++ app
    headers := (argocd settings cfg).2 }

/-- `_argocd`, then the request for the application. -/
def application (server : Server) (app : String) (cluster : Option String) : Run Json := do
  let cfg ← Prog.lift (server.site.registry.get cluster)
  getJson (applicationRequest server.settings.toSettings cfg app)

/-! ## What the tools make of it

Each tool has a function from the document to what it returns, and the tool itself is the request
and then this function. Rows keep the JSON they were made of: what ArgoCD calls a revision may be a
string, a list or nothing. -/

structure Condition where
  type    : Json
  message : Json

structure Resource where
  kind   : Json
  name   : Json
  health : Json
  status : Json

structure AppState where
  name             : String
  health           : Json
  sync             : Json
  revision         : Json
  target           : Json
  operationState   : Json
  operationMessage : Json
  conditions       : List Condition
  resources        : List Resource

def conditionRow (c : Json) : Except Exc Condition := do
  let type ← getKey c "type" .null
  let message ← firstOf 300 (orElse (← getKey c "message" .null) (.str ""))
  return ⟨type, message⟩

/-- `(r.get("health") or {}).get("status")`. -/
def healthOf (r : Json) : Except Exc Json := do
  getKey (orEmpty (← getKey r "health" .null)) "status" .null

/-- `health not in (None, "Healthy")`. -/
def isUnhealthy : Json → Bool
  | .null  => false
  | .str s => s != "Healthy"
  | _      => true

/-- A row for a resource that is not healthy. -/
def resourceRow (r : Json) : Except Exc (Option Resource) := do
  let health ← healthOf r
  if isUnhealthy health then
    let kind ← getKey r "kind" .null
    let name ← getKey r "name" .null
    let status ← getKey r "status" .null
    return some ⟨kind, name, health, status⟩
  else return none

/-- What `argocd_app` makes of the application. -/
def appState (app : String) (data : Json) : Except Exc AppState := do
  let status ← getKey data "status" (.obj [])
  let health ← getKey (← getKey status "health" (.obj [])) "status" .null
  let sync ← getKey status "sync" (.obj [])
  let syncStatus ← getKey sync "status" .null
  let revision ← getKey sync "revision" .null
  let spec ← getKey data "spec" (.obj [])
  let target ← getKey (← getKey spec "source" (.obj [])) "targetRevision" .null
  let operation := orEmpty (← getKey status "operationState" .null)
  let phase ← getKey operation "phase" .null
  let message ← getKey operation "message" .null
  let conditions ← iterate (orElse (← getKey status "conditions" (.arr [])) (.arr []))
  let conditions ← conditions.mapM conditionRow
  let resources ← iterate (← getKey status "resources" (.arr []))
  let resources ← resources.mapM resourceRow
  return ⟨app, health, syncStatus, revision, target, phase, message, conditions,
    resources.reduceOption⟩

def argocdApp (server : Server) (app : String) (cluster : Option String) : Run AppState := do
  let data ← application server app cluster
  Prog.lift (appState app data)

structure SyncStatus where
  status    : Json
  revision  : Json
  outOfSync : List (Json × Json)

/-- The kind and the name of a resource that drifts. -/
def driftRow (r : Json) : Except Exc (Option (Json × Json)) := do
  match ← getKey r "status" .null with
  | .str "OutOfSync" =>
    let kind ← getKey r "kind" .null
    let name ← getKey r "name" .null
    return some (kind, name)
  | _ => return none

/-- What `argocd_sync_status` makes of the application. -/
def syncStatus (data : Json) : Except Exc SyncStatus := do
  let status ← getKey data "status" (.obj [])
  let sync ← getKey status "sync" (.obj [])
  let state ← getKey sync "status" .null
  let revision ← getKey sync "revision" .null
  let resources ← iterate (← getKey status "resources" (.arr []))
  let drift ← resources.mapM driftRow
  return ⟨state, revision, drift.reduceOption⟩

def argocdSyncStatus (server : Server) (app : String) (cluster : Option String) :
    Run SyncStatus := do
  let data ← application server app cluster
  Prog.lift (syncStatus data)

structure Release where
  id         : Json
  revision   : Json
  deployedAt : Json
  source     : Json

def releaseRow (h : Json) : Except Exc Release := do
  let id ← getKey h "id" .null
  let revision ← getKey h "revision" .null
  let deployedAt ← getKey h "deployedAt" .null
  let source ← getKey (← getKey h "source" (.obj [])) "targetRevision" .null
  return ⟨id, revision, deployedAt, source⟩

/-- What `argocd_history` makes of the application: the latest release first. -/
def releases (limit : ℤ) (data : Json) : Except Exc (List Release) := do
  let status ← getKey data "status" (.obj [])
  let history ← lastOf limit (← getKey status "history" (.arr []))
  history.reverse.mapM releaseRow

def argocdHistory (server : Server) (app : String) (cluster : Option String) (limit : ℤ) :
    Run (List Release) := do
  let data ← application server app cluster
  Prog.lift (releases limit data)

def rollbackInfoCalls (server : Server) (app : String) (cluster : Option String) :
    Run RollbackInfo := do
  let data ← application server app cluster
  Prog.lift (rollbackInfo data)

/-! ## History and rollback

ArgoCD lists releases oldest first. The history tool takes the last few and turns them around. The
rollback tool counts two from the end. These are the same entry, but for one way of asking: with a
limit of one only the latest release is shown, and the second row is missing although there is
something to roll back to. -/

/-- The last but one of a list is the second from behind. -/
theorem lastButOne_arr {items : List Json} {previous : Json}
    (h : lastButOne (.arr items) = .ok previous) : previous = (items.reverse[1]?).getD .null := by
  rw [← Except.ok.inj h]
  -- `history[-2]` is the second of the reversed list, where there are two
  by_cases hlen : items.length ≥ 2
  · rw [if_pos hlen, List.getElem?_reverse (by omega), List.getD_eq_getElem?_getD]
    rfl
  · have hnone : items.reverse[1]? = none := by
      rw [List.getElem?_eq_none_iff, List.length_reverse]
      omega
    rw [if_neg hlen, hnone]
    rfl

/-- A row shows the revision and the time of the entry it is made of, which is an object. -/
theorem releaseRow_ok {h : Json} {row : Release} (hrow : releaseRow h = .ok row) :
    getKey (orEmpty h) "revision" .null = .ok row.revision ∧
      getKey (orEmpty h) "deployedAt" .null = .ok row.deployedAt := by
  unfold releaseRow at hrow
  obtain ⟨id, hid, hrow⟩ := bind_ok hrow
  obtain ⟨revision, hrevision, hrow⟩ := bind_ok hrow
  obtain ⟨deployedAt, hdeployed, hrow⟩ := bind_ok hrow
  obtain ⟨from_, -, hrow⟩ := bind_ok hrow
  obtain ⟨source, -, hrow⟩ := bind_ok hrow
  rw [← Except.ok.inj hrow]
  -- an entry that is not an object has no `.get`, so the row could not have been built
  have hor : orEmpty h = h := by
    cases h with
    | obj members => cases members <;> rfl
    | _ => cases hid
  rw [hor]
  exact ⟨hrevision, hdeployed⟩

/-- What both tools read of a document. -/
theorem rollbackInfo_ok {data : Json} {info : RollbackInfo} (h : rollbackInfo data = .ok info) :
    ∃ status history previous, getKey data "status" (.obj []) = .ok status ∧
      getKey status "history" (.arr []) = .ok history ∧ lastButOne history = .ok previous ∧
      getKey (orEmpty previous) "revision" .null = .ok info.rollbackCandidate ∧
      getKey (orEmpty previous) "deployedAt" .null = .ok info.rollbackDeployedAt := by
  unfold rollbackInfo at h
  obtain ⟨status, hstatus, h⟩ := bind_ok h
  obtain ⟨history, hhistory, h⟩ := bind_ok h
  -- the status is fetched twice; the second copy is for the current revision
  obtain ⟨status', -, h⟩ := bind_ok h
  obtain ⟨sync, -, h⟩ := bind_ok h
  obtain ⟨current, -, h⟩ := bind_ok h
  obtain ⟨previous, hprevious, h⟩ := bind_ok h
  obtain ⟨candidate, hcandidate, h⟩ := bind_ok h
  obtain ⟨deployedAt, hdeployed, h⟩ := bind_ok h
  rw [← Except.ok.inj h]
  exact ⟨status, history, previous, hstatus, hhistory, hprevious, hcandidate, hdeployed⟩

/-- What the history reads of a document: the last entries, turned around, each made into its row.
-/
theorem releases_ok {data : Json} {limit : ℤ} {rows : List Release}
    (h : releases limit data = .ok rows) :
    ∃ status history items, getKey data "status" (.obj []) = .ok status ∧
      getKey status "history" (.arr []) = .ok history ∧ lastOf limit history = .ok items ∧
      List.Forall₂ (fun x row => releaseRow x = .ok row) items.reverse rows := by
  unfold releases at h
  obtain ⟨status, hstatus, h⟩ := bind_ok h
  obtain ⟨history, hhistory, h⟩ := bind_ok h
  obtain ⟨items, hitems, h⟩ := bind_ok h
  exact ⟨status, history, items, hstatus, hhistory, hitems, rows_forall₂ h⟩

/-- The entry of a row. -/
theorem entry_of_row {items : List Json} {rows : List Release} {i : Nat} {row : Release}
    (h : List.Forall₂ (fun x row => releaseRow x = .ok row) items rows) (hrow : rows[i]? = some row) :
    ∃ x, items[i]? = some x ∧ releaseRow x = .ok row := by
  induction h generalizing i with
  | nil => cases hrow
  | cons hx hrest ih =>
      cases i with
      | zero => exact ⟨_, rfl, by rw [hx, Option.some.inj hrow]⟩
      | succ i => exact ih hrow

/-- **What is rolled back to** is the second row of the history, however many rows are asked for; and
where at least two are asked for and fewer are there, there is nothing to roll back to. -/
theorem rollback_is_second_row {data : Json} {limit : ℤ} {rows : List Release} {info : RollbackInfo}
    (hrows : releases limit data = .ok rows) (hinfo : rollbackInfo data = .ok info) :
    (∀ row, rows[1]? = some row →
        row.revision = info.rollbackCandidate ∧ row.deployedAt = info.rollbackDeployedAt) ∧
      (0 ≤ limit → limit ≠ 1 → rows.length < 2 →
        info.rollbackCandidate = .null ∧ info.rollbackDeployedAt = .null) := by
  obtain ⟨status, history, previous, hstatus, hhistory, hprevious, hcandidate, hdeployed⟩ :=
    rollbackInfo_ok hinfo
  obtain ⟨status', history', items, hstatus', hhistory', hitems, hentries⟩ := releases_ok hrows
  obtain rfl : status' = status := Except.ok.inj (hstatus'.symm.trans hstatus)
  obtain rfl : history' = history := Except.ok.inj (hhistory'.symm.trans hhistory)
  have hlength := hentries.length_eq
  rw [List.length_reverse] at hlength
  cases history' with
  | arr entries =>
      obtain rfl : fromEnd limit entries = items := Except.ok.inj hitems
      have hlast := lastButOne_arr hprevious
      constructor
      · intro row hrow
        obtain ⟨x, hx, hread⟩ := entry_of_row hentries hrow
        obtain ⟨k, hdrop⟩ := fromEnd_eq_drop limit entries
        rw [hdrop] at hx
        rw [reverse_drop_getElem? hx] at hlast
        obtain rfl : previous = x := hlast
        obtain ⟨hrevision, htime⟩ := releaseRow_ok hread
        exact ⟨Except.ok.inj (hrevision.symm.trans hcandidate),
          Except.ok.inj (htime.symm.trans hdeployed)⟩
      · intro hlimit hone hfew
        rw [← hlength, length_fromEnd hlimit hone] at hfew
        have hnone : entries.reverse[1]? = none := by
          rw [List.getElem?_eq_none_iff, List.length_reverse]
          omega
        rw [hnone] at hlast
        obtain rfl : previous = .null := hlast
        exact ⟨(Except.ok.inj hcandidate).symm, (Except.ok.inj hdeployed).symm⟩
  | str s =>
      -- the characters of a string are no entries, so there is at most one and no row of it
      obtain rfl : fromEnd limit (characters s) = items := Except.ok.inj hitems
      have hshort : ¬ s.length ≥ 2 := by
        intro hlong
        rw [lastButOne, if_pos hlong] at hprevious
        cases hprevious
      rw [lastButOne, if_neg hshort] at hprevious
      obtain rfl : .null = previous := Except.ok.inj hprevious
      constructor
      · intro row hrow
        obtain ⟨x, hx, -⟩ := entry_of_row hentries hrow
        obtain ⟨k, hdrop⟩ := fromEnd_eq_drop limit (characters s)
        rw [hdrop] at hx
        obtain ⟨hlt, -⟩ := List.getElem?_eq_some_iff.mp (reverse_drop_getElem? hx)
        rw [List.length_reverse, characters, List.length_map, String.length_toList] at hlt
        omega
      · intro _ _ _
        exact ⟨(Except.ok.inj hcandidate).symm, (Except.ok.inj hdeployed).symm⟩
  | _ => cases hitems

/-- An application that was deployed twice. -/
def redeployed : Json :=
  .obj [("status", .obj
    [("sync", .obj [("revision", .str "v1.3.0")]),
     ("history", .arr
       [.obj [("revision", .str "v1.2.0"), ("deployedAt", .str "2024-04-30T09:00:00Z")],
        .obj [("revision", .str "v1.3.0"), ("deployedAt", .str "2024-05-01T11:50:00Z")]])])]

theorem rollback_is_second_row_redeployed :
    ∃ rows info, releases 10 redeployed = .ok rows ∧ rollbackInfo redeployed = .ok info ∧
      rows.length = 2 ∧ info.rollbackCandidate = .str "v1.2.0" ∧
      ∀ row, rows[1]? = some row →
        row.revision = info.rollbackCandidate ∧ row.deployedAt = info.rollbackDeployedAt :=
  ⟨_, _, rfl, rfl, rfl, rfl, (@rollback_is_second_row redeployed 10 _ _ rfl rfl).1⟩

end SreAgent.Tools
