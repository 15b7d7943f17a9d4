import Mathlib.Data.List.Induction
import Mathlib.Tactic.Linarith
import Mathlib.Tactic.NormNum
import SreAgent.Clusters.Basic

/-!
# How old a cluster credential can get

Two caches are stacked: a token cache that renews after fourteen minutes and a client cache that
never does. `Ledger` is the abstract account of both, computed from the times of the calls alone:
when the token now on lease for an EKS name was minted, and when the token was minted that a
registered cluster got at its first successful call and keeps. `Booked` relates the manager's state
to it; one call keeps the relation, so a run does, and the age of every credential handed out is
read off the ledger.
-/

namespace SreAgent

/-! ## The ledger

The ledger knows times only. For each EKS name it keeps when the token on lease was minted, and for
each cluster when the token was minted that its client got. The second is written once and never
again: that is the client cache, seen from outside. -/

structure Ledger where
  lease  : String → Option ℚ := fun _ => none
  minted : String → Option ℚ := fun _ => none

/-- The mint time of the token a request at `now` gets: that of the current lease while it is
younger than fourteen minutes, else `now` if a token can be minted then. -/
def renew (canMint : Bool) (lease : Option ℚ) (now : ℚ) : Option ℚ :=
  match lease with
  | some m => if m + 14 * 60 > now then some m else if canMint then some now else none
  | none   => if canMint then some now else none

/-- Whether AWS hands out a presigned URL at `now`. -/
def Sdk.canMint (sdk : Sdk) (name : String) (now : ℚ) : Bool := (sdk.presignedUrl name now).isOk

/-- A call for `c`: as long as it has no token it requests one for its EKS name. -/
def Ledger.book (sdk : Sdk) (l : Ledger) (c : ClusterConfig) (now : ℚ) : Ledger :=
  if c.auth.mode = .awsEks ∧ l.minted c.name = none then
    match renew (sdk.canMint c.auth.clusterName now) (l.lease c.auth.clusterName) now with
    | some m => ⟨Function.update l.lease c.auth.clusterName (some m),
        Function.update l.minted c.name (some m)⟩
    | none   => l
  else l

/-- One call on the ledger. Names that do not resolve book nothing. -/
def bookCall (sdk : Sdk) (reg : ClusterRegistry) (l : Ledger) (call : ClientCall) : Ledger :=
  match reg.get call.name with
  | .ok c    => l.book sdk c call.now
  | .error _ => l

/-- The ledger after a run, which starts with nothing booked. -/
def ledger (sdk : Sdk) (reg : ClusterRegistry) (calls : List ClientCall) : Ledger :=
  calls.foldl (bookCall sdk reg) {}

/-- A run is extended at its end, so that every induction below has its last call at hand. -/
@[simp] theorem ledger_concat (sdk : Sdk) (reg : ClusterRegistry) (calls : List ClientCall)
    (call : ClientCall) :
    ledger sdk reg (calls ++ [call]) = bookCall sdk reg (ledger sdk reg calls) call := by
  simp [ledger]

/-! ## The manager against the ledger

`Booked` is the invariant. Its two halves are independent: the token cache holds the leases, and the
client cache holds, under each name, a client of this cluster with the token on the books. The
proofs follow the code from the inside out, minting, then `_eks_token`, then `clients`. -/

/-- What the token cache holds for a lease from `m` on. -/
def leased (m : ℚ) : ℚ × ℚ := (m + 14 * 60, m)

/-- A token cache that holds the leases of the ledger. -/
def TokensBooked (lease : String → Option ℚ) (cache : TokenCache) : Prop :=
  ∀ e, (cache e).map (fun p => (p.1, p.2.mintedAt)) = (lease e).map leased

/-- The manager's caches hold what the ledger has booked. -/
structure Booked (reg : ClusterRegistry) (l : Ledger) (mgr : ClusterManager) : Prop where
  registry : mgr.registry = reg
  tokens   : TokensBooked l.lease mgr.eksTokens
  uncached : ∀ n, mgr.cache n = none → l.minted n = none
  cached   : ∀ n cc, mgr.cache n = some cc → (∃ name, reg.get name = .ok cc.cluster) ∧
    cc.cluster.name = n ∧ (cc.cluster.auth.mode = .awsEks →
      ∃ tok, cc.apiClient.authorization = some tok ∧ l.minted n = some tok.mintedAt)

variable {sdk : Sdk} {reg : ClusterRegistry} {l : Ledger} {mgr : ClusterManager}

/-- Minting is a renewal that finds no lease to join. -/
theorem mintEksToken_booked (sdk : Sdk) {lease : String → Option ℚ} {cache : TokenCache}
    (h : TokensBooked lease cache) (name : String) (now : ℚ) :
    match renew (sdk.canMint name now) none now with
    | some m => (∃ tok, (mintEksToken sdk cache name now).1 = .ok tok ∧ tok.mintedAt = m) ∧
        TokensBooked (Function.update lease name (some m)) (mintEksToken sdk cache name now).2
    | none   => (∃ e, (mintEksToken sdk cache name now).1 = .error e) ∧
        (mintEksToken sdk cache name now).2 = cache := by
  cases hurl : sdk.presignedUrl name now with
  | error e =>  -- no URL was signed, so nothing is minted and the lease stays
      have hcan : sdk.canMint name now = false := by simp [Sdk.canMint, hurl, Except.isOk,
        Except.toBool]
      simp [renew, hcan, mintEksToken, hurl]
  | ok url =>
      have hcan : sdk.canMint name now = true := by simp [Sdk.canMint, hurl, Except.isOk,
        Except.toBool]
      simp only [renew, hcan, if_true, mintEksToken, hurl]
      refine ⟨⟨_, rfl, rfl⟩, fun e => ?_⟩
      -- only the entry of the token that was minted has changed
      rcases eq_or_ne e name with rfl | he
      · simp [leased]
      · simpa only [Function.update_of_ne he] using h e

/-- `_eks_token` is the ledger's renewal. -/
theorem eksToken_booked (sdk : Sdk) (h : TokensBooked l.lease mgr.eksTokens) (c : ClusterConfig) (now : ℚ) :
    match renew (sdk.canMint c.auth.clusterName now) (l.lease c.auth.clusterName) now with
    | some m => (∃ tok, (eksToken sdk mgr.eksTokens c now).1 = .ok tok ∧ tok.mintedAt = m) ∧
        TokensBooked (Function.update l.lease c.auth.clusterName (some m))
          (eksToken sdk mgr.eksTokens c now).2
    | none   => (∃ e, (eksToken sdk mgr.eksTokens c now).1 = .error e) ∧
        (eksToken sdk mgr.eksTokens c now).2 = mgr.eksTokens := by
  have htok := h c.auth.clusterName
  have hmint := mintEksToken_booked sdk h c.auth.clusterName now
  cases hcache : mgr.eksTokens c.auth.clusterName with
  | none =>
      -- nothing cached means nothing on lease: both sides mint
      have hlease : l.lease c.auth.clusterName = none := by
        rw [hcache] at htok
        exact Option.map_eq_none_iff.mp htok.symm
      rw [hlease]
      simpa only [eksToken, hcache] using hmint
  | some p =>
      obtain ⟨expiry, text, m⟩ := p
      obtain ⟨hlease, rfl⟩ : l.lease c.auth.clusterName = some m ∧ expiry = m + 14 * 60 := by
        rw [hcache] at htok
        obtain ⟨m', hm', hpair⟩ := Option.map_eq_some_iff.mp htok.symm
        obtain ⟨hexp, rfl⟩ := Prod.mk.inj hpair
        exact ⟨hm', hexp.symm⟩
      by_cases hlive : m + 14 * 60 > now
      · -- the lease runs on: the cached token is its token, and the update changes nothing
        have hsame : Function.update l.lease c.auth.clusterName (some m) = l.lease := by
          rw [← hlease, Function.update_eq_self]
        simp only [renew, hlease, hlive, if_true, eksToken, hcache, hsame]
        exact ⟨⟨_, rfl, rfl⟩, h⟩
      · have hrenew : renew (sdk.canMint c.auth.clusterName now) (some m) now =
            renew (sdk.canMint c.auth.clusterName now) none now := by
          simp only [renew, hlive, if_false]
        rw [hlease, hrenew]
        simpa only [eksToken, hcache, hlive, if_false] using hmint

/-! ## One call

A call ends in one of four ways: the client was cached, it was built, building raised, or the name
did not resolve. There is one equation for each, and `Booked.clients` goes through them. -/

/-- A cached client is handed out as it is. -/
theorem clients_hit {call : ClientCall} {c : ClusterConfig} {cc : ClusterClients}
    (hget : mgr.registry.get call.name = .ok c) (hcache : mgr.cache c.name = some cc) :
    mgr.clients sdk call = (.ok cc, mgr) := by
  simp only [ClusterManager.clients, ClusterManager.resolve, hget, hcache]

/-- A missing one is built and kept. -/
theorem clients_miss {call : ClientCall} {c : ClusterConfig} {api : ApiClient}
    (hget : mgr.registry.get call.name = .ok c) (hcache : mgr.cache c.name = none)
    (hbuild : (buildKubeConfig sdk mgr.eksTokens c call.now).1 = .ok api) :
    mgr.clients sdk call = (.ok ⟨c, api⟩,
      { mgr with
        cache := Function.update mgr.cache c.name (some ⟨c, api⟩)
        eksTokens := (buildKubeConfig sdk mgr.eksTokens c call.now).2 }) := by
  simp only [ClusterManager.clients, ClusterManager.resolve, hget, hcache]
  generalize buildKubeConfig sdk mgr.eksTokens c call.now = built at hbuild ⊢
  obtain ⟨result, tokens⟩ := built
  cases hbuild
  rfl

/-- A build that raises leaves the client cache alone. -/
theorem clients_fail {call : ClientCall} {c : ClusterConfig} {e : Exc}
    (hget : mgr.registry.get call.name = .ok c) (hcache : mgr.cache c.name = none)
    (hbuild : (buildKubeConfig sdk mgr.eksTokens c call.now).1 = .error e) :
    mgr.clients sdk call = (.error e,
      { mgr with eksTokens := (buildKubeConfig sdk mgr.eksTokens c call.now).2 }) := by
  simp only [ClusterManager.clients, ClusterManager.resolve, hget, hcache]
  generalize buildKubeConfig sdk mgr.eksTokens c call.now = built at hbuild ⊢
  obtain ⟨result, tokens⟩ := built
  cases hbuild
  rfl

/-- A name that does not resolve changes nothing. -/
theorem clients_unknown {call : ClientCall} {e : Exc}
    (hget : mgr.registry.get call.name = .error e) :
    mgr.clients sdk call = (.error e, mgr) := by
  simp only [ClusterManager.clients, ClusterManager.resolve, hget]

/-- Putting a freshly built client into the cache. -/
theorem Booked.install (h : Booked reg l mgr) {name : Option String} {c : ClusterConfig}
    (hget : reg.get name = .ok c) {api : ApiClient} {tokens : TokenCache} {l' : Ledger}
    (htok : TokensBooked l'.lease tokens) (hother : ∀ n, n ≠ c.name → l'.minted n = l.minted n)
    (hauth : c.auth.mode = .awsEks →
      ∃ tok, api.authorization = some tok ∧ l'.minted c.name = some tok.mintedAt) :
    Booked reg l' { mgr with
      cache := Function.update mgr.cache c.name (some ⟨c, api⟩)
      eksTokens := tokens } := by
  refine ⟨h.registry, htok, fun n hn => ?_, fun n cc hn => ?_⟩
  · -- a cluster that is still not cached is another one
    dsimp only at hn
    rcases eq_or_ne n c.name with rfl | hne
    · simp at hn
    · rw [Function.update_of_ne hne] at hn
      rw [hother n hne]
      exact h.uncached n hn
  · -- the new client for its own cluster, the old ones for theirs
    dsimp only at hn
    rcases eq_or_ne n c.name with rfl | hne
    · rw [Function.update_self] at hn
      obtain rfl := Option.some.inj hn
      exact ⟨⟨name, hget⟩, rfl, hauth⟩
    · rw [Function.update_of_ne hne] at hn
      rw [hother n hne]
      exact h.cached n cc hn

/-- First use of an EKS cluster: the token comes from the ledger's renewal. -/
theorem Booked.buildEks (h : Booked reg l mgr) {call : ClientCall} {c : ClusterConfig}
    (hget : reg.get call.name = .ok c) (hcache : mgr.cache c.name = none)
    (heks : c.auth.mode = .awsEks) :
    Booked reg (l.book sdk c call.now) (mgr.clients sdk call).2 := by
  have hget' : mgr.registry.get call.name = .ok c := by rw [h.registry]; exact hget
  have hbuild : buildKubeConfig sdk mgr.eksTokens c call.now =
      ((eksToken sdk mgr.eksTokens c call.now).1.map fun token =>
        { host := c.auth.server
          sslCaCert := "/etc/k8s-sre-agent/ca/" ++ c.name ++ ".crt"
          authorization := some token },
        (eksToken sdk mgr.eksTokens c call.now).2) := by
    simp only [buildKubeConfig, heks]
  have hrenew := eksToken_booked sdk h.tokens c call.now
  rw [Ledger.book, if_pos ⟨heks, h.uncached _ hcache⟩]
  split at hrenew  -- the ledger renews the lease exactly where a token comes out
  · next m hm =>
    obtain ⟨⟨tok, htok, rfl⟩, hbooked⟩ := hrenew
    rw [clients_miss hget' hcache (by rw [hbuild, htok]; rfl), hbuild]
    apply h.install hget hbooked
    · exact fun n hne => Function.update_of_ne hne ..
    · exact fun _ => ⟨tok, rfl, Function.update_self ..⟩
  · -- without a token no client is built, and nothing is stored
    next hm =>
    obtain ⟨⟨e, herr⟩, hsame⟩ := hrenew
    rw [clients_fail hget' hcache (by rw [hbuild, herr]; rfl), hbuild]
    dsimp only
    rw [hsame]
    exact h

/-- First use of any other cluster: the ledger has nothing to book. -/
theorem Booked.buildOther (h : Booked reg l mgr) {call : ClientCall} {c : ClusterConfig}
    (hget : reg.get call.name = .ok c) (hcache : mgr.cache c.name = none)
    (hmode : c.auth.mode ≠ .awsEks) :
    Booked reg (l.book sdk c call.now) (mgr.clients sdk call).2 := by
  have hget' : mgr.registry.get call.name = .ok c := by rw [h.registry]; exact hget
  -- the other modes do not touch the cache of tokens
  have htokens : (buildKubeConfig sdk mgr.eksTokens c call.now).2 = mgr.eksTokens := by
    unfold buildKubeConfig
    cases hm : c.auth.mode <;> first | rfl | exact absurd hm hmode
  rw [Ledger.book, if_neg (fun hc => hmode hc.1)]
  cases hbuild : (buildKubeConfig sdk mgr.eksTokens c call.now).1 with
  | ok api =>
      rw [clients_miss hget' hcache hbuild, htokens]
      exact h.install hget h.tokens (fun _ _ => rfl) (fun he => absurd he hmode)
  | error e =>
      rw [clients_fail hget' hcache hbuild, htokens]
      exact h

/-- **One call keeps the books**: the ledger renews a cached cluster exactly where the manager
builds a client for it. -/
theorem Booked.clients (h : Booked reg l mgr) (sdk : Sdk) (call : ClientCall) :
    Booked reg (bookCall sdk reg l call) (mgr.clients sdk call).2 := by
  cases hget : reg.get call.name with
  | error e =>
      rw [clients_unknown (by rw [h.registry]; exact hget)]
      simpa only [bookCall, hget] using h
  | ok c =>
      have hget' : mgr.registry.get call.name = .ok c := by rw [h.registry]; exact hget
      have hbook : bookCall sdk reg l call = l.book sdk c call.now := by simp only [bookCall, hget]
      rw [hbook]
      cases hcache : mgr.cache c.name with
      | some cc =>
          obtain ⟨⟨name, hname⟩, hcname, hauth⟩ := h.cached _ _ hcache
          obtain rfl := ClusterRegistry.get_unique hname hget hcname
          rw [clients_hit hget' hcache, Ledger.book, if_neg]
          · exact h
          · -- an EKS cluster in the cache has its token on the books already
            rintro ⟨heks, hnone⟩
            obtain ⟨tok, -, hm⟩ := hauth heks
            rw [hnone] at hm
            cases hm
      | none =>
          by_cases heks : c.auth.mode = .awsEks
          · exact h.buildEks hget hcache heks
          · exact h.buildOther hget hcache heks

/-- Whatever client a call answers is the one in the cache afterwards, and it is the client of the
cluster the call names. -/
theorem Booked.answer (h : Booked reg l mgr) {call : ClientCall} {c : ClusterConfig}
    {cc : ClusterClients} (hget : reg.get call.name = .ok c)
    (hans : (mgr.clients sdk call).1 = .ok cc) :
    cc.cluster = c ∧ (mgr.clients sdk call).2.cache c.name = some cc := by
  have hget' : mgr.registry.get call.name = .ok c := by rw [h.registry]; exact hget
  cases hcache : mgr.cache c.name with
  | some cc' =>  -- what is cached under this name is of this cluster
      obtain ⟨⟨name, hname⟩, hcname, -⟩ := h.cached _ _ hcache
      rw [clients_hit hget' hcache] at hans ⊢
      obtain rfl := Except.ok.inj hans
      exact ⟨ClusterRegistry.get_unique hname hget hcname, hcache⟩
  | none =>  -- what was just built is in the cache from now on
      cases hbuild : (buildKubeConfig sdk mgr.eksTokens c call.now).1 with
      | ok api =>
          rw [clients_miss hget' hcache hbuild] at hans ⊢
          obtain rfl := Except.ok.inj hans
          exact ⟨rfl, Function.update_self ..⟩
      | error e =>
          rw [clients_fail hget' hcache hbuild] at hans
          cases hans

/-- An EKS cluster that has its token on the books answers. -/
theorem Booked.answers (h : Booked reg l mgr) {call : ClientCall} {c : ClusterConfig} {m : ℚ}
    (hget : reg.get call.name = .ok c)
    (hm : (bookCall sdk reg l call).minted c.name = some m) :
    ∃ cc, (mgr.clients sdk call).1 = .ok cc := by
  -- by contradiction: a call that failed has left the cluster without a client, so without a
  -- token
  have hnext := h.clients sdk call
  have hget' : mgr.registry.get call.name = .ok c := by rw [h.registry]; exact hget
  cases hans : (mgr.clients sdk call).1 with
  | ok cc => exact ⟨cc, rfl⟩
  | error e =>
      have hcache : (mgr.clients sdk call).2.cache c.name = none := by
        cases hcache : mgr.cache c.name with
        | some cc =>
            rw [clients_hit hget' hcache] at hans
            cases hans
        | none =>
            cases hbuild : (buildKubeConfig sdk mgr.eksTokens c call.now).1 with
            | ok api =>
                rw [clients_miss hget' hcache hbuild] at hans
                cases hans
            | error e' =>
                rw [clients_fail hget' hcache hbuild]
                exact hcache
      rw [hnext.uncached _ hcache] at hm
      cases hm

/-- **Every run keeps the books**, by induction on its calls: after any of them the ledger says of
each client in the cache when its token was minted. -/
theorem booked_run (sdk : Sdk) (reg : ClusterRegistry) (calls : List ClientCall) :
    Booked reg (ledger sdk reg calls) ((clientFactory sdk).final { registry := reg } calls) := by
  induction calls using List.reverseRecOn with
  | nil => exact ⟨rfl, fun _ => rfl, fun _ _ => rfl, fun _ _ h => by cases h⟩
  | append_singleton calls call ih =>
      rw [ledger_concat, Machine.final_append]
      exact ih.clients sdk call

/-! ## Freshness

An answer is fresh if its token is at most fifteen minutes old when it is handed out, the time for
which EKS accepts it. Over a run this is a condition on the times of the calls alone, measured
against the ledger; the manager's state does not occur in it. -/

/-- An EKS client answered at `now` carries a token minted at most fifteen minutes before. -/
def FreshAnswer (now : ℚ) (answer : Except Exc ClusterClients) : Prop :=
  ∀ cc, answer = .ok cc → cc.cluster.auth.mode = .awsEks →
    ∃ tok, cc.apiClient.authorization = some tok ∧ now ≤ tok.mintedAt + 15 * 60

/-- Every client a run hands out is fresh: the bearer token inside it has not expired when the call
returns it, whichever call of the run it was built for. -/
def CredentialsFresh (sdk : Sdk) (reg : ClusterRegistry) (calls : List ClientCall) : Prop :=
  ∀ e ∈ (clientFactory sdk).trace { registry := reg } calls, FreshAnswer e.1.now e.2

/-- A call for an EKS cluster comes within fifteen minutes of the minting of the token that the
cluster got at its first successful call. -/
def InTime (l : Ledger) (reg : ClusterRegistry) (call : ClientCall) : Prop :=
  ∀ c m, reg.get call.name = .ok c → c.auth.mode = .awsEks → l.minted c.name = some m →
    call.now ≤ m + 15 * 60

/-- Every call of a run comes in time: before the end of the token that was minted when its cluster
was first called. -/
def AllInTime (sdk : Sdk) (reg : ClusterRegistry) (calls : List ClientCall) : Prop :=
  ∀ past call, past ++ [call] <+: calls → InTime (ledger sdk reg (past ++ [call])) reg call

/-- **One call**: its answer is fresh iff the ledger says so. -/
theorem Booked.fresh_iff (h : Booked reg l mgr) (sdk : Sdk) (call : ClientCall) :
    FreshAnswer call.now (mgr.clients sdk call).1 ↔ InTime (bookCall sdk reg l call) reg call := by
  have hnext := h.clients sdk call
  constructor
  · -- the token in the answer is the one the ledger has dated
    intro hfresh c m hget heks hm
    obtain ⟨cc, hans⟩ := h.answers hget hm
    obtain ⟨rfl, hcache⟩ := h.answer hget hans
    obtain ⟨-, -, hauth⟩ := hnext.cached _ _ hcache
    obtain ⟨tok, htok, hminted⟩ := hauth heks
    obtain ⟨tok', htok', hage⟩ := hfresh cc hans heks
    obtain rfl := Option.some.inj (htok.symm.trans htok')
    obtain rfl := Option.some.inj (hminted.symm.trans hm)
    exact hage
  · -- and the date in the ledger is that of the token in the answer
    intro htime cc hans heks
    cases hget : reg.get call.name with
    | error e =>
        rw [clients_unknown (by rw [h.registry]; exact hget)] at hans
        cases hans
    | ok c =>
        obtain ⟨rfl, hcache⟩ := h.answer hget hans
        obtain ⟨-, -, hauth⟩ := hnext.cached _ _ hcache
        obtain ⟨tok, htok, hminted⟩ := hauth heks
        exact ⟨tok, htok, htime _ _ hget heks hminted⟩

/-- The calls of a longer run are in time if those before were and the last one is. -/
theorem allInTime_concat (calls : List ClientCall) (call : ClientCall) :
    AllInTime sdk reg (calls ++ [call]) ↔
      AllInTime sdk reg calls ∧ InTime (ledger sdk reg (calls ++ [call])) reg call := by
  constructor
  · intro h
    exact ⟨fun past c hp => h past c (hp.trans (List.prefix_append ..)),
      h calls call (List.prefix_refl _)⟩
  · rintro ⟨hold, hnew⟩ past c hp
    rcases List.prefix_concat_iff.mp hp with heq | hp
    · obtain ⟨rfl, hc⟩ := List.append_inj' heq rfl
      obtain rfl := (List.cons.inj hc).1
      exact hnew
    · exact hold past c hp

/-! ## What the ledger says when nothing is shared

An EKS name that only one registered cluster uses has its token minted at that cluster's first
successful call, and that is what the ledger keeps for good. -/

/-- Once a cluster has a token on the books, no later call changes it. -/
theorem minted_stable {n : String} {m : ℚ} (call : ClientCall) (h : l.minted n = some m) :
    (bookCall sdk reg l call).minted n = some m := by
  unfold bookCall
  split
  · next c hget =>
    unfold Ledger.book
    split
    · next hc =>
      have hne : n ≠ c.name := by  -- a cluster that is already dated is not booked again
        rintro rfl
        rw [hc.2] at h
        cases h
      split
      · exact (Function.update_of_ne hne ..).trans h
      · exact h
    · exact h
  · exact h

/-- Before its first call such a cluster has neither a lease nor a token. -/
theorem ledger_before_first (sdk : Sdk) {c : ClusterConfig} {name : Option String}
    (hget : reg.get name = .ok c)
    (hown : ∀ n c', reg.get n = .ok c' → c'.auth.clusterName = c.auth.clusterName → c' = c)
    (past : List ClientCall) (hpast : ∀ k ∈ past, reg.get k.name ≠ .ok c) :
    (ledger sdk reg past).lease c.auth.clusterName = none ∧
      (ledger sdk reg past).minted c.name = none := by
  induction past using List.reverseRecOn with  -- induction on the past, its last call at the end
  | nil => exact ⟨rfl, rfl⟩
  | append_singleton past k ih =>
      have hold := ih fun j hj => hpast j (List.mem_append_left _ hj)
      have hk : reg.get k.name ≠ .ok c := hpast k (by simp)
      rw [ledger_concat, bookCall]
      split
      · next c' hget' =>
        -- the last call is for another cluster, and so is what it renews
        have hname : c.name ≠ c'.name := fun he =>
          hk (ClusterRegistry.get_unique hget hget' he ▸ hget')
        have hcluster : c.auth.clusterName ≠ c'.auth.clusterName := fun he =>
          hk (hown _ _ hget' he.symm ▸ hget')
        unfold Ledger.book
        split
        · split
          · exact ⟨(Function.update_of_ne hcluster ..).trans hold.1,
              (Function.update_of_ne hname ..).trans hold.2⟩
          · exact hold
        · exact hold
      · exact hold

/-- **With a name of its own** a cluster is given a token at its first call, if one can be minted
then, and keeps that one: the ledger's entry is the time of this call. -/
theorem minted_at_first_call {c : ClusterConfig} (call : ClientCall)
    (hget : reg.get call.name = .ok c) (heks : c.auth.mode = .awsEks)
    (hown : ∀ n c', reg.get n = .ok c' → c'.auth.clusterName = c.auth.clusterName → c' = c)
    (past rest : List ClientCall) (hpast : ∀ k ∈ past, reg.get k.name ≠ .ok c)
    (hmint : sdk.canMint c.auth.clusterName call.now = true) :
    (ledger sdk reg (past ++ call :: rest)).minted c.name = some call.now := by
  -- the first call dates the client; by `minted_stable` no later one changes that
  induction rest using List.reverseRecOn with
  | nil =>
      obtain ⟨hlease, hminted⟩ := ledger_before_first sdk hget hown past hpast
      rw [ledger_concat, bookCall, hget]
      simp [Ledger.book, heks, hminted, hlease, renew, hmint]
  | append_singleton rest k ih =>
      rw [show past ++ call :: (rest ++ [k]) = (past ++ call :: rest) ++ [k] by simp,
        ledger_concat]
      exact minted_stable k ih

/-- **Exactly when credentials stay fresh.** Whatever the clusters and the times of the calls, the
credentials a run hands out are all fresh iff every call for an EKS cluster comes at most fifteen
minutes after the minting of the token its first successful call got: no later call renews it. -/
theorem credentialsFresh_iff (sdk : Sdk) (reg : ClusterRegistry) (calls : List ClientCall) :
    CredentialsFresh sdk reg calls ↔ AllInTime sdk reg calls := by
  induction calls using List.reverseRecOn with
  | nil =>
      refine ⟨fun _ past call hp => ?_, fun _ e he => absurd he (by simp)⟩
      exact absurd (List.prefix_nil.mp hp) (by simp)
  | append_singleton calls call ih =>
      rw [allInTime_concat, ← ih, ledger_concat,
        ← (booked_run sdk reg calls).fresh_iff sdk call]
      simp only [CredentialsFresh, Machine.trace_append, List.forall_mem_append]
      simp [clientFactory]

/-- A registry with one EKS cluster. -/
def eksRegistry : ClusterRegistry where
  clusters := [{ name := "eks-prod", auth := { mode := .awsEks, clusterName := "prod" } }]

def demoSdk : Sdk where
  presignedUrl name _ := .ok ("https://sts.eu-west-1.amazonaws.com/?x-k8s-aws-id=" ++ name)
  workloadIdentityToken auth _ := .ok auth.clientId
  incluster := .ok {}
  kubeconfig _ _ := .ok {}

/-- Seventeen minutes after the first call the client still carries its first token. -/
theorem stale_after_quarter_hour :
    ¬ CredentialsFresh demoSdk eksRegistry
      [⟨some "eks-prod", 0⟩, ⟨some "eks-prod", 1000⟩] := by
  intro h
  -- the second answer of the run, and the token in it
  have hlast := h (⟨some "eks-prod", 1000⟩, _) (by
    simp only [Machine.trace_cons, Machine.trace_nil]
    exact List.mem_cons_of_mem _ (List.mem_singleton.mpr rfl))
  obtain ⟨tok, htok, hage⟩ := hlast _ rfl rfl
  obtain rfl := Option.some.inj htok
  exact absurd hage (by norm_num)

end SreAgent
