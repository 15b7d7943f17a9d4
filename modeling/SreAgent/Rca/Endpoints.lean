import SreAgent.Rca.Absence

/-!
# The Service a log seems to name

`crashloop_db_connection` takes the first host that the logs offer, cuts it at its first dot, and
reports the Service of that name as missing unless the namespace has it. Whether the host is a name
in the namespace at all is not asked: an IPv4 address, the hour of a clock time and a name in another
domain are taken for Services alike. `noMissing_iff` says when nothing is reported.

The two regular expressions have no notion of what a host is. The statement therefore speaks of what
a text offers to them (`OffersHost`): a relation between texts and hosts, independent of how the
search is carried out.
-/

namespace SreAgent.Rca

/-! ## The first host

`re.search` returns the leftmost match. With a function in place of an expression the leftmost place
where it finds something is unique, and the two descriptions agree. -/

/-- `p` finds `x` at the leftmost place of `cs` where it finds anything. -/
def FindsFirst {α : Type} (p : List Char → Option α) (cs : List Char) (x : α) : Prop :=
  ∃ before behind, cs = before ++ behind ∧ p behind = some x ∧
    ∀ before' behind', cs = before' ++ behind' → before'.length < before.length → p behind' = none

/-- Nothing is found if there is nothing at any place. -/
theorem search_eq_none_iff {α : Type} {p : List Char → Option α} {cs : List Char} :
    search p cs = none ↔ ∀ before behind, cs = before ++ behind → p behind = none := by
  induction cs with
  | nil =>
      rw [search]
      constructor
      · intro h before behind heq
        obtain ⟨rfl, rfl⟩ := List.append_eq_nil_iff.mp heq.symm
        exact h
      · intro h
        exact h [] [] rfl
  | cons c cs ih =>  -- a match begins here or behind the first character
      rw [search, Option.or_eq_none_iff, ih]
      constructor
      · rintro ⟨hhere, hlater⟩ before behind heq
        cases before with
        | nil =>
            obtain rfl : c :: cs = behind := heq
            exact hhere
        | cons d before => exact hlater before behind (List.cons.inj heq).2
      · intro h
        exact ⟨h [] (c :: cs) rfl, fun before behind heq => h (c :: before) behind (by rw [heq]; rfl)⟩

/-- In the empty text there is one place. -/
theorem findsFirst_nil {α : Type} {p : List Char → Option α} {x : α} :
    FindsFirst p [] x ↔ p [] = some x := by
  constructor
  · rintro ⟨before, behind, heq, h, -⟩
    obtain ⟨rfl, rfl⟩ := List.append_eq_nil_iff.mp heq.symm
    exact h
  · intro h
    exact ⟨[], [], rfl, h, fun before' _ _ hlen => absurd hlen (Nat.not_lt_zero _)⟩

/-- The first place is the front, or it is behind it and the front is none. -/
theorem findsFirst_cons {α : Type} {p : List Char → Option α} {c : Char} {cs : List Char} {x : α} :
    FindsFirst p (c :: cs) x ↔
      p (c :: cs) = some x ∨ p (c :: cs) = none ∧ FindsFirst p cs x := by
  constructor
  · rintro ⟨before, behind, heq, h, hfirst⟩
    cases before with  -- a first match is here, or nothing matches here and it is the first behind
    | nil =>
        obtain rfl : c :: cs = behind := heq
        exact .inl h
    | cons d before =>
        obtain ⟨rfl, rfl⟩ := List.cons.inj heq
        refine .inr ⟨hfirst [] _ rfl (Nat.zero_lt_succ _), before, behind, rfl, h, ?_⟩
        intro before' behind' heq' hlen
        exact hfirst (c :: before') behind' (by rw [heq']; rfl) (Nat.succ_lt_succ hlen)
  · rintro (hhere | ⟨hnone, before, behind, rfl, h, hfirst⟩)
    · exact ⟨[], c :: cs, rfl, hhere, fun before' _ _ hlen => absurd hlen (Nat.not_lt_zero _)⟩
    · refine ⟨c :: before, behind, rfl, h, fun before' behind' heq hlen => ?_⟩
      cases before' with
      | nil =>
          obtain rfl : c :: (before ++ behind) = behind' := heq
          exact hnone
      | cons d before' =>
          exact hfirst before' behind' (List.cons.inj heq).2 (Nat.lt_of_succ_lt_succ hlen)

/-- **`re.search`** finds the leftmost match: the pattern matches there, and at no place before. -/
theorem search_eq_some_iff {α : Type} {p : List Char → Option α} {cs : List Char} {x : α} :
    search p cs = some x ↔ FindsFirst p cs x := by
  induction cs with
  | nil => rw [search, findsFirst_nil]
  | cons c cs ih =>
      rw [search, findsFirst_cons, ← ih]
      cases hhere : p (c :: cs) with
      | some y => simp
      | none => simp

/-- **The host the text offers**: the first one set by `host=` or `host:`, and if there is none, the
first name in front of a colon and two digits. -/
def OffersHost (text host : List Char) : Prop :=
  FindsFirst hostAssignment text host ∨
    (∀ before behind, text = before ++ behind → hostAssignment behind = none) ∧
      FindsFirst hostWithPort text host

/-- What stands before the first dot of a host. -/
def firstLabel (host : List Char) : List Char := host.takeWhile (· != '.')

/-- Dots at the end are behind the first label. -/
theorem firstLabel_rstrip (host : List Char) : firstLabel (Py.rstrip '.' host) = firstLabel host := by
  induction host using List.reverseRecOn with
  | nil => rfl
  | append_singleton host c ih =>
      rw [Py.rstrip_concat]
      split
      · next hc =>
        rw [ih, hc, firstLabel, firstLabel, List.takeWhile_append]
        split
        · next hfull =>
          have hnone : List.takeWhile (· != '.') ['.'] = [] := rfl
          rw [hnone, List.append_nil, (List.takeWhile_prefix _).eq_of_length hfull]
        · rfl
      · rfl

/-- The host the crash loop looks for is the one offered. -/
theorem hostShort_offered {logs : String} {host : List Char} (h : OffersHost logs.toList host) :
    hostShort logs = firstLabel host := by
  rw [hostShort, parseDbHost]
  rcases h with hset | ⟨hnone, hport⟩
  · rw [search_eq_some_iff.mpr hset]
    exact firstLabel_rstrip host
  · rw [search_eq_none_iff.mpr hnone, search_eq_some_iff.mpr hport]
    exact firstLabel_rstrip host

/-- Where a name is looked for, a host was offered. -/
theorem offersHost_of_hostShort {logs : String} (h : hostShort logs ≠ []) :
    ∃ host, OffersHost logs.toList host := by
  rw [hostShort, parseDbHost] at h
  cases hset : search hostAssignment logs.toList with
  | some host => exact ⟨host, .inl (search_eq_some_iff.mp hset)⟩
  | none =>
      cases hport : search hostWithPort logs.toList with
      | some host =>
          exact ⟨host, .inr ⟨search_eq_none_iff.mp hset, search_eq_some_iff.mp hport⟩⟩
      | none =>
          rw [hset, hport] at h
          exact absurd rfl h

/-! ## What is reported

From the branch of the crash loop to the whole evaluation: no other detector reports this issue, so
the condition of the branch is the condition of the report. -/

/-- A crash loop whose logs show an unreachable database, and neither a DNS nor an authentication
error. -/
def DatabaseUnreachable (ctx : Context) : Prop :=
  isCrashlooping ctx = true ∧ Py.containsAny (allLogs ctx) dnsSpecific = false ∧
    Py.containsAny (allLogs ctx) dbAuth = false ∧ Py.containsAny (allLogs ctx) dbReach = true

/-- **Exactly when no dependency is reported missing.** For every context: unless the logs show an
unreachable database, the services are known and a host is offered, and no Service has the name that
stands before the first dot of that host. -/
theorem noMissing_iff (ctx : Context) :
    (∀ h ∈ evaluate ctx, h.issue ≠ missingDependency) ↔
      ∀ names host, DatabaseUnreachable ctx → ctx.services = some names →
        OffersHost (allLogs ctx).toList host →
          firstLabel host = [] ∨ String.ofList (firstLabel host) ∈ names := by
  have hmissing := missing_iff ctx
  constructor
  · intro hnone names host hdb hservices hhost
    by_contra hout
    obtain ⟨hlabel, hname⟩ := not_or.mp hout
    -- the host the detector reads is the first label of the one the logs offer
    have hshort := hostShort_offered hhost
    have hreported : NamesUnreachableHost ctx ∧ serviceMissing (allLogs ctx) ctx.services = true := by
      refine ⟨⟨hdb.1, hdb.2.1, hdb.2.2.1, hdb.2.2.2, hshort ▸ hlabel⟩, ?_⟩
      rw [serviceMissing, hshort, hservices]
      simp [hlabel, hname]
    obtain ⟨h, hh, hissue⟩ := hmissing.mpr hreported
    exact hnone h hh hissue
  · intro hall h hh hissue
    obtain ⟨⟨hloop, hdns, hauth, hreach, hne⟩, hserv⟩ := hmissing.mp ⟨h, hh, hissue⟩
    obtain ⟨host, hhost⟩ := offersHost_of_hostShort hne
    have hshort := hostShort_offered hhost
    cases hservices : ctx.services with
    | none =>
        rw [serviceMissing, hservices, Option.any_none, Bool.and_false] at hserv
        cases hserv
    | some names =>
        rcases hall names host ⟨hloop, hdns, hauth, hreach⟩ hservices hhost with hempty | hknown
        · exact hne (hshort.trans hempty)
        · rw [serviceMissing, hservices, hshort] at hserv
          simp [hknown] at hserv

/-- A pod that is refused by the address of its database. -/
def refusedByAddress : Context where
  namespace_ := "shop"
  pods := [{ name := "web-0", reason := some "CrashLoopBackOff" }]
  logs := ["dial tcp 10.0.0.5:5432: connect: connection refused"]
  services := some ["db"]

/-- The diagnosis misses a Service called `10`. -/
theorem address_taken_for_service :
    ∃ h ∈ evaluate refusedByAddress, h.issue = missingDependency := by
  have hhost : NamesUnreachableHost refusedByAddress := by
    unfold NamesUnreachableHost
    decide +kernel
  have hserv : serviceMissing (allLogs refusedByAddress) refusedByAddress.services = true := by
    decide +kernel
  exact (missing_iff refusedByAddress).mpr ⟨hhost, hserv⟩

end SreAgent.Rca
