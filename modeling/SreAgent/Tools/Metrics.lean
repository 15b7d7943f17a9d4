import SreAgent.Tools.Gitops
import SreAgent.Tools.Upstream

/-!
# Metrics

`tools/metrics.py`: the four wrappers that take a namespace. Each puts a PromQL text together and
sends it to the Prometheus of the cluster. What the text is read as depends on the strings put into it:
one selector of the namespace as long as each is the inside of a string literal (`scoped_promql`), and
not otherwise unless one of them ends its literal (`inLiterals_of_scoped`).

A query text is put together by concatenation: a template, the namespace in quotes and, where there
is one, the pod in quotes. The server of Prometheus takes it apart again. What the two do to a
string between quotes is the matter of this module, and `SreAgent.Lib.PromQL` has the lexer and the
grammar it needs.
-/

namespace SreAgent.Tools

open Interaction (Prog)
open PromQL (Token Matcher Body ClosesEarly)
open Py (Json)

/-! ## Durations

A range is a number and a unit, and without a unit it is in minutes. What is no number raises. So
does a number of more digits than Python converts. -/

/-- `_UNITS`. -/
def unitSeconds : Char → Option ℤ
  | 's' => some 1
  | 'm' => some 60
  | 'h' => some 3600
  | 'd' => some 86400
  | _   => none

/-- `int(s)`. -/
def toInt (s : List Char) : Except Exc ℤ := (Py.toInt s).elim (.error .valueError) .ok

/-- `str(n)`. -/
def showInt (n : ℤ) : Except Exc String := (Py.ofInt n).elim (.error .valueError) .ok

/-- `parse_duration`: minutes unless a unit is given. -/
def parseDuration (rng : String) : Except Exc ℤ := do
  let rng := Py.strip rng.toList
  match rng.getLast? with
  | none   => throw (.other "IndexError")
  | some c =>
    match unitSeconds c with
    | some unit => return (← toInt rng.dropLast) * unit
    | none      => return (← toInt rng) * 60

/-! ## Queries

An empty range asks for the current value, another one for a series, whose step follows from its
length. -/

/-- What a tool runs with: the settings, the registry and the clock. -/
structure Site where
  settings   : Settings := {}
  registry   : ClusterRegistry
  ragEnabled : Bool := false
  now        : Kube.Timestamp

/-- `int(time.time())`. -/
def Site.time (self : Site) : ℤ :=
  (self.now.value.instant - (Py.DateTime.mk 1970 1 1 0 0 0 0 none).instant) / 1000000

def prom (settings : Settings) (cfg : ClusterConfig) : String :=
  if cfg.backends.prometheus = "" then settings.prometheusUrl else cfg.backends.prometheus

/-- The times of a range query. -/
def rangeParams (time : ℤ) (rng : String) : Except Exc (List (String × String)) := do
  let seconds ← parseDuration rng
  let start ← showInt (time - seconds)
  let step ← showInt (max 15 (seconds / 200))
  return [("start", start), ("end", toString time), ("step", step ++ "s")]

/-- What `_query` sends: a range query if there is a range. -/
def queryRequest (time : ℤ) (base promql rng : String) : Except Exc GetRequest :=
  if rng = "" then .ok { url := base ++ "/api/v1/query", params := [("query", promql)] }
  else do
    let times ← rangeParams time rng
    return { url := base ++ "/api/v1/query_range", params := ("query", promql) :: times }

structure QueryResult where
  query  : String
  result : Json

def query (site : Site) (cluster : Option String) (promql rng : String) : Run QueryResult := do
  let cfg ← Prog.lift (site.registry.get cluster)
  let base := String.ofList (Py.rstrip '/' (prom site.settings cfg).toList)
  let request ← Prog.lift (queryRequest site.time base promql rng)
  let data ← getJson request
  let data ← Prog.lift (getKey data "data" (.obj []))
  let result ← Prog.lift (getKey data "result" (.arr []))
  return ⟨promql, result⟩

/-! ## The wrappers

All four are one definition. What differs is the text around the matchers. -/

/-- The text around the matchers of a query. -/
structure Template where
  opening : String
  closing : String

def sel (ns pod : String) : String :=
  "namespace=\"" ++ ns ++ "\"" ++ (if pod = "" then "" else ",pod=\"" ++ pod ++ "\"")

def Template.promql (t : Template) (ns pod : String) : String := t.opening ++ sel ns pod ++ t.closing

/-- A wrapper: guard, then query. -/
def metric (t : Template) (site : Site) (ns pod : String) (cluster : Option String) (rng : String) :
    Run QueryResult := do
  let _ ← guardNamespace site.registry cluster ns
  query site cluster (t.promql ns pod) rng

def cpuTemplate : Template :=
  ⟨"sum by (pod) (rate(container_cpu_usage_seconds_total\x7b", "\x7d[5m]))"⟩

def metricCpu := metric cpuTemplate

def memoryTemplate : Template :=
  ⟨"sum by (pod) (container_memory_working_set_bytes\x7b", "\x7d)"⟩

def metricMemory := metric memoryTemplate

def networkTemplate : Template :=
  ⟨"sum by (pod) (rate(container_network_receive_bytes_total\x7b", "\x7d[5m]))"⟩

def metricNetwork := metric networkTemplate

def restartsTemplate : Template :=
  ⟨"sum by (pod) (increase(kube_pod_container_status_restarts_total\x7b", "\x7d[15m]))"⟩

/-- `metric_restarts`, which is not given a pod. -/
def metricRestarts (site : Site) (ns : String) (cluster : Option String) (rng : String) :
    Run QueryResult := metric restartsTemplate site ns "" cluster rng

/-! ## What is sent

The tool either refuses the range or sends one request, and the only query in it is the text that
was put together. So nothing but that text decides what is read. -/

/-- A range that `_query` refuses. -/
def Malformed (time : ℤ) (rng : String) : Prop := rng ≠ "" ∧ ∃ e, rangeParams time rng = .error e

/-- A range query is refused for its range. -/
theorem malformed_of_error {time : ℤ} {base promql rng : String} {e : Exc}
    (h : queryRequest time base promql rng = .error e) : Malformed time rng := by
  unfold queryRequest at h
  split at h
  · cases h
  · next hrng =>
    -- building the request fails only where the range does not parse
    cases htimes : rangeParams time rng with
    | error e' => exact ⟨hrng, e', htimes⟩
    | ok times =>
        rw [htimes] at h
        cases h

/-- The query is in the request, and no other text is there as a query. -/
theorem queryRequest_params {time : ℤ} {base promql rng : String} {request : GetRequest}
    (h : queryRequest time base promql rng = .ok request) :
    ("query", promql) ∈ request.params ∧
      ∀ promql', ("query", promql') ∈ request.params → promql' = promql := by
  unfold queryRequest at h
  split at h
  · rw [← Except.ok.inj h]
    simp
  · -- the parameters of a range are its start, its end and its step
    obtain ⟨times, htimes, h⟩ := bind_ok h
    unfold rangeParams at htimes
    obtain ⟨seconds, -, htimes⟩ := bind_ok htimes
    obtain ⟨start, -, htimes⟩ := bind_ok htimes
    obtain ⟨step, -, htimes⟩ := bind_ok htimes
    rw [← Except.ok.inj h, ← Except.ok.inj htimes]
    simp

/-! ## What the texts are read as

The lexer is run on the parts that are known, once for each template, and these runs are evaluated.
On the parts that are arguments it is followed by lemmas: a string that is the inside of a literal
is read as one token, and the lexer goes on behind it as if the string were not there. -/

/-- How Prometheus reads a template: the tokens before and after the value of `namespace`, and the
matchers of the only selector, without and with a pod. -/
structure Template.Lexed (t : Template) where
  before    : List Token
  after     : List Token
  opens     : PromQL.scan ([], .between) (t.opening ++ "namespace=\"").toList =
    some (before, .literal '"' [])
  closes    : PromQL.scan ([], .between) t.closing.toList = some (after, .between)
  unquoted  : '"' ∉ t.closing.toList
  namespace_ : ∀ ns, ∃ e, PromQL.parseTokens (before ++ .str ns :: after) = some e ∧
    e.selectors = [[⟨"namespace", .eq, ns⟩]]
  both      : ∀ ns pod, ∃ e, PromQL.parseTokens (before ++ .str ns :: .op "," :: .word "pod" ::
      .op "=" :: .str pod :: after) = some e ∧
    e.selectors = [[⟨"namespace", .eq, ns⟩, ⟨"pod", .eq, pod⟩]]

/-- `sum by (pod) (`. -/
def sumByPod : List Token := [.word "sum", .word "by", .op "(", .word "pod", .op ")", .op "("]

/-- A metric and its matchers up to the value of `namespace`. -/
def openMatchers (metric : String) : List Token :=
  [.word metric, .op "\x7b", .word "namespace", .op "="]

def cpuLexed : cpuTemplate.Lexed where
  before := sumByPod ++ .word "rate" :: .op "(" :: openMatchers "container_cpu_usage_seconds_total"
  after := [.op "\x7d", .op "[", .number "5m", .op "]", .op ")", .op ")"]
  opens := by decide +kernel
  closes := by decide +kernel
  unquoted := by decide +kernel
  namespace_ ns := ⟨_, rfl, rfl⟩
  both ns pod := ⟨_, rfl, rfl⟩

def memoryLexed : memoryTemplate.Lexed where
  before := sumByPod ++ openMatchers "container_memory_working_set_bytes"
  after := [.op "\x7d", .op ")"]
  opens := by decide +kernel
  closes := by decide +kernel
  unquoted := by decide +kernel
  namespace_ ns := ⟨_, rfl, rfl⟩
  both ns pod := ⟨_, rfl, rfl⟩

def networkLexed : networkTemplate.Lexed where
  before :=
    sumByPod ++ .word "rate" :: .op "(" :: openMatchers "container_network_receive_bytes_total"
  after := [.op "\x7d", .op "[", .number "5m", .op "]", .op ")", .op ")"]
  opens := by decide +kernel
  closes := by decide +kernel
  unquoted := by decide +kernel
  namespace_ ns := ⟨_, rfl, rfl⟩
  both ns pod := ⟨_, rfl, rfl⟩

def restartsLexed : restartsTemplate.Lexed where
  before := sumByPod ++
    .word "increase" :: .op "(" :: openMatchers "kube_pod_container_status_restarts_total"
  after := [.op "\x7d", .op "[", .number "15m", .op "]", .op ")", .op ")"]
  opens := by decide +kernel
  closes := by decide +kernel
  unquoted := by decide +kernel
  namespace_ ns := ⟨_, rfl, rfl⟩
  both ns pod := ⟨_, rfl, rfl⟩

section

variable {t : Template} {ns pod : String} {value podValue : List Char}

/-- Without a pod: the tokens before, the namespace, the tokens after. -/
theorem lex_promql (lexed : t.Lexed) (hns : Body ns.toList value) :
    PromQL.lex (t.promql ns "") =
      some (lexed.before ++ .str (String.ofList value) :: lexed.after) := by
  -- the template up to the literal, the namespace in it, and the rest
  have htext : (t.promql ns "").toList =
      (t.opening ++ "namespace=\"").toList ++ (ns.toList ++ '"' :: t.closing.toList) := by
    simp [Template.promql, sel]
  unfold PromQL.lex
  rw [htext, PromQL.scan_literal lexed.opens hns lexed.closes]
  simp [PromQL.after, PromQL.finish]

/-- The text of a query with a pod, split where the literals end. -/
theorem promql_pod (hpod : pod ≠ "") :
    (t.promql ns pod).toList = ((t.opening ++ "namespace=\"").toList ++
      (ns.toList ++ '"' :: ",pod=\"".toList)) ++ (pod.toList ++ '"' :: t.closing.toList) := by
  simp [Template.promql, sel, hpod]

/-- Up to the value of `pod`. -/
theorem scan_pod (lexed : t.Lexed) (hns : Body ns.toList value) :
    PromQL.scan ([], .between)
        ((t.opening ++ "namespace=\"").toList ++ (ns.toList ++ '"' :: ",pod=\"".toList)) =
      some (lexed.before ++ [.str (String.ofList value), .op ",", .word "pod", .op "="],
        .literal '"' []) := by
  have hlink : PromQL.scan ([], .between) ",pod=\"".toList =
      some ([.op ",", .word "pod", .op "="], .literal '"' []) := by decide +kernel
  rw [PromQL.scan_literal lexed.opens hns hlink]
  simp [PromQL.after]

/-- With a pod: both strings, each as one token. -/
theorem lex_promql_pod (lexed : t.Lexed) (hns : Body ns.toList value) (hpod : pod ≠ "")
    (hbody : Body pod.toList podValue) :
    PromQL.lex (t.promql ns pod) = some (lexed.before ++ .str (String.ofList value) :: .op "," ::
      .word "pod" :: .op "=" :: .str (String.ofList podValue) :: lexed.after) := by
  unfold PromQL.lex
  rw [promql_pod hpod, PromQL.scan_literal (scan_pod lexed hns) hbody lexed.closes]
  simp [PromQL.after, PromQL.finish]

/-- Both strings are the inside of a string literal, the namespace of one that stands for itself. -/
def InLiterals (ns pod : String) : Prop :=
  Body ns.toList ns.toList ∧ (pod = "" ∨ ∃ value, Body pod.toList value)

/-- The namespace is the inside of no literal, or the pod ends the one it is written into. -/
def Escapes (ns pod : String) : Prop :=
  (∀ value, ¬ Body ns.toList value) ∨ ClosesEarly pod.toList

/-- **Inside of their literals** the strings give one selector, of the namespace. -/
theorem scoped_promql (lexed : t.Lexed) (h : InLiterals ns pod) : Scoped ns (t.promql ns pod) := by
  obtain ⟨hns, hpod⟩ := h
  -- without a pod the template has no second matcher
  by_cases hempty : pod = ""
  · subst hempty
    obtain ⟨e, hparse, hselectors⟩ := lexed.namespace_ ns
    refine ⟨e, ?_, ?_⟩
    · rw [PromQL.parse, lex_promql lexed hns, String.ofList_toList]
      exact hparse
    · rw [hselectors]
      simp
  · obtain ⟨podValue, hbody⟩ := hpod.resolve_left hempty
    obtain ⟨e, hparse, hselectors⟩ := lexed.both ns (String.ofList podValue)
    refine ⟨e, ?_, ?_⟩
    · rw [PromQL.parse, lex_promql_pod lexed hns hempty hbody, String.ofList_toList]
      exact hparse
    · rw [hselectors]
      simp

/-- A literal stands for itself if its selector asks for the text written into it. -/
theorem body_of_matcher (hns : Body ns.toList value)
    (h : (⟨"namespace", .eq, ns⟩ : Matcher) = ⟨"namespace", .eq, String.ofList value⟩) :
    Body ns.toList ns.toList := by
  have hvalue : ns = String.ofList value := congrArg Matcher.value h
  rw [hvalue, String.toList_ofList] at hns ⊢
  exact hns

/-- Where a text is about the namespace, the strings are inside of their literals, or one of them
escaped from its own. -/
theorem inLiterals_of_scoped (lexed : t.Lexed) (h : Scoped ns (t.promql ns pod)) :
    InLiterals ns pod ∨ Escapes ns pod := by
  obtain ⟨e, hparse, hselectors⟩ := h
  by_cases hns : ∀ value, ¬ Body ns.toList value
  · exact .inr (.inl hns)
  by_cases hcloses : ClosesEarly pod.toList
  · exact .inr (.inr hcloses)
  left
  simp only [not_forall, not_not] at hns
  obtain ⟨value, hns⟩ := hns
  by_cases hempty : pod = ""
  · subst hempty
    obtain ⟨e', hparse', hselectors'⟩ := lexed.namespace_ (String.ofList value)
    rw [PromQL.parse, lex_promql lexed hns] at hparse
    obtain rfl : e' = e := Option.some.inj (hparse'.symm.trans hparse)
    rw [hselectors'] at hselectors
    exact ⟨body_of_matcher hns (by simpa using hselectors), .inl rfl⟩
  by_cases hbody : ∃ podValue, Body pod.toList podValue
  · obtain ⟨podValue, hbody⟩ := hbody
    obtain ⟨e', hparse', hselectors'⟩ := lexed.both (String.ofList value) (String.ofList podValue)
    rw [PromQL.parse, lex_promql_pod lexed hns hempty hbody] at hparse
    obtain rfl : e' = e := Option.some.inj (hparse'.symm.trans hparse)
    rw [hselectors'] at hselectors
    exact ⟨body_of_matcher hns (by simpa using hselectors), .inr ⟨podValue, hbody⟩⟩
  · -- the pod leaves its literal open, so that there is no query
    have hbroken := PromQL.lex_broken (not_exists.mp hbody) hcloses
      (lexed.before ++ [.str (String.ofList value), .op ",", .word "pod", .op "="]) lexed.unquoted
    have hlex : PromQL.lex (t.promql ns pod) = none := by
      unfold PromQL.lex
      rw [promql_pod hempty, PromQL.scan_append, scan_pod lexed hns]
      exact hbroken
    rw [PromQL.parse, hlex] at hparse
    cases hparse

end

end SreAgent.Tools
