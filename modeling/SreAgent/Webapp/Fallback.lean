import Mathlib.Data.Bool.AllAny
import SreAgent.Lib.Json
import SreAgent.Lib.Occurrence
import SreAgent.Resilience

/-!
# The chat without a key

`_fallback` of `webapp/chat.py` reads a diagnosis out of a message by phrases, and the Diagnose button
of `static/app.js` writes such messages. `called_iff` says which of them are read as they were meant.

There is no grammar: the code looks for words anywhere in the message, cuts at the first `diagnose`,
deletes `rca` wherever it occurs, and takes the first word that is left. A message that a person or
a button writes may have these words in its names.
-/

namespace SreAgent.Webapp.Fallback

open Py (Json)

/-! ## The source

Cuts, replacements and the case distinctions of `_fallback`, and what it answers. -/

/-- The arguments of `rca_diagnose`. -/
structure RcaCall where
  cluster    : Option String
  namespace_ : String
  subject    : String
  deriving DecidableEq, Repr

/-- What the fallback calls: `manager().list_clusters` and the `rca_diagnose` that `collect_tools` has
captured. -/
structure Offline where
  listClusters : Except Raised Json
  rcaDiagnose  : RcaCall → Except Raised (List (String × Json))

/-- The answer, and the calls of `rca_diagnose` that were made for it. -/
structure FallbackRun where
  reply  : Json
  trace  : List (String × List (String × Json)) := []
  llm    : Bool := false
  called : List RcaCall := []

/-- `f"Couldn't run that: {exc}"`. -/
def couldntRun (exc : String) : Json := .str ("Couldn't run that: " ++ exc)

/-- `json.dumps(v, indent=2)`. -/
def pretty (v : Json) : Json := .str (String.ofList (v.indented 0))

/-- `report.get("markdown") or json.dumps(report, indent=2, default=str)`. -/
def replyText (report : List (String × Json)) : Json :=
  match Py.member report "markdown" with
  | some v => if v.truthy then v else pretty (.obj report)
  | none   => pretty (.obj report)

/-- `message.split("diagnose", 1)[-1]`. -/
def request (message : List Char) : List Char :=
  match Py.cutAt "diagnose".toList message with
  | some (_, after) => after
  | none            => message

/-- `frag.partition("/")`, without the stroke. -/
def partitionStroke (frag : List Char) : List Char × List Char :=
  (Py.cutAt ['/'] frag).getD (frag, [])

/-- `message.split(" in ", 1)[1].strip() if " in " in message else None`. -/
def clusterOf (message : List Char) : Option (List Char) :=
  (Py.cutAt " in ".toList message).map fun (_, after) => Py.strip after

/-- What is read out of the message; `none` is the `IndexError` of an empty list. -/
def parse (message : String) : Option RcaCall :=
  match Py.split (Py.strip (Py.replaceText "rca".toList [] (request message.toList))) with
  | []        => none
  | frag :: _ =>
    let (ns, subject) := partitionStroke frag
    some ⟨(clusterOf message.toList).map String.ofList, String.ofList ns, String.ofList subject⟩

/-- `"cluster" in low and "list" in low`. -/
def wantsList (message : String) : Bool :=
  Py.contains (Py.lower message) "cluster" && Py.contains (Py.lower message) "list"

/-- `("diagnose" in low or "rca" in low) and "/" in message`. -/
def wantsDiagnosis (message : String) : Bool :=
  Py.containsAny (Py.lower message) ["diagnose", "rca"] && Py.contains message "/"

def fallback (off : Offline) (message : String) : FallbackRun :=
  if wantsList message then
    match off.listClusters with
    | .ok clusters => { reply := pretty clusters }
    | .error exc   => { reply := couldntRun exc.text }
  else if wantsDiagnosis message then
    match parse message with
    | none      => { reply := couldntRun "list index out of range" }
    | some call =>
      match off.rcaDiagnose call with
      | .error exc => { reply := couldntRun exc.text, called := [call] }
      | .ok report =>
        { reply := replyText report
          trace := [("rca_diagnose",
            [("namespace", .str call.namespace_), ("subject", .str call.subject)])]
          called := [call] }
  else
    { reply := .str ("Chat needs `ANTHROPIC_API_KEY` for full natural-language investigation. " ++
        "Offline I can still: **list clusters** (say 'list clusters'), or run an RCA " ++
        "(say 'diagnose <namespace>/<workload> in <cluster>').") }

/-- What the Diagnose button sends. -/
def diagnoseMessage (ns name cluster : String) : String :=
  "diagnose " ++ ns ++ "/" ++ name ++ " in " ++ cluster

/-! ## Names

Names of Kubernetes are of small letters, digits, hyphens and points, so neither blanks nor strokes
are in them. -/

/-- A DNS-1123 name, of any length: labels of small letters, digits and inner hyphens, joined by
points. -/
structure IsDnsName (s : String) : Prop where
  chars  : ∀ c ∈ s.toList, Py.isLowerAlnum c = true ∨ c = '-' ∨ c = '.'
  labels : ∀ label ∈ Py.splitOn '.' s.toList,
    label.head?.any Py.isLowerAlnum = true ∧ label.getLast?.any Py.isLowerAlnum = true

/-- No blank is in a name, and no stroke. -/
theorem IsDnsName.not_space {s : String} (h : IsDnsName s) : ∀ c ∈ s.toList, Py.isSpace c = false := by
  intro c hc
  rcases h.chars c hc with halnum | rfl | rfl
  · exact Py.isSpace_of_isLowerAlnum halnum
  · rfl
  · rfl

theorem IsDnsName.no_stroke {s : String} (h : IsDnsName s) : '/' ∉ s.toList := by
  intro hc
  rcases h.chars '/' hc with halnum | heq | heq
  · exact absurd halnum (by decide)
  · exact absurd heq (by decide)
  · exact absurd heq (by decide)

/-! ## What is read

The button's message, followed through the cuts. `diagnose` stands in front, so the first cut is at
the right place. The names lose every `rca` in them, and the cluster keeps everything but blanks at
its ends. -/

/-- The button's message, taken apart. -/
theorem toList_message (ns name cluster : String) : (diagnoseMessage ns name cluster).toList =
    "diagnose".toList ++ (' ' :: ((ns.toList ++ '/' :: name.toList) ++
      (" in ".toList ++ cluster.toList))) := by
  simp [diagnoseMessage]

/-- `rca` is taken out of both names. -/
def erased (s : String) : List Char := Py.replaceText "rca".toList [] s.toList

variable {ns name : String}

/-- What is left behind the first word, without `rca`. -/
theorem erased_request (ns name cluster : String) :
    Py.replaceText "rca".toList [] (request (diagnoseMessage ns name cluster).toList) =
      [' '] ++ ((erased ns ++ '/' :: erased name) ++
        ' ' :: Py.replaceText "rca".toList [] ("in ".toList ++ cluster.toList)) := by
  have hne : "rca".toList ≠ [] := by decide
  have hin : " in ".toList = ' ' :: "in ".toList := rfl
  rw [request, toList_message, Py.cutAt_sep (by decide), hin, List.cons_append]
  dsimp only
  rw [← List.nil_append (' ' :: _), Py.replaceText_append_cons hne (by decide),
    Py.replaceText_append_cons hne (by decide), Py.replaceText_append_cons hne (by decide)]
  rfl

/-- The names and the stroke between them are one word, which is cut at the stroke. -/
theorem isWord_frag (hns : IsDnsName ns) (hname : IsDnsName name) :
    Py.IsWord (erased ns ++ '/' :: erased name) := by
  refine ⟨by simp, fun c hc => ?_⟩
  have hne : "rca".toList ≠ [] := by decide
  rcases List.mem_append.mp hc with hc | hc
  · exact hns.not_space c (Py.mem_of_mem_erase hne hc)
  · rcases List.mem_cons.mp hc with rfl | hc
    · rfl
    · exact hname.not_space c (Py.mem_of_mem_erase hne hc)

theorem partition_frag (hns : IsDnsName ns) (name : String) :
    partitionStroke (erased ns ++ '/' :: erased name) = (erased ns, erased name) := by
  have hstroke : '/' ∉ erased ns := fun hc => hns.no_stroke (Py.mem_of_mem_erase (by decide) hc)
  have hcut : Py.cutAt ['/'] ('/' :: erased name) = some ([], erased name) :=
    Py.cutAt_sep (List.cons_ne_nil '/' []) (erased name)
  rw [partitionStroke, Py.cutAt_append hstroke, hcut]
  simp

/-- The words before the cluster do not look like `in`. -/
theorem clusterOf_message (hns : IsDnsName ns) (hname : IsDnsName name) (cluster : String) :
    clusterOf (diagnoseMessage ns name cluster).toList = some (Py.strip cluster.toList) := by
  have hblank : ∀ {s : String}, IsDnsName s → ' ' ∉ s.toList := fun h hc =>
    absurd (h.not_space ' ' hc) (by decide)
  have hin : " in ".toList = ' ' :: "in ".toList := rfl
  have hword : ' ' ∉ ns.toList ++ '/' :: name.toList := by
    simp [hblank hns, hblank hname]
  -- the first ` in ` is the one of the message: none can begin before it
  have hnot : ∀ rest, ¬ ' ' :: "in ".toList <+: ' ' :: ((ns.toList ++ '/' :: name.toList) ++ rest) := by
    rintro rest hprefix
    obtain ⟨after, hafter⟩ := (List.cons_prefix_cons.mp hprefix).2
    rw [List.append_assoc, List.cons_append] at hafter
    rcases Weave.tag_or_tail hafter with ⟨inside, hinside⟩ | ⟨between, hbetween, -⟩
    · have hmem : '/' ∈ "in ".toList := by rw [hinside]; simp
      exact absurd hmem (by decide)
    · apply hblank hns
      rw [hbetween]
      simp
  rw [clusterOf, toList_message, hin, Py.cutAt_append (by decide), Py.cutAt_cons (hnot _),
    Py.cutAt_append hword, Py.cutAt_sep (by simp)]
  rfl

/-- So what is read are the erased names and the stripped cluster. -/
theorem parse_message (hns : IsDnsName ns) (hname : IsDnsName name) (cluster : String) :
    parse (diagnoseMessage ns name cluster) =
      some ⟨some (String.ofList (Py.strip cluster.toList)), String.ofList (erased ns),
        String.ofList (erased name)⟩ := by
  -- the removal of `rca` may eat into the names, but it leaves no blank in them
  have hsplit : Py.split (Py.strip (Py.replaceText "rca".toList []
      (request (diagnoseMessage ns name cluster).toList))) =
      (erased ns ++ '/' :: erased name) ::
        Py.split (Py.replaceText "rca".toList [] ("in ".toList ++ cluster.toList)) := by
    rw [Py.split_strip, erased_request, Py.split_blank_append (List.forall_mem_singleton.mpr rfl),
      Py.split_eq, Py.splitFrom_append_space (by decide), ← Py.split_eq,
      Py.split_word (isWord_frag hns hname)]
    rfl
  rw [parse, hsplit]
  dsimp only
  rw [partition_frag hns, clusterOf_message hns hname]
  rfl

/-! ## What is called

The list of clusters comes first in the code: a message that has `cluster` and `list` in it anywhere
is answered with the list, whatever else it says. -/

/-- The message is read as it was meant: one diagnosis, with the values of the button that wrote the
message, and no other tool called. -/
def RoundTrips (off : Offline) (ns name cluster : String) : Prop :=
  (fallback off (diagnoseMessage ns name cluster)).called = [⟨some cluster, ns, name⟩]

/-- The button's message asks for a diagnosis. -/
theorem wantsDiagnosis_message (ns name cluster : String) :
    wantsDiagnosis (diagnoseMessage ns name cluster) = true := by
  -- the word and the stroke are both in the message that the button writes
  have hword : Py.contains (Py.lower (diagnoseMessage ns name cluster)) "diagnose" = true := by
    have hlower : "diagnose".toList.flatMap Py.lowerChar = "diagnose".toList := by decide
    have htext : (Py.lower (diagnoseMessage ns name cluster)).toList =
        (diagnoseMessage ns name cluster).toList.flatMap Py.lowerChar := String.toList_ofList
    rw [Py.contains_eq_true, htext, toList_message, List.flatMap_append, hlower]
    exact (List.prefix_append _ _).isInfix
  have hstroke : Py.contains (diagnoseMessage ns name cluster) "/" = true := by
    rw [Py.contains_eq_true, toList_message]
    exact ⟨"diagnose".toList ++ ' ' :: ns.toList, name.toList ++ (" in ".toList ++ cluster.toList),
      by simp⟩
  rw [wantsDiagnosis, hstroke, Py.containsAny, List.any_cons, hword]
  rfl

/-- What is called for the button's message. -/
theorem called_message (off : Offline) (hns : IsDnsName ns) (hname : IsDnsName name)
    (cluster : String) : (fallback off (diagnoseMessage ns name cluster)).called =
      if wantsList (diagnoseMessage ns name cluster) then []
      else [⟨some (String.ofList (Py.strip cluster.toList)), String.ofList (erased ns),
        String.ofList (erased name)⟩] := by
  have hwants := wantsDiagnosis_message ns name cluster
  have hparse := parse_message hns hname cluster
  generalize diagnoseMessage ns name cluster = message at hwants hparse ⊢
  unfold fallback
  rw [hwants, hparse]
  -- a message that also asks for the list is answered with the list alone
  cases wantsList message with
  | true =>
      simp only [if_true]
      cases off.listClusters <;> rfl
  | false =>
      simp only [Bool.false_eq_true, if_false, if_true]
      split <;> rfl

/-- A text is known by its characters. -/
theorem ofList_eq_iff {cs : List Char} {s : String} : String.ofList cs = s ↔ cs = s.toList := by
  constructor
  · rintro rfl
    rw [String.toList_ofList]
  · rintro rfl
    rw [String.ofList_toList]

/-- A name is left alone if there is no `rca` in it. -/
theorem erased_eq_iff (s : String) : String.ofList (erased s) = s ↔ Py.contains s "rca" = false := by
  rw [ofList_eq_iff, erased, Py.erase_eq_self_iff (by decide), ← Bool.not_eq_true, Py.contains_eq_true]

/-- **Exactly when the button's message is read as it was meant.** -/
theorem called_iff (off : Offline) (hns : IsDnsName ns) (hname : IsDnsName name) (cluster : String) :
    RoundTrips off ns name cluster ↔
      wantsList (diagnoseMessage ns name cluster) = false ∧ Py.contains ns "rca" = false ∧
        Py.contains name "rca" = false ∧ Py.strip cluster.toList = cluster.toList := by
  rw [RoundTrips, called_message off hns hname]
  cases wantsList (diagnoseMessage ns name cluster) with
  | true => simp
  | false =>
      simp only [Bool.false_eq_true, if_false, List.cons.injEq, and_true, RcaCall.mk.injEq,
        Option.some.injEq, true_and]
      rw [ofList_eq_iff, erased_eq_iff, erased_eq_iff, and_comm, and_assoc]

/-! ## A workload that is not found

A deployment with a common name that has the three letters in it. -/

def idle : Offline where
  listClusters := .ok (.arr [])
  rcaDiagnose _ := .ok []

theorem shop_dnsName : IsDnsName "shop" := ⟨List.all_iff_forall_prop.mp (by decide), by decide⟩

/-- Of an ordinary workload the message is read as it was meant if the four conditions hold, which
they do. -/
theorem called_iff_cart : RoundTrips idle "shop" "cart" "prod" ↔
    wantsList (diagnoseMessage "shop" "cart" "prod") = false ∧ Py.contains "shop" "rca" = false ∧
      Py.contains "cart" "rca" = false ∧ Py.strip "prod".toList = "prod".toList :=
  called_iff idle shop_dnsName ⟨List.all_iff_forall_prop.mp (by decide), by decide⟩ "prod"

/-- `orca` is read as `o`. -/
theorem orca_misread : IsDnsName "shop" ∧ IsDnsName "orca" ∧
    Py.strip "prod".toList = "prod".toList ∧ Py.contains "prod" " in " = false ∧
      ¬ RoundTrips idle "shop" "orca" "prod" := by
  have horca : IsDnsName "orca" := ⟨List.all_iff_forall_prop.mp (by decide), by decide⟩
  refine ⟨shop_dnsName, horca, by decide, by decide, ?_⟩
  rw [RoundTrips, called_message idle shop_dnsName horca]
  decide +kernel

end SreAgent.Webapp.Fallback
