import Mathlib.Data.List.Sort
import Mathlib.Data.Rat.Defs
import SreAgent.Rag.Store

/-!
# Retrieval

`store.search` and `retrieve.search`. The row-level-security policy on `chunks` and the hybrid query
are embedded as they stand in `rag/store.py`; the vector index is taken to be exact, and rows of
equal score keep the order of the table. The embedding model and the two scores of the database
(cosine similarity, and the text rank of a chunk that matches the query) are parameters.

A search is a function of the base, as the session sees it. The policy is applied to `chunks` before
anything else is done with them; `documents` has no policy, and the join looks rows up there by
their key.
-/

namespace SreAgent.Rag

variable {V : Type}

/-- The services a retrieval talks to. `lscore` is `none` where the chunk does not match. -/
structure Scorer (V : Type) where
  embedQuery : String → Except Exc V
  connect    : Option Exc := none
  vscore     : (query chunk : V) → ℚ
  lscore     : (query content : String) → Option ℚ

/-! ## The session

The tenants go to the database as one setting, a text. What the policy makes of it is up to the
database's `string_to_array`, which knows no escapes. -/

/-- `string_to_array(s, ',')`. -/
def stringToArray (s : String) : List String :=
  if s = "" then [] else (Py.splitOn ',' s.toList).map String.ofList

/-- The policy `chunks_tenant_isolation` under `set_config('app.tenants', ..)`. -/
def visible (tenants : List String) (c : Chunk V) : Bool :=
  (stringToArray (Py.join "," tenants)).contains c.tenant

/-! ## The hybrid query

Two rankings: by vector, cut at forty, and by the weighted sum of both scores, cut at `top_k`. The
second one orders only what the first has left. -/

/-- A row of the result. -/
structure Hit where
  title    : String
  source   : String
  url      : Option String
  severity : Option String
  content  : String
  score    : ℚ
  deriving DecidableEq, Repr

/-- `ORDER BY key DESC LIMIT n`. -/
def topBy {α : Type} (key : α → ℚ) (n : Nat) (rows : List α) : List α :=
  (rows.insertionSort fun a b => key b ≤ key a).take n

/-- The common table expression `vec`. -/
def vecRows (sc : Scorer V) (qvec : V) (service : Option String) (chunks : List (Chunk V)) :
    List (Chunk V) :=
  topBy (fun c => sc.vscore qvec c.embedding) 40
    (chunks.filter fun c => service.all fun s => c.service == some s)

/-- `0.7 * vscore + 0.3 * COALESCE(lscore, 0)`. -/
def score (sc : Scorer V) (qvec : V) (qtext : String) (c : Chunk V) : ℚ :=
  7 / 10 * sc.vscore qvec c.embedding + 3 / 10 * (sc.lscore qtext c.content).getD 0

/-- `HYBRID_SEARCH` over the chunks the session can see. The forty nearest by vector are joined with
their lexical scores, and the best `top_k` of these forty are returned. -/
def hybridSearch (sc : Scorer V) (qvec : V) (qtext : String) (service : Option String) (topK : Nat)
    (chunks : List (Chunk V)) (documents : List Document) : List Hit :=
  topBy Hit.score topK
    ((vecRows sc qvec service chunks).flatMap fun c =>
      (documents.filter fun d => d.id == c.documentId).map fun d =>
        ⟨d.title, d.source, d.url, d.severity, c.content, score sc qvec qtext c⟩)

def storeSearch (sc : Scorer V) (kb : KnowledgeBase V) (qvec : V) (qtext : String)
    (tenants : List String) (service : Option String) (topK : Nat) : Except Exc (List Hit) :=
  match sc.connect with
  | some e => .error e
  | none   =>
    .ok (hybridSearch sc qvec qtext service topK (kb.chunks.filter (visible tenants)) kb.documents)

/-- `retrieve.search`: without tenants, those of the default tenant. -/
def search (sc : Scorer V) (kb : KnowledgeBase V) (query : String) (tenants : List String)
    (service : Option String) (topK : Nat) : Except Exc (List Hit) := do
  let qvec ← sc.embedQuery query
  storeSearch sc kb qvec query (if tenants.isEmpty then ["default"] else tenants) service topK

end SreAgent.Rag
