import Mathlib.Data.List.Induction
import Mathlib.Logic.Function.Basic
import SreAgent.Lib.Machine
import SreAgent.Rag.Store

/-!
# Ingestion

`ingest_text` of `rag/ingest.py`, and what becomes of the base over a run of ingestions. The
purpose of ingestion is a shelf: for each key (source, title, tenant) the text ingested last.
`Holds` says what it means for a document row to hold a text; the run lemma `rows_run` lists the
rows of a key after any run, and `replaces_iff` compares them with the shelf.

The documentation says that ingesting a document again replaces its chunks. The statement here is
therefore about runs over any base: after all of them, each key should have one row, with the last
text.
-/

namespace SreAgent.Rag

variable {V : Type}

/-- The arguments of one `ingest_text`. -/
structure IngestCall where
  text     : String
  source   : String
  title    : String
  tenant   : String
  service  : String := ""
  severity : String := ""
  url      : String := ""
  deriving DecidableEq, Repr

/-- `s or None`. -/
def orNone (s : String) : Option String := if s = "" then none else some s

/-- The columns of its row. An empty service is stored as none. -/
def IngestCall.fields (call : IngestCall) : DocumentFields where
  source := call.source
  title := call.title
  service := orNone call.service
  tenant := call.tenant
  severity := orNone call.severity
  url := orNone call.url

/-- `ingest_text`: chunk, embed, write. A text without chunks writes nothing, not even a row for the
document, and any of the services may fail on the way. -/
def ingestText (b : Backend V) (kb : KnowledgeBase V) (call : IngestCall) :
    Except Exc Nat × KnowledgeBase V :=
  match chunkDocument call.text maxTokensDefault with
  | .error e => (.error e, kb)
  | .ok chunks =>
    if chunks.isEmpty then (.ok 0, kb)
    else
      match b.embedTexts chunks with
      | .error e => (.error e, kb)
      | .ok vectors =>
        match upsertChunks b kb call.fields chunks vectors with
        | (.error e, kb') => (.error e, kb')
        | (.ok (), kb')   => (.ok chunks.length, kb')

/-- The ingestion pipeline, one `ingest_text` a step. -/
def ingester (b : Backend V) : Machine (KnowledgeBase V) IngestCall (Except Exc Nat) where
  step := ingestText b

/-! ## The shelf

What the component is for, said without tables: a map from keys to texts that is overwritten. The
base should look like it at the end of a run. -/

/-- What identifies a document across ingestions. -/
structure Key where
  source : String
  title  : String
  tenant : String
  deriving DecidableEq, Repr

def IngestCall.key (call : IngestCall) : Key := ⟨call.source, call.title, call.tenant⟩

def Document.key (d : Document) : Key := ⟨d.source, d.title, d.tenant⟩

/-- For each key, the text of its last ingestion: what a reader of the knowledge base expects to
find, computed from the calls alone and without looking at a row. -/
def shelf (calls : List IngestCall) : Key → Option String :=
  calls.foldl (fun s call => Function.update s call.key (some call.text)) fun _ => none

/-- The `documents` rows of a key. -/
def KnowledgeBase.rows (kb : KnowledgeBase V) (key : Key) : List Document :=
  kb.documents.filter fun d => d.key = key

/-- The chunks of document `id` are those of `text`, numbered from 0. -/
def KnowledgeBase.Holds (kb : KnowledgeBase V) (id : Nat) (text : String) : Prop :=
  ∃ chunks, chunkDocument text maxTokensDefault = .ok chunks ∧
    ((kb.chunksOf id).map Chunk.entry).Perm (entriesFrom 0 chunks)

/-- Exactly one row for each key on the shelf, and it holds the text there. This is what
re-ingesting a document is said to come to: the old row goes, and its chunks with it. -/
def Replaces (b : Backend V) (kb : KnowledgeBase V) (calls : List IngestCall) : Prop :=
  ∀ key text, shelf calls key = some text →
    ∃ d, ((ingester b).final kb calls).rows key = [d] ∧
      ((ingester b).final kb calls).Holds d.id text

/-! ## One ingestion

A text that consists of white space only has no chunks, and `ingest_text` returns before it writes.
So a call either adds one document or changes nothing. -/

/-- The text has at least one chunk. -/
def hasChunks (text : String) : Bool :=
  match chunkDocument text maxTokensDefault with
  | .ok chunks => !chunks.isEmpty
  | .error _   => false

/-- At the default size the windows advance, so chunking never raises. -/
theorem chunkDocument_default (text : String) :
    ∃ chunks, chunkDocument text maxTokensDefault = .ok chunks ∧
      (hasChunks text = true ↔ chunks ≠ []) := by
  obtain ⟨chunks, h⟩ := chunkDocument_ok (show maxTokensDefault ≠ overlap by decide) text
  refine ⟨chunks, h, ?_⟩
  simp [hasChunks, h]

/-- A text without chunks gives the empty list, and its ingestion leaves the base as it is. -/
theorem chunkDocument_chunkless {text : String} (h : hasChunks text = false) :
    chunkDocument text maxTokensDefault = .ok [] := by
  obtain ⟨chunks, hchunks, hiff⟩ := chunkDocument_default text
  have hnil : chunks = [] := by
    by_contra hne
    rw [hiff.mpr hne] at h
    cases h
  rw [hchunks, hnil]

theorem ingestText_chunkless (b : Backend V) (kb : KnowledgeBase V) {call : IngestCall}
    (h : hasChunks call.text = false) : (ingestText b kb call).2 = kb := by
  simp only [ingestText, chunkDocument_chunkless h, List.isEmpty_nil, if_true]

/-- New rows may add to the chunks of a document, and take none away. -/
theorem chunksOf_append {kb kb' : KnowledgeBase V} {rows : List (Chunk V)}
    (h : kb'.chunks = kb.chunks ++ rows) (id : Nat) :
    kb'.chunksOf id = kb.chunksOf id ++ rows.filter fun c => c.documentId == id := by
  rw [KnowledgeBase.chunksOf, h, List.filter_append]
  rfl

/-- No chunk refers to a document that is still to be inserted. -/
theorem chunksOf_next (kb : KnowledgeBase V) : kb.chunksOf kb.nextDocument = [] := by
  rw [KnowledgeBase.chunksOf, List.filter_eq_nil_iff]
  intro c hc hid
  obtain ⟨d, hd, howner, -⟩ := kb.chunks_owned c hc
  have hbelow := kb.documents_below d hd
  have : c.documentId = kb.nextDocument := by simpa using hid
  omega

/-- **A text with chunks adds one document, which holds it.** The chunks of the documents already
there stay as they are. -/
theorem ingestText_spec {b : Backend V} (hb : b.Answers) (kb : KnowledgeBase V) {call : IngestCall}
    (h : hasChunks call.text = true) :
    ∃ d : Document, d.key = call.key ∧
      (ingestText b kb call).2.documents = kb.documents ++ [d] ∧
      (ingestText b kb call).2.Holds d.id call.text ∧
      ∀ d' ∈ kb.documents, (ingestText b kb call).2.chunksOf d'.id = kb.chunksOf d'.id := by
  obtain ⟨chunks, hchunks, hiff⟩ := chunkDocument_default call.text
  obtain ⟨vectors, hvectors, hlen⟩ := hb.embeds chunks
  obtain ⟨kb', rows, hrun, hdocs, hrows, hentries, howner⟩ :=
    upsertChunks_spec hb kb call.fields hlen
  have hstep : (ingestText b kb call).2 = kb' := by
    simp only [ingestText, hchunks, List.isEmpty_iff, hiff.mp h, if_false, hvectors, hrun]
  rw [hstep]
  -- every new chunk refers to the new document, and none to an old one
  have hnew : rows.filter (fun c => c.documentId == kb.nextDocument) = rows :=
    List.filter_eq_self.mpr fun c hc => beq_iff_eq.mpr (howner c hc)
  refine ⟨kb.newDocument call.fields, rfl, hdocs, ⟨chunks, hchunks, ?_⟩, fun d' hd' => ?_⟩
  · show ((kb'.chunksOf kb.nextDocument).map Chunk.entry).Perm (entriesFrom 0 chunks)
    rw [chunksOf_append hrows, chunksOf_next, hnew, List.nil_append, hentries]
  · have hold : rows.filter (fun c => c.documentId == d'.id) = [] := by
      rw [List.filter_eq_nil_iff]
      intro c hc hid
      have h₁ := howner c hc
      have h₂ := kb.documents_below d' hd'
      have h₃ : c.documentId = d'.id := by simpa using hid
      omega
    rw [chunksOf_append hrows, hold, List.append_nil]

/-! ## Runs

Seen from one key, a run is a list of calls that write for it. The rows of the key are those it had
and one for each of these calls. -/

/-- The calls of a run that write a document for the key. -/
def writes (key : Key) (calls : List IngestCall) : List IngestCall :=
  calls.filter fun call => call.key = key ∧ hasChunks call.text

/-- A document keeps the text it holds as long as its chunks stay. -/
theorem KnowledgeBase.Holds.of_chunksOf {kb kb' : KnowledgeBase V} {id : Nat} {text : String}
    (h : kb.Holds id text) (hsame : kb'.chunksOf id = kb.chunksOf id) : kb'.Holds id text := by
  obtain ⟨chunks, hchunks, hperm⟩ := h
  exact ⟨chunks, hchunks, hsame ▸ hperm⟩

/-- Document `d` is in the base and holds the text of the call. -/
def KnowledgeBase.Written (kb : KnowledgeBase V) (call : IngestCall) (d : Document) : Prop :=
  d ∈ kb.documents ∧ kb.Holds d.id call.text

/-- The writing calls of two runs are those of each. -/
theorem writes_append (key : Key) (calls calls' : List IngestCall) :
    writes key (calls ++ calls') = writes key calls ++ writes key calls' := List.filter_append ..

/-- The rows of a key grow at the end. -/
theorem KnowledgeBase.rows_append {kb kb' : KnowledgeBase V} {ds : List Document}
    (h : kb'.documents = kb.documents ++ ds) (key : Key) :
    kb'.rows key = kb.rows key ++ ds.filter fun d => d.key = key := by
  rw [KnowledgeBase.rows, h, List.filter_append]
  rfl

/-- **One ingestion, seen from a key**: the documents stay with their chunks, and the rows of the
key grow by what the call writes for it. -/
theorem ingestText_rows {b : Backend V} (hb : b.Answers) (kb : KnowledgeBase V) (key : Key)
    (call : IngestCall) :
    (∀ d ∈ kb.documents, d ∈ (ingestText b kb call).2.documents ∧
      (ingestText b kb call).2.chunksOf d.id = kb.chunksOf d.id) ∧
    ∃ new, (ingestText b kb call).2.rows key = kb.rows key ++ new ∧
      List.Forall₂ (ingestText b kb call).2.Written (writes key [call]) new := by
  cases hchunks : hasChunks call.text with
  | false =>  -- a text without chunks writes nothing
      rw [ingestText_chunkless b kb hchunks]
      refine ⟨fun d hd => ⟨hd, rfl⟩, [], (List.append_nil _).symm, ?_⟩
      simp [writes, hchunks]
  | true =>
      obtain ⟨d, hkey, hdocs, hholds, hframe⟩ := ingestText_spec hb kb hchunks
      constructor
      · intro d' hd'
        exact ⟨hdocs ▸ List.mem_append_left _ hd', hframe d' hd'⟩
      · refine ⟨_, KnowledgeBase.rows_append hdocs key, ?_⟩
        by_cases hk : call.key = key  -- a new row for the key of the call, and none for other keys
        · have hmem : d ∈ (ingestText b kb call).2.documents := by rw [hdocs]; simp
          simp only [writes, hk, hchunks, hkey, decide_true, and_self, List.filter_cons_of_pos,
            List.filter_nil]
          exact .cons ⟨hmem, hholds⟩ .nil
        · simp [writes, hk, hkey]

/-- **The rows of a key after any run**: those it had, with the chunks they had, and one more for
every call that had chunks to write. -/
theorem rows_run {b : Backend V} (hb : b.Answers) (kb : KnowledgeBase V) (key : Key)
    (calls : List IngestCall) :
    (∀ d ∈ kb.documents, d ∈ ((ingester b).final kb calls).documents ∧
      ((ingester b).final kb calls).chunksOf d.id = kb.chunksOf d.id) ∧
    ∃ new, ((ingester b).final kb calls).rows key = kb.rows key ++ new ∧
      List.Forall₂ ((ingester b).final kb calls).Written (writes key calls) new := by
  induction calls using List.reverseRecOn with
  | nil => exact ⟨fun d hd => ⟨hd, rfl⟩, [], (List.append_nil _).symm, .nil⟩
  | append_singleton calls call ih =>
      obtain ⟨hold, new, hrows, hnew⟩ := ih
      rw [Machine.final_append]
      generalize (ingester b).final kb calls = mid at hold hrows hnew ⊢
      obtain ⟨hframe, added, hadded, hwritten⟩ := ingestText_rows hb mid key call
      have hlast : (ingester b).final mid [call] = (ingestText b mid call).2 := rfl
      rw [hlast]
      constructor
      · intro d hd
        obtain ⟨hmem, hsame⟩ := hold d hd
        exact ⟨(hframe d hmem).1, (hframe d hmem).2.trans hsame⟩
      · refine ⟨new ++ added, by rw [hadded, hrows, List.append_assoc], ?_⟩
        rw [writes_append]
        -- what was written before is still there
        have hkeep : List.Forall₂ (ingestText b mid call).2.Written (writes key calls) new :=
          hnew.imp fun _ d hd => ⟨(hframe d hd.1).1, hd.2.of_chunksOf (hframe d hd.1).2⟩
        exact List.rel_append hkeep hwritten

/-! ## When the base follows the shelf

One row, and it holds the last text: this leaves two possibilities. Either the key had no row and
was written once, or it never had anything to write and had one empty row. Each of the two has its
lemma, by whether the last text has chunks. -/

/-- The text on the shelf is the text of the key's last call. -/
theorem shelf_eq_some {calls : List IngestCall} {key : Key} {text : String}
    (h : shelf calls key = some text) :
    ∃ past call rest, calls = past ++ call :: rest ∧ call.key = key ∧ call.text = text ∧
      ∀ c ∈ rest, c.key ≠ key := by
  induction calls using List.reverseRecOn with
  | nil => cases h
  | append_singleton calls call ih =>
      have hstep : shelf (calls ++ [call]) =
          Function.update (shelf calls) call.key (some call.text) := by
        simp [shelf]
      rw [hstep] at h
      by_cases hk : key = call.key  -- the last call writes the shelf of its own key only
      · subst hk
        rw [Function.update_self] at h
        exact ⟨calls, call, [], rfl, rfl, Option.some.inj h, by simp⟩
      · rw [Function.update_of_ne hk] at h
        obtain ⟨past, c, rest, rfl, hck, hct, hrest⟩ := ih h
        refine ⟨past, c, rest ++ [call], by simp, hck, hct, ?_⟩
        intro c' hc'
        rcases List.mem_append.mp hc' with hc' | hc'
        · exact hrest c' hc'
        · rw [List.mem_singleton.mp hc']
          exact Ne.symm hk

/-- The first time a key meets a text with chunks is the only time: the base had no row of it. Or
there was never anything to write, and the base had the one empty row already. -/
def NothingToReplace (kb : KnowledgeBase V) (calls : List IngestCall) (key : Key) (text : String) :
    Prop :=
  if hasChunks text then kb.rows key = [] ∧ (writes key calls).length = 1
  else writes key calls = [] ∧ ∃ d, kb.rows key = [d] ∧ kb.chunksOf d.id = []

/-- A document holds a text without chunks if it has none itself, -/
theorem holds_chunkless {kb : KnowledgeBase V} {id : Nat} {text : String}
    (h : hasChunks text = false) : kb.Holds id text ↔ kb.chunksOf id = [] := by
  have hchunks := chunkDocument_chunkless h
  constructor
  · rintro ⟨chunks, hchunks', hperm⟩
    obtain rfl := Except.ok.inj (hchunks.symm.trans hchunks')
    exact List.map_eq_nil_iff.mp hperm.eq_nil
  · intro h
    exact ⟨[], hchunks, by rw [h]; exact .nil⟩

/-- and a text with chunks only if it has some. -/
theorem holds_nonempty {kb : KnowledgeBase V} {id : Nat} {text : String}
    (h : hasChunks text = true) (hh : kb.Holds id text) : kb.chunksOf id ≠ [] := by
  obtain ⟨chunks, hchunks, hiff⟩ := chunkDocument_default text
  obtain ⟨chunks', hchunks', hperm⟩ := hh
  obtain rfl := Except.ok.inj (hchunks.symm.trans hchunks')
  intro hnil
  rw [hnil] at hperm
  have hentries : entriesFrom 0 chunks = [] := hperm.symm.eq_nil
  cases chunks with
  | nil => exact hiff.mp h rfl
  | cons c cs => cases hentries

/-- If the key's last text has chunks, its call is the last one that writes. -/
theorem writes_last {calls : List IngestCall} {key : Key} {text : String}
    (hlast : shelf calls key = some text) (hchunks : hasChunks text = true) :
    ∃ earlier call, writes key calls = earlier ++ [call] ∧ call.text = text := by
  obtain ⟨past, call, rest, rfl, hkey, rfl, hrest⟩ := shelf_eq_some hlast
  have hnone : writes key rest = [] := by
    rw [writes, List.filter_eq_nil_iff]
    intro c hc
    simp [hrest c hc]
  refine ⟨writes key past, call, ?_, rfl⟩
  rw [writes, List.filter_append, List.filter_cons_of_pos (by simp [hkey, hchunks])]
  exact congrArg (_ ++ call :: ·) hnone

/-- What is written has chunks. -/
theorem hasChunks_of_mem_writes {key : Key} {calls : List IngestCall} {call : IngestCall}
    (h : call ∈ writes key calls) : hasChunks call.text = true := by
  have hcond := of_decide_eq_true (List.mem_filter.mp h).2
  simpa using hcond.2

/-- The row of a text with chunks is right if the run wrote it alone. -/
theorem replaced_of_chunks {b : Backend V} (hb : b.Answers) (kb : KnowledgeBase V)
    {calls : List IngestCall} {key : Key} {text : String} (hlast : shelf calls key = some text)
    (hchunks : hasChunks text = true) :
    (∃ d, ((ingester b).final kb calls).rows key = [d] ∧
      ((ingester b).final kb calls).Holds d.id text) ↔
      kb.rows key = [] ∧ (writes key calls).length = 1 := by
  obtain ⟨hold, new, hrows, hnew⟩ := rows_run hb kb key calls
  obtain ⟨earlier, call, hw, rfl⟩ := writes_last hlast hchunks
  have hcount := hnew.length_eq
  rw [hw, List.length_append, List.length_singleton] at hcount ⊢
  constructor
  · rintro ⟨d, hd, -⟩
    -- the one row is the one of the last call
    have hlen : (kb.rows key ++ new).length = 1 := by rw [← hrows, hd]; rfl
    rw [List.length_append] at hlen
    exact ⟨List.length_eq_zero_iff.mp (by omega), by omega⟩
  · rintro ⟨hnone, hone⟩
    have hearlier : earlier = [] := List.length_eq_zero_iff.mp (by omega)
    rw [hw, hearlier, List.nil_append] at hnew
    cases hnew with
    | cons hcall htail =>
        cases htail
        exact ⟨_, by rw [hrows, hnone, List.nil_append], hcall.2⟩

/-- The row of a text without chunks is right if it was there and the run wrote nothing. -/
theorem replaced_of_chunkless {b : Backend V} (hb : b.Answers) (kb : KnowledgeBase V)
    (calls : List IngestCall) {key : Key} {text : String} (hchunks : hasChunks text = false) :
    (∃ d, ((ingester b).final kb calls).rows key = [d] ∧
      ((ingester b).final kb calls).Holds d.id text) ↔
      writes key calls = [] ∧ ∃ d, kb.rows key = [d] ∧ kb.chunksOf d.id = [] := by
  obtain ⟨hold, new, hrows, hnew⟩ := rows_run hb kb key calls
  -- no ingestion touches the chunks of a document that is there
  have hkept : ∀ d ∈ kb.rows key, ((ingester b).final kb calls).chunksOf d.id = kb.chunksOf d.id :=
    fun d hd => (hold d (List.mem_filter.mp hd).1).2
  generalize (ingester b).final kb calls = last at hold hrows hnew hkept ⊢
  constructor
  · rintro ⟨d, hd, hholds⟩
    rw [holds_chunkless hchunks] at hholds
    have hnone : new = [] := by
      by_contra hne
      -- otherwise the row is one the run wrote, and that one has chunks
      obtain ⟨d', new', rfl⟩ := List.exists_cons_of_ne_nil hne
      cases hw : writes key calls with
      | nil => rw [hw] at hnew; cases hnew
      | cons call calls' =>
          rw [hw] at hnew
          cases hnew with
          | cons hcall htail =>
              have hmem : d' ∈ last.rows key := by rw [hrows]; simp
              rw [hd, List.mem_singleton] at hmem
              have hcc := hasChunks_of_mem_writes (hw ▸ List.mem_cons_self ..)
              exact holds_nonempty hcc hcall.2 (hmem ▸ hholds)
    subst hnone
    rw [List.append_nil, hd] at hrows
    have hmem : d ∈ kb.rows key := by rw [← hrows]; exact List.mem_singleton.mpr rfl
    exact ⟨List.length_eq_zero_iff.mp hnew.length_eq, d, hrows.symm, hkept d hmem ▸ hholds⟩
  · rintro ⟨hnone, d, hd, hempty⟩
    rw [hnone] at hnew
    cases hnew
    have hmem : d ∈ kb.rows key := by rw [hd]; exact List.mem_singleton.mpr rfl
    refine ⟨d, by rw [hrows, hd]; rfl, (holds_chunkless hchunks).mpr ?_⟩
    rw [hkept d hmem]
    exact hempty

/-- **One key**: its row is right exactly when there was nothing to replace. -/
theorem replaced_iff {b : Backend V} (hb : b.Answers) (kb : KnowledgeBase V)
    (calls : List IngestCall) {key : Key} {text : String} (hlast : shelf calls key = some text) :
    (∃ d, ((ingester b).final kb calls).rows key = [d] ∧
      ((ingester b).final kb calls).Holds d.id text) ↔ NothingToReplace kb calls key text := by
  unfold NothingToReplace
  cases hchunks : hasChunks text with
  | true => exact replaced_of_chunks hb kb hlast hchunks
  | false => exact replaced_of_chunkless hb kb calls hchunks

/-- **Exactly when ingestion replaces.** With an answering backend, whatever the base and the run:
each key ends with one row that holds its last text iff for each key there was nothing to replace.
No call ever removes a row. -/
theorem replaces_iff {b : Backend V} (hb : b.Answers) (kb : KnowledgeBase V)
    (calls : List IngestCall) :
    Replaces b kb calls ↔
      ∀ key text, shelf calls key = some text → NothingToReplace kb calls key text := by
  constructor
  · intro h key text hlast
    exact (replaced_iff hb kb calls hlast).mp (h key text hlast)
  · intro h key text hlast
    exact (replaced_iff hb kb calls hlast).mpr (h key text hlast)

/-- A backend that answers, with vectors of no dimension. -/
def demoBackend : Backend Unit where
  embedTexts texts := .ok (texts.map fun _ => ())

/-- Every text gets its vector, and nothing is refused. -/
theorem demoBackend_answers : demoBackend.Answers where
  embeds _ := ⟨_, rfl, List.length_map ..⟩
  connects := rfl
  documents _ := rfl
  chunks _ := rfl

def demoRunbook : IngestCall where
  text := "restart"
  source := "runbook"
  title := "db"
  tenant := "default"

def otherRunbook : IngestCall := { demoRunbook with text := "flush the cache", title := "dns" }

/-- The base after the first ingestion, with one row. -/
def stocked : KnowledgeBase Unit := (ingester demoBackend).final .empty [demoRunbook]

/-- Over rows that are there already, a runbook of another key is the only one of it, and one of the
same key is the second. -/
theorem replaces_iff_demo :
    Replaces demoBackend stocked [otherRunbook] ∧
      ¬ Replaces demoBackend stocked [otherRunbook, demoRunbook] := by
  constructor
  · -- another document is added to what is there, and there is nothing of it to replace
    refine (replaces_iff demoBackend_answers stocked [otherRunbook]).mpr fun key text hlast => ?_
    obtain ⟨past, call, rest, hcalls, rfl, rfl, -⟩ := shelf_eq_some hlast
    have hmem : call ∈ [otherRunbook] := by
      rw [hcalls]
      simp
    obtain rfl := List.mem_singleton.mp hmem
    have hrows : stocked.rows otherRunbook.key = [] ∧
        (writes otherRunbook.key [otherRunbook]).length = 1 := by decide
    rw [NothingToReplace, if_pos (by decide)]
    exact hrows
  · -- the document that is already there is ingested again
    intro h
    have hnothing := (replaces_iff demoBackend_answers stocked _).mp h demoRunbook.key "restart"
      (by decide)
    rw [NothingToReplace, if_pos (by decide)] at hnothing
    exact absurd hnothing.1 (by decide)

/-- Ingesting one runbook twice leaves two rows for it. -/
theorem second_ingest_duplicates :
    ¬ Replaces demoBackend .empty [demoRunbook, demoRunbook] := by
  intro h
  obtain ⟨d, hd, -⟩ := h demoRunbook.key "restart" (by decide)
  have hlen : (((ingester demoBackend).final .empty [demoRunbook, demoRunbook]).rows
      demoRunbook.key).length = 2 := by decide
  rw [hd] at hlen
  cases hlen

end SreAgent.Rag
