import Mathlib.Data.List.Nodup
import SreAgent.Rag.Embed

/-!
# The knowledge base

The two tables of `rag/store.py` and the statements that write them. A row is a record, a table the
list of its rows in the order of their insertion, and `KnowledgeBase` has the constraints of the
schema as fields: primary keys are unique and below the next serial number, and every chunk refers
to a document and carries that document's tenant.

The connection is in autocommit mode: a statement that raises leaves behind what the statements
before it wrote.

Whether the database accepts a row is left to the `Backend`: for a role that is bound by the policy on
`chunks` a statement may be refused. What a session sees under that policy is in `Rag.Retrieve`.
-/

namespace SreAgent.Rag

variable {V : Type}

/-- The columns `upsert_chunks` is given. -/
structure DocumentFields where
  source   : String
  title    : String
  service  : Option String := none
  tenant   : String := "default"
  severity : Option String := none
  url      : Option String := none
  deriving DecidableEq, Repr

/-- A row of `documents`. -/
structure Document extends DocumentFields where
  id : Nat
  deriving DecidableEq, Repr

/-- A row of `chunks`. The type of vectors is left open, since nothing looks into one: the scorer
alone compares them. -/
structure Chunk (V : Type) where
  id         : Nat
  documentId : Nat
  ordinal    : Nat
  content    : String
  embedding  : V
  tenant     : String
  service    : Option String

/-- Both tables and their serials, with what the schema promises of them: ids are unique, the
serials are ahead of them, and every chunk belongs to a document of its tenant. -/
structure KnowledgeBase (V : Type) where
  documents    : List Document
  chunks       : List (Chunk V)
  nextDocument : Nat
  nextChunk    : Nat
  documents_nodup : (documents.map Document.id).Nodup
  documents_below : ∀ d ∈ documents, d.id < nextDocument
  chunks_nodup    : (chunks.map Chunk.id).Nodup
  chunks_below    : ∀ c ∈ chunks, c.id < nextChunk
  chunks_owned    : ∀ c ∈ chunks, ∃ d ∈ documents, d.id = c.documentId ∧ d.tenant = c.tenant

/-- The tables as `init_schema` creates them. -/
def KnowledgeBase.empty : KnowledgeBase V where
  documents := []
  chunks := []
  nextDocument := 1
  nextChunk := 1
  documents_nodup := List.nodup_nil
  documents_below := by simp
  chunks_nodup := List.nodup_nil
  chunks_below := by simp
  chunks_owned := by simp

def KnowledgeBase.chunksOf (kb : KnowledgeBase V) (documentId : Nat) : List (Chunk V) :=
  kb.chunks.filter fun c => c.documentId == documentId

/-! ## Statements

Each statement keeps the constraints, and says so by its type: the new base carries the proofs. A
chunk can only be inserted for a document that is there. -/

/-- The next serial number is not taken, so appending a row that has it keeps a key unique. -/
theorem nodup_serial {α : Type} {key : α → Nat} {rows : List α} {next : Nat}
    (hnodup : (rows.map key).Nodup) (hbelow : ∀ r ∈ rows, key r < next) {r : α} (hr : key r = next) :
    ((rows ++ [r]).map key).Nodup := by
  rw [List.map_append, List.nodup_append]
  refine ⟨hnodup, List.nodup_singleton _, ?_⟩
  intro k hk j hj
  obtain ⟨r', hr', rfl⟩ := List.mem_map.mp hk
  rw [List.map_singleton, List.mem_singleton] at hj
  have := hbelow r' hr'
  omega

/-- And the serial stays ahead of every key. -/
theorem below_serial {α : Type} {key : α → Nat} {rows : List α} {next : Nat}
    (hbelow : ∀ r ∈ rows, key r < next) {r : α} (hr : key r = next) :
    ∀ r' ∈ rows ++ [r], key r' < next + 1 := by
  intro r' h
  rcases List.mem_append.mp h with h | h
  · exact Nat.lt_succ_of_lt (hbelow r' h)
  · rw [List.mem_singleton.mp h]
    omega

/-- The row an `INSERT INTO documents` adds. -/
def KnowledgeBase.newDocument (kb : KnowledgeBase V) (fields : DocumentFields) : Document :=
  { fields with id := kb.nextDocument }

/-- `INSERT INTO documents .. RETURNING id`. -/
def KnowledgeBase.insertDocument (kb : KnowledgeBase V) (fields : DocumentFields) :
    KnowledgeBase V where
  documents := kb.documents ++ [kb.newDocument fields]
  chunks := kb.chunks
  nextDocument := kb.nextDocument + 1
  nextChunk := kb.nextChunk
  documents_nodup := nodup_serial kb.documents_nodup kb.documents_below rfl
  documents_below := below_serial kb.documents_below rfl
  chunks_nodup := kb.chunks_nodup
  chunks_below := kb.chunks_below
  chunks_owned := by
    intro c hc
    obtain ⟨d, hd, hid⟩ := kb.chunks_owned c hc
    exact ⟨d, List.mem_append_left _ hd, hid⟩

/-- The row is there once it is inserted, so chunks may refer to it. -/
theorem KnowledgeBase.newDocument_mem (kb : KnowledgeBase V) (fields : DocumentFields) :
    kb.newDocument fields ∈ (kb.insertDocument fields).documents :=
  List.mem_append_right _ (List.mem_singleton.mpr rfl)

/-- The row an `INSERT INTO chunks` adds. -/
def KnowledgeBase.newChunk (kb : KnowledgeBase V) (d : Document) (ordinal : Nat) (content : String)
    (embedding : V) : Chunk V where
  id := kb.nextChunk
  documentId := d.id
  ordinal := ordinal
  content := content
  embedding := embedding
  tenant := d.tenant
  service := d.service

/-- `INSERT INTO chunks`. -/
def KnowledgeBase.insertChunk (kb : KnowledgeBase V) (d : Document) (hd : d ∈ kb.documents)
    (ordinal : Nat) (content : String) (embedding : V) : KnowledgeBase V where
  documents := kb.documents
  chunks := kb.chunks ++ [kb.newChunk d ordinal content embedding]
  nextDocument := kb.nextDocument
  nextChunk := kb.nextChunk + 1
  documents_nodup := kb.documents_nodup
  documents_below := kb.documents_below
  chunks_nodup := nodup_serial kb.chunks_nodup kb.chunks_below rfl
  chunks_below := below_serial kb.chunks_below rfl
  chunks_owned := by
    intro c hc
    rcases List.mem_append.mp hc with hc | hc
    · exact kb.chunks_owned c hc
    · rw [List.mem_singleton.mp hc]
      exact ⟨d, hd, rfl, rfl⟩

/-! ## Writing a document

`upsert_chunks`, in spite of its name, only inserts. It writes the document's row and then a row for
every chunk; any of the statements may be refused, and the loop raises at the first that is. -/

/-- The services one ingestion talks to: the embedding model, and the database, which may refuse
the connection or any single statement. -/
structure Backend (V : Type) where
  embedTexts     : List String → Except Exc (List V)
  connect        : Option Exc := none
  rejectDocument : Document → Option Exc := fun _ => none
  rejectChunk    : Chunk V → Option Exc := fun _ => none

/-- The loop of `upsert_chunks` from `ordinal` on. `zip(.., strict=True)` raises when one of the
lists ends before the other, after the rows they have in common. -/
def insertChunks (b : Backend V) (d : Document) :
    (kb : KnowledgeBase V) → (hd : d ∈ kb.documents) → (ordinal : Nat) → List String → List V →
    Except Exc Unit × KnowledgeBase V
  | kb, _, _, [], [] => (.ok (), kb)
  | kb, hd, ordinal, content :: chunks, vec :: vectors =>
    match b.rejectChunk (kb.newChunk d ordinal content vec) with
    | some e => (.error e, kb)
    | none   =>
      insertChunks b d (kb.insertChunk d hd ordinal content vec) hd (ordinal + 1) chunks vectors
  | kb, _, _, _, _ => (.error .valueError, kb)

/-- `upsert_chunks`: connect, insert the document, insert its chunks. -/
def upsertChunks (b : Backend V) (kb : KnowledgeBase V) (fields : DocumentFields)
    (chunks : List String) (vectors : List V) : Except Exc Unit × KnowledgeBase V :=
  match b.connect with
  | some e => (.error e, kb)
  | none   =>
    let d := kb.newDocument fields
    match b.rejectDocument d with
    | some e => (.error e, kb)
    | none   =>
      insertChunks b d (kb.insertDocument fields) (kb.newDocument_mem fields) 0 chunks vectors

/-- What a chunk row says about its document's text. -/
def Chunk.entry (c : Chunk V) : Nat × String := (c.ordinal, c.content)

/-- A text's chunks, numbered from `ordinal` on. -/
def entriesFrom (ordinal : Nat) : List String → List (Nat × String)
  | []      => []
  | c :: cs => (ordinal, c) :: entriesFrom (ordinal + 1) cs

/-- A backend that answers: one vector a text, no connection and no statement refused. What the code
relies on is stated here, and nowhere else. -/
structure Backend.Answers (b : Backend V) : Prop where
  embeds    : ∀ texts, ∃ vectors, b.embedTexts texts = .ok vectors ∧ vectors.length = texts.length
  connects  : b.connect = none
  documents : ∀ d, b.rejectDocument d = none
  chunks    : ∀ c, b.rejectChunk c = none

/-- The loop appends the document's rows and touches nothing else. -/
theorem insertChunks_spec {b : Backend V} (hb : b.Answers) {d : Document} {kb : KnowledgeBase V}
    (hd : d ∈ kb.documents) (ordinal : Nat) {chunks : List String} {vectors : List V}
    (hlen : vectors.length = chunks.length) :
    ∃ kb' rows, insertChunks b d kb hd ordinal chunks vectors = (.ok (), kb') ∧
      kb'.documents = kb.documents ∧ kb'.chunks = kb.chunks ++ rows ∧
      rows.map Chunk.entry = entriesFrom ordinal chunks ∧ ∀ c ∈ rows, c.documentId = d.id := by
  -- one row for each chunk, numbered from `ordinal` on
  induction chunks generalizing kb ordinal vectors with
  | nil =>
      obtain rfl := List.length_eq_zero_iff.mp hlen
      exact ⟨kb, [], rfl, rfl, (List.append_nil _).symm, rfl, by simp⟩
  | cons content chunks ih =>
      cases vectors with
      | nil => cases hlen
      | cons vec vectors =>
          have hlen' : vectors.length = chunks.length := Nat.succ.inj hlen
          obtain ⟨kb', rows, hrun, hdocs, hrows, hentries, howner⟩ :=
            @ih (kb.insertChunk d hd ordinal content vec) hd (ordinal + 1) _ hlen'
          refine ⟨kb', kb.newChunk d ordinal content vec :: rows, ?_, hdocs, ?_, ?_, ?_⟩
          · simp only [insertChunks, hb.chunks]
            exact hrun
          · rw [hrows]
            exact List.append_assoc ..
          · rw [List.map_cons, hentries]
            rfl
          · intro c hc
            rcases List.mem_cons.mp hc with rfl | hc
            · rfl
            · exact howner c hc

/-- Where nothing is refused, one document and its chunks are added, and nothing else changes. -/
theorem upsertChunks_spec {b : Backend V} (hb : b.Answers) (kb : KnowledgeBase V)
    (fields : DocumentFields) {chunks : List String} {vectors : List V}
    (hlen : vectors.length = chunks.length) :
    ∃ kb' rows, upsertChunks b kb fields chunks vectors = (.ok (), kb') ∧
      kb'.documents = kb.documents ++ [kb.newDocument fields] ∧ kb'.chunks = kb.chunks ++ rows ∧
      rows.map Chunk.entry = entriesFrom 0 chunks ∧ ∀ c ∈ rows, c.documentId = kb.nextDocument := by
  simp only [upsertChunks, hb.connects, hb.documents]
  exact insertChunks_spec hb (kb.newDocument_mem fields) 0 hlen

end SreAgent.Rag
