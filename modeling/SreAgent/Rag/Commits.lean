import SreAgent.Rag.Ingest

/-!
# What a failed ingestion leaves behind

The connection commits each statement on its own. As long as the document's row is not written a
failed ingestion has changed nothing; from then on it leaves that row and the chunk rows accepted so
far (`ingestText_leaves`), and no other row of either table changes.

Points of failure are: the chunking, the embedding, the connection, the statement for the document,
a statement for a chunk, and a list of vectors that is too short or too long. All of them are
covered by which rows the loop takes, since the loop stops at the first it cannot.
-/

namespace SreAgent.Rag

variable {V : Type}

/-- The rows `upsert_chunks` sets out to insert for document `d`, from serial number `next` and
`ordinal` on. -/
def chunkRows (d : Document) : (next ordinal : Nat) → List String → List V → List (Chunk V)
  | next, ordinal, content :: chunks, vec :: vectors =>
    { id := next
      documentId := d.id
      ordinal := ordinal
      content := content
      embedding := vec
      tenant := d.tenant
      service := d.service } :: chunkRows d (next + 1) (ordinal + 1) chunks vectors
  | _, _, _, _ => []

/-- Those before the first one the database refuses. -/
def Backend.taken (b : Backend V) (rows : List (Chunk V)) : List (Chunk V) :=
  rows.takeWhile fun c => (b.rejectChunk c).isNone

/-- Everything up to the `INSERT INTO documents` goes well. -/
structure DocumentWritten (b : Backend V) (kb : KnowledgeBase V) (call : IngestCall)
    (chunks : List String) (vectors : List V) : Prop where
  chunked   : chunkDocument call.text maxTokensDefault = .ok chunks
  nonempty  : chunks ≠ []
  embedded  : b.embedTexts chunks = .ok vectors
  connected : b.connect = none
  accepted  : b.rejectDocument (kb.newDocument call.fields) = none

/-! ## What is written

The rows that are meant to be written are known beforehand, serial numbers included. What is written
of them is a prefix. -/

/-- **The loop** appends the rows the database takes, whether or not it comes to an end. -/
theorem insertChunks_taken (b : Backend V) {d : Document} {kb : KnowledgeBase V}
    (hd : d ∈ kb.documents) (ordinal : Nat) (chunks : List String) (vectors : List V) :
    (insertChunks b d kb hd ordinal chunks vectors).2.documents = kb.documents ∧
      (insertChunks b d kb hd ordinal chunks vectors).2.chunks =
        kb.chunks ++ b.taken (chunkRows d kb.nextChunk ordinal chunks vectors) := by
  induction chunks generalizing kb ordinal vectors with
  | nil => cases vectors <;> exact ⟨rfl, (List.append_nil _).symm⟩
  | cons content chunks ih =>
      cases vectors with
      | nil => exact ⟨rfl, (List.append_nil _).symm⟩
      | cons vec vectors =>
          have hrow : chunkRows d kb.nextChunk ordinal (content :: chunks) (vec :: vectors) =
              kb.newChunk d ordinal content vec ::
                chunkRows d (kb.nextChunk + 1) (ordinal + 1) chunks vectors := rfl
          rw [insertChunks, hrow, Backend.taken, List.takeWhile_cons]
          cases hreject : b.rejectChunk (kb.newChunk d ordinal content vec) with
          -- the statement raises, and the rows before it are committed
          | some e => exact ⟨rfl, (List.append_nil _).symm⟩
          | none =>  -- the row is there, and the rest goes on behind it
              obtain ⟨hdocs, hchunks⟩ :=
                @ih (kb.insertChunk d hd ordinal content vec) hd (ordinal + 1) vectors
              refine ⟨hdocs, hchunks.trans ?_⟩
              exact List.append_assoc ..

/-- Before the document's row is written nothing is. -/
theorem ingestText_unwritten {b : Backend V} {kb : KnowledgeBase V} {call : IngestCall}
    (h : ∀ chunks vectors, ¬ DocumentWritten b kb call chunks vectors) :
    (ingestText b kb call).2 = kb := by
  unfold ingestText  -- every way to end before the document's row is written leaves the base alone
  cases hchunks : chunkDocument call.text maxTokensDefault with
  | error e => rfl
  | ok chunks =>
      cases chunks with
      | nil => rfl
      | cons content chunks =>
          cases hvectors : b.embedTexts (content :: chunks) with
          | error e => simp [hvectors]
          | ok vectors =>
              cases hconnect : b.connect with
              | some e => simp [hvectors, upsertChunks, hconnect]
              | none =>
                  cases hreject : b.rejectDocument (kb.newDocument call.fields) with
                  | some e => simp [hvectors, upsertChunks, hconnect, hreject]
                  | none =>
                      exact absurd ⟨hchunks, List.cons_ne_nil _ _, hvectors, hconnect, hreject⟩
                        (h (content :: chunks) vectors)

/-- Afterwards the tables have grown by that row and the chunk rows taken. -/
theorem ingestText_written {b : Backend V} {kb : KnowledgeBase V} {call : IngestCall}
    {chunks : List String} {vectors : List V} (h : DocumentWritten b kb call chunks vectors) :
    (ingestText b kb call).2.documents = kb.documents ++ [kb.newDocument call.fields] ∧
      (ingestText b kb call).2.chunks = kb.chunks ++
        b.taken (chunkRows (kb.newDocument call.fields) kb.nextChunk 0 chunks vectors) := by
  -- nothing happens before the first chunk but the row of the document
  have hstate : (ingestText b kb call).2 =
      (insertChunks b (kb.newDocument call.fields) (kb.insertDocument call.fields)
        (kb.newDocument_mem call.fields) 0 chunks vectors).2 := by
    have hne : chunks.isEmpty = false := by simpa using h.nonempty
    simp only [ingestText, h.chunked, hne, Bool.false_eq_true, if_false, h.embedded, upsertChunks,
      h.connected, h.accepted]
    split
    · next heq => rw [heq]
    · next heq => rw [heq]
  rw [hstate]
  exact insertChunks_taken b (kb.newDocument_mem call.fields) 0 chunks vectors

/-- **What a failure leaves.** For every base, document and point of failure: both tables as they
were, if the document's row was not written; that row and the chunk rows before the point of
failure, if it was. -/
theorem ingestText_leaves {b : Backend V} {kb kb' : KnowledgeBase V} {call : IngestCall} {e : Exc}
    (h : ingestText b kb call = (.error e, kb')) :
    ((∀ chunks vectors, ¬ DocumentWritten b kb call chunks vectors) →
        kb'.documents = kb.documents ∧ kb'.chunks = kb.chunks) ∧
      ∀ chunks vectors, DocumentWritten b kb call chunks vectors →
        kb'.documents = kb.documents ++ [kb.newDocument call.fields] ∧
          kb'.chunks = kb.chunks ++
            b.taken (chunkRows (kb.newDocument call.fields) kb.nextChunk 0 chunks vectors) := by
  have hstate : (ingestText b kb call).2 = kb' := congrArg Prod.snd h
  rw [← hstate]
  constructor
  · intro hnot
    rw [ingestText_unwritten hnot]
    exact ⟨rfl, rfl⟩
  · intro chunks vectors hwritten
    exact ingestText_written hwritten

/-- An embedding service that loses every text. -/
def lossyBackend : Backend Unit where
  embedTexts _ := .ok []

/-- The ingestion fails for want of vectors, and its document stays. -/
theorem lossy_leaves_document :
    ∃ e kb', ingestText lossyBackend .empty demoRunbook = (.error e, kb') ∧
      kb'.documents ≠ (KnowledgeBase.empty (V := Unit)).documents :=
  ⟨.valueError, (KnowledgeBase.empty (V := Unit)).insertDocument demoRunbook.fields, rfl,
    List.cons_ne_nil _ _⟩

theorem ingestText_leaves_lossy :
    ∃ kb', ingestText lossyBackend .empty demoRunbook = (.error .valueError, kb') ∧
      ((∀ chunks vectors, ¬ DocumentWritten lossyBackend .empty demoRunbook chunks vectors) →
          kb'.documents = [] ∧ kb'.chunks = []) ∧
        ∀ chunks vectors, DocumentWritten lossyBackend .empty demoRunbook chunks vectors →
          kb'.documents = [KnowledgeBase.newDocument (V := Unit) .empty demoRunbook.fields] ∧
            kb'.chunks = lossyBackend.taken
              (chunkRows (KnowledgeBase.newDocument (V := Unit) .empty demoRunbook.fields) 1 0
                chunks vectors) :=
  ⟨(KnowledgeBase.empty (V := Unit)).insertDocument demoRunbook.fields, rfl, ingestText_leaves rfl⟩

end SreAgent.Rag
