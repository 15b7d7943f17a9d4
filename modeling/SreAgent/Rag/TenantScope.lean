import SreAgent.Rag.Retrieve

/-!
# Who sees a chunk

The list of tenants a search may read goes to the database as one text, joined by commas, and the
policy on `chunks` splits it at every comma. A name with a comma in it does not survive: the search
sees the chunks of the tenants its pieces name, and not its own (`visible_faithful_iff`).

The list of one empty name is a corner of its own. It is sent as the empty text, which the database
reads as no names at all.
-/

namespace SreAgent.Rag

variable {V : Type}

/-! ## What the policy shows

The pieces of the joined text are the pieces of the names, one name after the other. A tenant is
then let in by any name it is a piece of. -/

/-- The text that is sent, as characters. -/
theorem join_comma_toList (tenants : List String) :
    (Py.join "," tenants).toList = [','].intercalate (tenants.map String.toList) := by
  rw [Py.join, String.toList_ofList]
  rfl

/-- Only the empty list and the list of the empty name are sent as the empty text. -/
theorem join_comma_eq_empty {tenants : List String} :
    Py.join "," tenants = "" ↔ tenants = [] ∨ tenants = [""] := by
  rw [← String.toList_inj, join_comma_toList]
  cases tenants with
  | nil => simp
  | cons t ts =>
      cases ts with
      | nil => simp
      | cons t' ts => simp

/-- **The policy** shows a chunk whose tenant is a piece of a listed name. -/
theorem visible_iff (tenants : List String) (c : Chunk V) :
    visible tenants c = true ↔
      tenants ≠ [""] ∧ ∃ t ∈ tenants, c.tenant.toList ∈ Py.splitOn ',' t.toList := by
  rw [visible, stringToArray, List.contains_iff_mem]
  -- the empty text is the empty array, and not an array of one empty name
  by_cases hempty : Py.join "," tenants = ""
  · rw [if_pos hempty]
    rcases join_comma_eq_empty.mp hempty with rfl | rfl <;> simp
  · rw [if_neg hempty]
    obtain ⟨hnil, hblank⟩ := not_or.mp (mt join_comma_eq_empty.mpr hempty)
    have hne : tenants.map String.toList ≠ [] := fun h => hnil (List.map_eq_nil_iff.mp h)
    rw [join_comma_toList, Py.splitOn_intercalate_flatMap ',' hne]
    simp only [List.mem_map, List.mem_flatMap, ne_eq, hblank, not_false_eq_true, true_and]
    constructor
    · rintro ⟨piece, ⟨w, ⟨t, ht, rfl⟩, hpiece⟩, hname⟩
      refine ⟨t, ht, ?_⟩
      rw [← hname, String.toList_ofList]
      exact hpiece
    · rintro ⟨t, ht, hpiece⟩
      exact ⟨c.tenant.toList, ⟨t.toList, ⟨t, ht, rfl⟩, hpiece⟩, String.ofList_toList⟩

/-! ## When it is the list

A listed name must be whole, or its own tenant is shut out; a name that is not listed must be no
piece of one that is, or it gets in. -/

/-- A tenant's name comes through the encoding: listed, it is whole; not listed, it is no piece of a
listed name. The list is sent to the database as one text, with commas between the names. -/
def ComesThrough (tenants : List String) (tenant : String) : Prop :=
  if tenant ∈ tenants then ',' ∉ tenant.toList ∧ tenants ≠ [""]
  else ∀ t ∈ tenants, tenant.toList ∉ Py.splitOn ',' t.toList

/-- **Exactly when the scope is encoded faithfully.** For every list of tenants and every chunk: the
policy shows the chunk iff its tenant is on the list, iff that tenant's name comes through. -/
theorem visible_faithful_iff (tenants : List String) (c : Chunk V) :
    (visible tenants c = true ↔ c.tenant ∈ tenants) ↔ ComesThrough tenants c.tenant := by
  rw [visible_iff, ComesThrough]
  split
  · next hlisted =>
    rw [iff_true_right hlisted]
    constructor
    · rintro ⟨hblank, t, ht, hpiece⟩
      exact ⟨Py.notMem_of_mem_splitOn hpiece, hblank⟩
    · rintro ⟨hwhole, hblank⟩
      refine ⟨hblank, c.tenant, hlisted, ?_⟩
      rw [Py.splitOn_of_notMem hwhole]
      exact List.mem_singleton.mpr rfl
  · next hother =>
    rw [iff_false_right hother]
    constructor
    · intro hhidden t ht hpiece
      refine hhidden ⟨?_, t, ht, hpiece⟩
      rintro rfl
      -- the one piece of the empty name is the empty name, which would be listed
      rw [List.mem_singleton.mp ht] at hpiece
      have hempty : c.tenant = "" := String.toList_inj.mp (List.mem_singleton.mp hpiece)
      exact hother (hempty ▸ List.mem_singleton.mpr rfl)
    · rintro hall ⟨-, t, ht, hpiece⟩
      exact hall t ht hpiece

/-- Names without commas come through, if there is more to send than the empty name. -/
theorem visible_of_whole {tenants : List String} (hwhole : ∀ t ∈ tenants, ',' ∉ t.toList)
    (hblank : tenants ≠ [""]) (c : Chunk V) : visible tenants c = true ↔ c.tenant ∈ tenants := by
  rw [visible_iff]
  constructor
  · rintro ⟨-, t, ht, hpiece⟩
    rw [Py.splitOn_of_notMem (hwhole t ht), List.mem_singleton] at hpiece
    rwa [String.toList_inj.mp hpiece]
  · intro hlisted
    refine ⟨hblank, c.tenant, hlisted, ?_⟩
    rw [Py.splitOn_of_notMem (hwhole _ hlisted)]
    exact List.mem_singleton.mpr rfl

/-- A chunk of the tenant `payments`. -/
def paymentsChunk : Chunk Unit where
  id := 1
  documentId := 1
  ordinal := 0
  content := "payments-only"
  embedding := ()
  tenant := "payments"
  service := none

/-- A tenant called `checkout,payments` reads what `payments` wrote. -/
theorem comma_widens :
    ¬ (visible ["checkout,payments"] paymentsChunk = true ↔
      paymentsChunk.tenant ∈ ["checkout,payments"]) := by decide

end SreAgent.Rag
