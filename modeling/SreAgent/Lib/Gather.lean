import Mathlib.Data.List.Basic

/-!
# Loops that gather

A loop that adds what each item yields to one list, and stops at the first item that raises. It returns
iff no item raises (`gather_ok_iff`), and then everything is there in order (`gather_ok`); if all raise
alike, it does not matter which one comes first (`gather_error`).

Several functions of the code are loops of this form, written with `append` or `extend`. Once a loop
is a `gather`, a claim about the list it returns is a claim about one item (`mem_of_gather`).
-/

namespace Gather

universe u

variable {α : Type*} {β ε : Type u} {f : α → Except ε (List β)} {l : List α}

/-- Each item in turn, and what they yield in one list. -/
def gather (f : α → Except ε (List β)) (l : List α) : Except ε (List β) := do
  let found ← l.mapM f
  pure found.flatten

/-- What the first item yields comes before what the others do. -/
theorem gather_cons_ok {a : α} {found rest : List β} (h : f a = .ok found)
    (hrest : gather f l = .ok rest) : gather f (a :: l) = .ok (found ++ rest) := by
  rw [gather] at hrest ⊢
  rw [List.mapM_cons, h]
  cases hmap : l.mapM f with
  | error e => rw [hmap] at hrest; cases hrest
  | ok founds =>
      rw [hmap] at hrest
      obtain rfl := Except.ok.inj hrest
      rfl

/-- An item that raises ends the loop. -/
theorem gather_cons_error {a : α} {e : ε} (h : f a = .error e) : gather f (a :: l) = .error e := by
  rw [gather, List.mapM_cons, h]
  rfl

/-- So does a later one, and what was gathered is lost. -/
theorem gather_rest_error {a : α} {found : List β} {e : ε} (h : f a = .ok found)
    (hrest : gather f l = .error e) : gather f (a :: l) = .error e := by
  rw [gather] at hrest ⊢
  rw [List.mapM_cons, h]
  cases hmap : l.mapM f with
  | error e' => rw [hmap] at hrest; exact hrest
  | ok founds => rw [hmap] at hrest; cases hrest

/-- **Where no item raises**, everything is gathered, in the order of the items. -/
theorem gather_ok {g : α → List β} (h : ∀ a ∈ l, f a = .ok (g a)) : gather f l = .ok (l.flatMap g) := by
  induction l with
  | nil => rfl
  | cons a l ih =>
      rw [List.flatMap_cons]
      exact gather_cons_ok (h a List.mem_cons_self) (ih fun b hb => h b (List.mem_cons_of_mem _ hb))

/-- Where all raise alike, the loop raises so if any of them does. -/
theorem gather_error {e : ε} (hf : ∀ a ∈ l, f a = .error e ∨ ∃ found, f a = .ok found)
    (h : ∃ a ∈ l, f a = .error e) : gather f l = .error e := by
  induction l with
  | nil =>
      obtain ⟨a, ha, -⟩ := h
      cases ha
  | cons a l ih =>
      -- the first item raises, and raises like all others, or one behind it does
      rcases hf a List.mem_cons_self with hraises | ⟨found, hfound⟩
      · exact gather_cons_error hraises
      · apply gather_rest_error hfound
        apply ih fun b hb => hf b (List.mem_cons_of_mem _ hb)
        obtain ⟨b, hb, hraises⟩ := h
        rcases List.mem_cons.mp hb with rfl | hb
        · rw [hfound] at hraises; cases hraises
        · exact ⟨b, hb, hraises⟩

/-- The loop returns iff no item raises. -/
theorem gather_ok_iff : (∃ r, gather f l = .ok r) ↔ ∀ a ∈ l, ∃ found, f a = .ok found := by
  constructor
  · rintro ⟨r, hr⟩
    -- if the whole returns, the first item did, and so did the rest
    induction l generalizing r with
    | nil => simp
    | cons a l ih =>
        cases ha : f a with
        | error e => rw [gather_cons_error ha] at hr; cases hr
        | ok found =>
            cases hrest : gather f l with
            | error e => rw [gather_rest_error ha hrest] at hr; cases hr
            | ok rest =>
                intro b hb
                rcases List.mem_cons.mp hb with rfl | hb
                · exact ⟨found, ha⟩
                · exact ih rest hrest b hb
  · intro h
    induction l with
    | nil => exact ⟨[], rfl⟩
    | cons a l ih =>
        obtain ⟨found, ha⟩ := h a List.mem_cons_self
        obtain ⟨rest, hrest⟩ := ih fun b hb => h b (List.mem_cons_of_mem _ hb)
        exact ⟨_, gather_cons_ok ha hrest⟩

/-- What is gathered comes from some item. -/
theorem mem_of_gather {r : List β} (h : gather f l = .ok r) {b : β} :
    b ∈ r ↔ ∃ a ∈ l, ∃ found, f a = .ok found ∧ b ∈ found := by
  induction l generalizing r with
  | nil =>
      obtain rfl := Except.ok.inj h
      simp
  | cons a l ih =>  -- the items cannot raise, since the whole returns
      cases ha : f a with
      | error e => rw [gather_cons_error ha] at h; cases h
      | ok found =>
          cases hrest : gather f l with
          | error e => rw [gather_rest_error ha hrest] at h; cases h
          | ok rest =>
              obtain rfl := Except.ok.inj ((gather_cons_ok ha hrest).symm.trans h)
              rw [List.mem_append, ih hrest]
              simp [ha]

end Gather
