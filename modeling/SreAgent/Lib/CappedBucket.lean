import Mathlib.Algebra.Order.Ring.Defs
import Mathlib.Algebra.BigOperators.Group.List.Basic
import Mathlib.Tactic.Linarith

/-!
# Capped buckets

The arithmetic behind a token bucket, over any ordered ring: a level that grows at a fixed `rate`,
never above `cap`, and from which amounts are drawn. Unfolding the cap at every draw turns the
level into a minimum over all past windows (`le_level_iff`): `x` is still there exactly when no
window ending now would be overdrawn by taking it. Nothing is assumed of the signs of rate, cap or
amounts, nor that time only moves forward.

The history is newest first, because the level is computed that way: the last draw is the one whose
time counts for the refill. A window in the statements below is a stretch of the history from some
draw up to now.
-/

namespace CappedBucket

variable {α : Type*} [CommRing α] [LinearOrder α]

/-- `amount` was taken at `time`. -/
structure Draw (α : Type*) where
  time : α
  amount : α

/-- What `level` grows to in `elapsed` time. -/
def refill (cap rate level elapsed : α) : α := min cap (level + elapsed * rate)

/-- The level at `now` after the draws `hist`, newest first. Before any draw the bucket is full. -/
def level (cap rate : α) : List (Draw α) → α → α
  | [],      _   => cap
  | d :: ds, now => refill cap rate (level cap rate ds d.time - d.amount) (now - d.time)

def drawn (ds : List (Draw α)) : α := (ds.map Draw.amount).sum

omit [LinearOrder α] in
@[simp] theorem drawn_nil : drawn ([] : List (Draw α)) = 0 := rfl

omit [LinearOrder α] in
@[simp] theorem drawn_cons (d : Draw α) (ds : List (Draw α)) :
    drawn (d :: ds) = d.amount + drawn ds := by
  simp [drawn]

@[simp] theorem level_nil (cap rate now : α) : level cap rate [] now = cap := rfl

/-- The level after a draw is what the bucket held then, less the draw, refilled since. -/
theorem level_cons (cap rate : α) (d : Draw α) (ds : List (Draw α)) (now : α) :
    level cap rate (d :: ds) now =
      refill cap rate (level cap rate ds d.time - d.amount) (now - d.time) := rfl

section Order

variable [IsStrictOrderedRing α]

/-- An amount fits under the refilled level if it fits under the cap and, less the refill, under
what was there. -/
theorem le_refill_iff {cap rate level elapsed x : α} :
    x ≤ refill cap rate level elapsed ↔ x ≤ cap ∧ x - elapsed * rate ≤ level := by
  simp [refill]

/-- A bucket left alone until the rate alone fills it is full, whatever was in it. -/
theorem refill_eq_cap {cap rate level elapsed : α} (hl : 0 ≤ level)
    (hfull : cap ≤ elapsed * rate) : refill cap rate level elapsed = cap := by
  have hle : cap ≤ level + elapsed * rate := by linarith
  exact min_eq_left hle

/-- A bucket that is not overdrawn does not become so by waiting. -/
theorem refill_nonneg {cap rate level elapsed : α} (hc : 0 ≤ cap) (hr : 0 ≤ rate)
    (hl : 0 ≤ level) (he : 0 ≤ elapsed) : 0 ≤ refill cap rate level elapsed :=
  le_min hc (add_nonneg hl (mul_nonneg he hr))

/-- **The level is the tightest window.** `x` fits under the level at `now` iff it fits under the
cap and, for every past draw `d`, `x` and all that was drawn from `d` on fit under what a full
bucket would hold had it been left to grow since `d`. By induction on the history: the newest draw
moves its own amount and the growth since it to the other side, and the older windows are the
induction hypothesis at that shifted `x`. -/
theorem le_level_iff {cap rate : α} {hist : List (Draw α)} {now x : α} :
    x ≤ level cap rate hist now ↔
      x ≤ cap ∧ ∀ newer d older, hist = newer ++ d :: older →
        x + drawn (newer ++ [d]) ≤ cap + rate * (now - d.time) := by
  induction hist generalizing now x with
  | nil => simp
  | cons e es ih =>
      rw [level_cons, le_refill_iff, le_sub_iff_add_le, ih]
      refine and_congr_right fun _ => ⟨?_, fun h => ⟨?_, ?_⟩⟩
      -- a window starts at the newest draw or at an older one
      · rintro ⟨hcap, hold⟩ newer d older heq
        cases newer with
        | nil =>
            obtain ⟨rfl, rfl⟩ := List.cons.inj heq
            simp only [List.nil_append, drawn_cons, drawn_nil]
            linarith
        | cons e' newer =>
            obtain ⟨rfl, rfl⟩ := List.cons.inj heq
            have hwin := hold newer d older rfl
            simp only [List.cons_append, drawn_cons]
            linarith
      · have hwin := h [] e es rfl
        simp only [List.nil_append, drawn_cons, drawn_nil] at hwin
        linarith
      · intro newer d older heq
        have hwin := h (e :: newer) d older (by rw [heq]; rfl)
        simp only [List.cons_append, drawn_cons] at hwin
        linarith

/-- The same for draws of one each: one more is still there iff, for every past draw, the draws
from it on and the new one are no more than a full bucket and what the rate yields meanwhile. -/
theorem one_le_level_units_iff {β : Type*} {cap rate now : α} {time : β → α} {hist : List β} :
    1 ≤ level cap rate (hist.map fun b => ⟨time b, 1⟩) now ↔
      1 ≤ cap ∧ ∀ newer d older, hist = newer ++ d :: older →
        (newer.length + 2 : α) ≤ cap + rate * (now - time d) := by
  -- what is drawn in units is a number of draws
  have count : ∀ (l : List β) (b : β),
      drawn ((l.map fun b => (⟨time b, 1⟩ : Draw α)) ++ [⟨time b, 1⟩]) = (l.length : α) + 1 := by
    intro l b
    simp [drawn, Function.comp_def]
  rw [le_level_iff]
  refine and_congr_right fun _ => ⟨?_, ?_⟩
  · rintro h newer d older rfl
    have hwin := h (newer.map fun b => ⟨time b, 1⟩) ⟨time d, 1⟩ (older.map fun b => ⟨time b, 1⟩)
      (by simp)
    rw [count] at hwin
    linarith
  · intro h newer d older heq
    obtain ⟨newer, rest, rfl, rfl, hrest⟩ := List.map_eq_append_iff.mp heq
    obtain ⟨d, older, rfl, rfl, rfl⟩ := List.map_eq_cons_iff.mp hrest
    have hwin := h newer d older rfl
    rw [count]
    linarith

/-! ## What a window can draw

The level bounds what is left; a limit on a window bounds what is gone. The two meet in a draw that
took anything: it fitted under the level at its time, and so did everything drawn in the window
before it. -/

/-- No draw took more than there was. A draw of nothing is always possible. -/
def Sound (cap rate : α) (hist : List (Draw α)) : Prop :=
  ∀ newer d older, hist = newer ++ d :: older →
    d.amount = 0 ∨ d.amount ≤ level cap rate older d.time

omit [IsStrictOrderedRing α] in
theorem sound_nil (cap rate : α) : Sound cap rate [] := by
  intro newer d older h
  simp at h

omit [IsStrictOrderedRing α] in
/-- One more draw that was possible keeps a history sound. -/
theorem Sound.cons {cap rate : α} {hist : List (Draw α)} {d : Draw α} (h : Sound cap rate hist)
    (hd : d.amount = 0 ∨ d.amount ≤ level cap rate hist d.time) : Sound cap rate (d :: hist) := by
  intro newer e older heq
  cases newer with
  | nil =>
      obtain ⟨rfl, rfl⟩ := List.cons.inj heq
      exact hd
  | cons f newer =>
      obtain ⟨rfl, rfl⟩ := List.cons.inj heq
      exact h newer e older rfl

/-- **A window draws no more than a full bucket and what the rate yields over its length.** By
induction on the window, newest first: the newest draw that took anything fitted under the level, which
bounds it together with everything from the oldest draw of the window on. -/
theorem Sound.drawn_le {cap rate start length : α} {newer window older : List (Draw α)}
    (hcap : 0 ≤ cap) (hrate : 0 ≤ rate) (hlength : 0 ≤ length)
    (h : Sound cap rate (newer ++ (window ++ older)))
    (htime : ∀ d ∈ window, start ≤ d.time ∧ d.time ≤ start + length) :
    drawn window ≤ cap + rate * length := by
  induction window generalizing newer with
  | nil =>
      show (0 : α) ≤ cap + rate * length
      exact add_nonneg hcap (mul_nonneg hrate hlength)
  | cons d window ih =>
      -- a draw of nothing adds nothing; any other was under the level
      rcases h newer d (window ++ older) rfl with hzero | hle
      · have hsound : Sound cap rate ((newer ++ [d]) ++ (window ++ older)) := by simpa using h
        have hrest := ih hsound fun e he => htime e (List.mem_cons_of_mem _ he)
        rw [drawn_cons, hzero, zero_add]
        exact hrest
      · obtain ⟨hfull, hwindows⟩ := le_level_iff.mp hle
        rcases List.eq_nil_or_concat window with rfl | ⟨inner, first, rfl⟩
        · have hyield : 0 ≤ rate * length := mul_nonneg hrate hlength
          rw [drawn_cons, drawn_nil]
          linarith
        · have hwin := hwindows inner first older (by simp)
          have hd := htime d (List.mem_cons_self ..)
          have hfirst := htime first (by simp)
          have helapsed : d.time - first.time ≤ length := by linarith
          have hyield := mul_le_mul_of_nonneg_left helapsed hrate
          rw [drawn_cons]
          simp only [List.concat_eq_append] at hwin ⊢
          linarith

end Order

end CappedBucket
