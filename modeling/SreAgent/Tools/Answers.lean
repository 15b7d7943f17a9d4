import SreAgent.Tools.Gitops

/-!
# Reading an answer

What the tools do with the JSON a backend answers: subscripts, slices and loops. Nothing is known of the
answer, so each may raise. Rows of answers keep the values they are made of as they came.

A subscript of something that is no object is a `TypeError`, a missing key a `KeyError`, and `.get`
of something that is no object an `AttributeError`. Which of them a tool ends with is part of what
it is seen to do, since the text of an exception is what its caller reads.

Slices with a negative bound do not raise. They clip, and zero is no special case to Python: the
last zero items are all of them.
-/

namespace SreAgent.Tools

open Py (Json)

/-- `v[key]`, for a string. -/
def item (v : Json) (key : String) : Except Exc Json :=
  match v with
  | .obj members => (Py.member members key).elim (.error (.keyError (Py.repr key))) .ok
  | _            => .error .typeError

/-- The keys of an object, each where it came first. -/
def keysOf (members : List (String × Json)) : List String :=
  (members.map Prod.fst).reverse.dedup.reverse

/-- The characters of a string, each a string. -/
def characters (s : String) : List Json := s.toList.map fun c => .str (String.singleton c)

/-- `for x in v`. -/
def iterate : Json → Except Exc (List Json)
  | .arr items   => .ok items
  | .obj members => .ok ((keysOf members).map .str)
  | .str s       => .ok (characters s)
  | _            => .error .typeError

/-- `v[:n]`. -/
def firstOf (n : Nat) : Json → Except Exc Json
  | .arr items => .ok (.arr (items.take n))
  | .str s     => .ok (.str (Py.slice s n))
  | _          => .error .typeError

/-- `items[-n:]`. -/
def fromEnd {α : Type} (n : ℤ) (items : List α) : List α :=
  if 0 < n then items.drop (items.length - n.toNat) else items.drop (-n).toNat

/-- `v[-n:]`, as the list of what a loop over it sees. -/
def lastOf (n : ℤ) : Json → Except Exc (List Json)
  | .arr items => .ok (fromEnd n items)
  | .str s     => .ok (fromEnd n (characters s))
  | _          => .error .typeError

/-- `v if isinstance(v, list) else []`. -/
def asList : Json → List Json
  | .arr items => items
  | _          => []

/-- `v or default`. -/
def orElse (v default : Json) : Json := if v.truthy then v else default

/-- `s.splitlines()[0]`. -/
def firstLine : Json → Except Exc String
  | .str s => (Py.splitlines s).head?.elim (.error (.other "IndexError")) .ok
  | _      => .error (.attributeError "object has no attribute 'splitlines'")

/-! ## Rows and slices

A tool that makes rows of entries makes one row of each or none at all, since the first entry it
cannot read ends it. So a row is found at the place of its entry, and statements about a table are
statements about the entries behind it. -/

/-- Rows are read one for one. -/
theorem rows_forall₂ {α β : Type} {row : α → Except Exc β} {items : List α} {rows : List β}
    (h : items.mapM row = .ok rows) : List.Forall₂ (fun x y => row x = .ok y) items rows := by
  induction items generalizing rows with
  | nil =>
      obtain rfl : [] = rows := Except.ok.inj h
      exact .nil
  | cons x items ih =>
      rw [List.mapM_cons] at h
      obtain ⟨y, hy, h⟩ := bind_ok h
      obtain ⟨ys, hys, h⟩ := bind_ok h
      obtain rfl : y :: ys = rows := Except.ok.inj h
      exact .cons hy (ih hys)

/-- What is cut off is cut off in front. -/
theorem fromEnd_eq_drop {α : Type} (n : ℤ) (items : List α) : ∃ k, fromEnd n items = items.drop k := by
  unfold fromEnd
  split
  · exact ⟨_, rfl⟩
  · exact ⟨_, rfl⟩

/-- Two items or none are left of two, unless one is asked for or some are to be skipped. -/
theorem length_fromEnd {α : Type} {n : ℤ} (hn : 0 ≤ n) (hone : n ≠ 1) (items : List α) :
    (fromEnd n items).length < 2 ↔ items.length < 2 := by
  unfold fromEnd
  split <;> rw [List.length_drop] <;> omega

/-- From behind, the places are the same. -/
theorem reverse_drop_getElem? {α : Type} {items : List α} {k i : Nat} {x : α}
    (h : (items.drop k).reverse[i]? = some x) : items.reverse[i]? = some x := by
  rw [List.reverse_drop, List.getElem?_take] at h
  split at h
  · exact h
  · cases h

end SreAgent.Tools
