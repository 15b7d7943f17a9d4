import Mathlib.Data.List.Basic

/-!
# The origin of a URL

Where a request goes is decided by the scheme and the authority of its URL. A path that is put behind a
base does not change them, whatever is in it (`origin_append`), as long as the base does not end in a
slash and the path begins with just one.

The text is read as the clients do: the scheme runs to the first character that cannot be in one,
and the authority from the two slashes to the next slash, question mark or hash. User names and
ports are part of the authority here, which only makes the statements stronger.
-/

namespace Url

/-- `a`–`z`, digits and `+.-`. -/
def isSchemeChar (c : Char) : Bool := c.isAlphanum || c == '+' || c == '.' || c == '-'

def endsAuthority (c : Char) : Bool := c == '/' || c == '?' || c == '#'

/-- The authority of what follows the scheme. -/
def authority (rest : List Char) : Option (List Char) :=
  if rest.take 3 = [':', '/', '/'] then some ((rest.drop 3).takeWhile fun c => !endsAuthority c)
  else none

def origin (url : List Char) : Option (List Char × List Char) :=
  (authority (url.dropWhile isSchemeChar)).map fun host => (url.takeWhile isSchemeChar, host)

/-- A character that stops the search hides all that comes after it. -/
theorem takeWhile_append_stop {p : Char → Bool} {c : Char} (hc : p c = false) (as bs : List Char) :
    (as ++ c :: bs).takeWhile p = as.takeWhile p := by
  induction as with
  | nil => simp [hc]
  | cons a as ih =>
      rw [List.cons_append, List.takeWhile_cons, List.takeWhile_cons, ih]

/-- And what is left over then is the old rest with the new part behind it. -/
theorem dropWhile_append_stop {p : Char → Bool} {c : Char} (hc : p c = false) (as bs : List Char) :
    (as ++ c :: bs).dropWhile p = as.dropWhile p ++ c :: bs := by
  induction as with
  | nil => simp [hc]
  | cons a as ih =>
      rw [List.cons_append, List.dropWhile_cons, List.dropWhile_cons]
      split
      · exact ih
      · rfl

/-- What follows the scheme of the base is not changed either. -/
theorem authority_append {as path : List Char} {c : Char} (hbase : as.getLast? ≠ some '/')
    (hc : c ≠ '/') : authority (as ++ '/' :: c :: path) = authority as := by
  unfold authority
  -- by how much of `://` the base has: with less than all of it the two slashes would have to
  -- come from the path, which begins with just one
  rcases as with _ | ⟨a, _ | ⟨b, _ | ⟨d, rest⟩⟩⟩
  · rfl
  · -- a colon and one slash
    rw [if_neg (by simp [hc]), if_neg (by simp)]
  · -- the base would end in the first of two slashes
    have hb : b ≠ '/' := by
      intro hb
      exact hbase (by rw [hb]; rfl)
    rw [if_neg (by simp [hb]), if_neg (by simp)]
  · have hstop : (fun c => !endsAuthority c) '/' = false := by decide
    simp only [List.cons_append, List.take_succ_cons, List.take_zero, List.drop_succ_cons,
      List.drop_zero]
    rw [takeWhile_append_stop hstop]

/-- The end of a text is the end of what is left when something is dropped from its front. -/
theorem getLast?_dropWhile {p : Char → Bool} {d : Char} {cs : List Char}
    (h : (cs.dropWhile p).getLast? = some d) : cs.getLast? = some d := by
  obtain ⟨front, hfront⟩ := List.dropWhile_suffix p (l := cs)
  rw [← hfront, List.getLast?_append, h]
  rfl

/-- **A path does not change where a request goes**, if the base ends in no slash and the path
begins with one slash only. -/
theorem origin_append {base path : List Char} {c : Char} (hbase : base.getLast? ≠ some '/')
    (hc : c ≠ '/') : origin (base ++ '/' :: c :: path) = origin base := by
  have hslash : isSchemeChar '/' = false := by decide
  unfold origin
  rw [takeWhile_append_stop hslash, dropWhile_append_stop hslash,
    authority_append (fun h => hbase (getLast?_dropWhile h)) hc]

end Url
