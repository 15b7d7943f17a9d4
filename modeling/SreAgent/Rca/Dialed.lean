import SreAgent.Rca.Endpoints

/-!
# The host that was dialed

`_parse_db_host` looks for an assignment to `host` before it looks for a name in front of a port. The
end of `localhost` and the colon behind it read as such an assignment, of the port. `parseDbHost_iff`
says which host names are found in the text of a refused connection.

The text is the one Go's dialer writes. It has three colons, and the first regular expression looks
in front of every one of them.
-/

namespace SreAgent.Rca

/-! ## Host names and ports

The shape of a name is a structure, so that the theorem is about every host name and has no
hypotheses. -/

/-- A label of a host name: small letters, digits and inner hyphens. -/
structure IsLabel (label : String) : Prop where
  chars : ∀ c ∈ label.toList, Py.isLowerAlnum c = true ∨ c = '-'
  first : label.toList.head?.any Py.isLowerAlnum = true
  last  : label.toList.getLast?.any Py.isLowerAlnum = true

/-- A lower-case host name, of any length. -/
structure HostName where
  labels  : List String
  ne_nil  : labels ≠ []
  isLabel : ∀ label ∈ labels, IsLabel label

/-- The labels, joined by dots. -/
def HostName.text (h : HostName) : String := Py.join "." h.labels

/-- A port of two to five digits. -/
structure Port where
  text    : String
  isDigit : ∀ c ∈ text.toList, c.isDigit = true
  two_le  : 2 ≤ text.toList.length
  le_five : text.toList.length ≤ 5

/-- The text of a refused connection. -/
def refusal (h : HostName) (p : Port) : String :=
  "dial tcp " ++ h.text ++ ":" ++ p.text ++ ": connect: connection refused"

variable (h : HostName) (p : Port)

/-- A name, as characters. -/
theorem HostName.toList_text : h.text.toList = ['.'].intercalate (h.labels.map String.toList) :=
  String.toList_ofList

/-- The text, cut where the host begins and ends. -/
theorem toList_refusal : (refusal h p).toList = "dial tcp ".toList ++ (h.text.toList ++
    ':' :: (p.text.toList ++ ": connect: connection refused".toList)) := by
  simp [refusal]

/-! ## What a host name looks like

All its characters are host characters, it begins and ends with a letter or digit, and it is
followed by a colon. So the second expression takes exactly the name. -/

/-- A label is not empty. -/
theorem IsLabel.ne_nil {label : String} (hl : IsLabel label) : label.toList ≠ [] := by
  intro hnil
  have hfirst := hl.first
  rw [hnil] at hfirst
  cases hfirst

/-- Small letters and digits are host characters. -/
theorem isHostChar_of_isLowerAlnum {c : Char} (hc : Py.isLowerAlnum c = true) : isHostChar c = true := by
  rw [isHostChar, hc]
  rfl

namespace HostName

theorem hostChars : ∀ c ∈ h.text.toList, isHostChar c = true := by
  intro c hc
  rw [toList_text] at hc
  rcases Py.mem_of_mem_intercalate hc with rfl | ⟨w, hw, hcw⟩
  · rfl
  · obtain ⟨label, hlabel, rfl⟩ := List.mem_map.mp hw
    rcases (h.isLabel label hlabel).chars c hcw with halnum | rfl
    · exact isHostChar_of_isLowerAlnum halnum
    · rfl

theorem first : h.text.toList.head?.any Py.isLowerAlnum = true := by
  obtain ⟨label, labels, hlabels⟩ := List.exists_cons_of_ne_nil h.ne_nil
  have hl : IsLabel label := h.isLabel label (by rw [hlabels]; exact List.mem_cons_self)
  rw [toList_text, hlabels, List.map_cons, Py.head?_intercalate '.' hl.ne_nil]
  exact hl.first

theorem last : h.text.toList.getLast?.any Py.isLowerAlnum = true := by
  have hl : IsLabel (h.labels.getLast h.ne_nil) := h.isLabel _ (List.getLast_mem h.ne_nil)
  have hlast : (h.labels.map String.toList).getLast? = some (h.labels.getLast h.ne_nil).toList := by
    rw [List.getLast?_map, List.getLast?_eq_some_getLast h.ne_nil]
    rfl
  rw [toList_text, Py.getLast?_intercalate '.' hl.ne_nil hlast]
  exact hl.last

end HostName

/-- A run that begins and ends with letters or digits is one of the pattern's. -/
theorem isHostRun_of_ends {run : List Char} (hfirst : run.head?.any Py.isLowerAlnum = true)
    (hlast : run.getLast?.any Py.isLowerAlnum = true) : isHostRun run = true := by
  have hdot : Py.isLowerAlnum '.' = false := by decide
  cases run with
  | nil => cases hfirst
  | cons c cs =>
      rw [isHostRun, hfirst, Bool.true_and, Bool.or_eq_true]
      by_cases hmem : '.' ∈ c :: cs
      · left
        rcases List.mem_cons.mp hmem with rfl | hcs
        · exact absurd hfirst (by simp [hdot])
        · -- the dot is not the last character either
          rcases List.eq_nil_or_concat cs with rfl | ⟨inner, d, rfl⟩
          · cases hcs
          · rw [List.concat_eq_append] at hcs hlast ⊢
            rw [← List.cons_append, List.getLast?_concat] at hlast
            rw [← List.cons_append, List.dropLast_concat, List.tail_cons, List.contains_iff_mem]
            rcases List.mem_append.mp hcs with hinner | hd
            · exact hinner
            · rw [← List.mem_singleton.mp hd] at hlast
              exact absurd hlast (by simp [hdot])
      · right
        simpa using hmem

/-- A name does not end in a dot, so nothing is stripped. -/
theorem rstrip_of_last {run : List Char} (hlast : run.getLast?.any Py.isLowerAlnum = true) :
    Py.rstrip '.' run = run := by
  rcases List.eq_nil_or_concat run with rfl | ⟨front, d, rfl⟩
  · cases hlast
  · rw [List.concat_eq_append] at hlast ⊢
    rw [Py.rstrip_concat, if_neg]
    rintro rfl  -- the last character is alphanumeric, so it is not a dot
    rw [List.getLast?_concat] at hlast
    exact absurd hlast (by decide)

namespace Port

theorem ne_nil : p.text.toList ≠ [] := by
  intro hnil
  have htwo := p.two_le
  rw [hnil] at htwo
  cases htwo

theorem hostChars : ∀ c ∈ p.text.toList, isHostChar c = true := fun c hc =>
  isHostChar_of_isLowerAlnum (Py.isLowerAlnum_of_isDigit (p.isDigit c hc))

end Port

/-- A run of host characters ends at the colon, and the colon comes next. -/
theorem takeWhile_hostChars {run : List Char} (hrun : ∀ c ∈ run, isHostChar c = true)
    (rest : List Char) : (run ++ ':' :: rest).takeWhile isHostChar = run := by
  rw [List.takeWhile_append_of_pos hrun, List.takeWhile_cons_of_neg (by decide), List.append_nil]

theorem dropWhile_hostChars {run : List Char} (hrun : ∀ c ∈ run, isHostChar c = true)
    (rest : List Char) : (run ++ ':' :: rest).dropWhile isHostChar = ':' :: rest := by
  rw [List.dropWhile_append_of_pos hrun, List.dropWhile_cons_of_neg (by decide)]

/-! ## The name in front of the port

What the second expression finds, if it is asked. -/

/-- At the beginning of the name it finds the name. -/
theorem hostWithPort_refusal : hostWithPort (h.text.toList ++
    ':' :: (p.text.toList ++ ": connect: connection refused".toList)) = some h.text.toList := by
  -- the expression asks for two digits behind the colon, which every port here has
  obtain ⟨d, e, rest, hdigits⟩ : ∃ d e rest, p.text.toList = d :: e :: rest := by
    rcases htext : p.text.toList with _ | ⟨d, _ | ⟨e, rest⟩⟩
    · exact absurd p.two_le (by simp [htext])
    · exact absurd p.two_le (by simp [htext])
    · exact ⟨d, e, rest, rfl⟩
  have hd : Py.isDecimal d = true := Py.isDecimal_of_isDigit (p.isDigit d (by simp [hdigits]))
  have he : Py.isDecimal e = true := Py.isDecimal_of_isDigit (p.isDigit e (by simp [hdigits]))
  have htest : ((Py.isDecimal d && Py.isDecimal e) && isHostRun h.text.toList) = true := by
    rw [hd, he, isHostRun_of_ends h.first h.last]
    rfl
  rw [hostWithPort, takeWhile_hostChars h.hostChars, dropWhile_hostChars h.hostChars, hdigits]
  exact if_pos htest

/-- Neither `dial` nor `tcp` stands in front of a port. -/
theorem search_hostWithPort : search hostWithPort (refusal h p).toList = some h.text.toList := by
  have hskip : ∀ cs, search hostWithPort ("dial tcp ".toList ++ cs) = search hostWithPort cs :=
    fun cs => rfl
  rw [toList_refusal, hskip, search_eq_some_iff]
  exact ⟨[], _, rfl, hostWithPort_refusal h p, fun _ _ _ hlen => absurd hlen (Nat.not_lt_zero _)⟩

/-! ## What reads as an assignment

An assignment needs `host` in front of a sign. There is no `=` in the text, and of the three colons
two have other words in front of them. That leaves the colon of the port, with the end of the host
name. -/

/-- The colons of the text. -/
theorem colon_places {front rest : List Char} (heq : (refusal h p).toList = front ++ ':' :: rest) :
    (front = "dial tcp ".toList ++ h.text.toList ∧
        rest = p.text.toList ++ ": connect: connection refused".toList) ∨
      (∃ before, front = before ++ ':' :: p.text.toList) ∨
        ∃ before, front = before ++ ':' :: " connect".toList := by
  have hhost : ':' ∉ h.text.toList := fun hc => absurd (h.hostChars ':' hc) (by decide)
  have hport : ':' ∉ p.text.toList := fun hc => absurd (p.hostChars ':' hc) (by decide)
  have hfirst : ':' ∉ "dial tcp ".toList ++ h.text.toList := by
    rw [List.mem_append, not_or]
    exact ⟨by decide, hhost⟩
  have hconnect : ": connect: connection refused".toList =
      ':' :: (" connect".toList ++ ':' :: " connection refused".toList) := rfl
  rw [toList_refusal, ← List.append_assoc] at heq
  have hword : ':' ∉ " connect".toList := by decide
  have hend : ':' ∉ " connection refused".toList := by decide
  -- the colons are found from the left: behind the host, behind the port, behind `connect`
  rcases Py.place_of_notMem hfirst heq with hfront | ⟨between, rfl, hbehind⟩
  · exact .inl hfront
  · rw [hconnect] at hbehind
    rcases Py.place_of_notMem hport hbehind with ⟨rfl, -⟩ | ⟨word, rfl, hlater⟩
    · exact .inr (.inl ⟨_, rfl⟩)
    · rcases Py.place_of_notMem hword hlater with ⟨rfl, -⟩ | ⟨tail, -, hnone⟩
      · refine .inr (.inr ⟨"dial tcp ".toList ++ h.text.toList ++ ':' :: p.text.toList, ?_⟩)
        simp only [List.append_assoc, List.cons_append]
      · exact absurd (by rw [hnone]; simp) hend

/-- An assignment is `host`, a sign and what is assigned. -/
theorem hostAssignment_eq_some {cs group : List Char} (hgroup : hostAssignment cs = some group) :
    ∃ sign rest, cs = "host".toList ++ sign :: rest ∧ (sign = '=' ∨ sign = ':') ∧
      (rest.dropWhile Py.isSpace).takeWhile isHostChar = group := by
  unfold hostAssignment at hgroup
  split at hgroup
  · next sign rest =>
    split at hgroup
    · next hsign =>
      dsimp only at hgroup
      split at hgroup
      · cases hgroup
      · exact ⟨sign, rest, rfl, hsign, Option.some.inj hgroup⟩
    · cases hgroup
  · cases hgroup

/-- What is assigned in the text is the port. -/
theorem assigned_port : ((p.text.toList ++ ": connect: connection refused".toList).dropWhile
    Py.isSpace).takeWhile isHostChar = p.text.toList := by
  obtain ⟨d, rest, hdigits⟩ := List.exists_cons_of_ne_nil p.ne_nil
  have hd : Py.isSpace d = false := Py.isSpace_of_isLowerAlnum
    (Py.isLowerAlnum_of_isDigit (p.isDigit d (by simp [hdigits])))
  have hspace : (p.text.toList ++ ": connect: connection refused".toList).dropWhile Py.isSpace =
      p.text.toList ++ ": connect: connection refused".toList := by
    rw [hdigits, List.cons_append, List.dropWhile_cons_of_neg (by simp [hd])]
  rw [hspace]
  exact takeWhile_hostChars p.hostChars _

/-- Of the colons only the first one has `host` in front of it, if the host name ends so. -/
theorem host_places {before rest : List Char}
    (heq : (refusal h p).toList = (before ++ "host".toList) ++ ':' :: rest) :
    "host".toList <:+ h.text.toList ∧ rest = p.text.toList ++ ": connect: connection refused".toList := by
  have hdigits : ¬ "host".toList <:+ p.text.toList := fun hs =>
    absurd (p.isDigit 'h' (hs.subset (by decide))) (by decide)
  have hcolon : ':' ∉ "host".toList := by decide
  have hends : ∀ {x y : List Char}, before ++ "host".toList = x ++ ':' :: y → "host".toList <:+ y :=
    fun h => (Py.suffix_append_sep_iff hcolon).mp ⟨before, h⟩
  rcases colon_places h p heq with ⟨hname, hrest⟩ | ⟨x, hport⟩ | ⟨x, hconnect⟩
  · have hdial : "dial tcp ".toList ++ h.text.toList = "dial tcp".toList ++ ' ' :: h.text.toList := rfl
    rw [hdial] at hname
    exact ⟨(Py.suffix_append_sep_iff (by decide)).mp ⟨before, hname⟩, hrest⟩
  · exact absurd (hends hport) hdigits
  · exact absurd (hends hconnect) (by decide)

/-- There is no equals sign in the text. -/
theorem no_equals : '=' ∉ (refusal h p).toList := by
  have hhost : '=' ∉ h.text.toList := fun hc => absurd (h.hostChars '=' hc) (by decide)
  have hport : '=' ∉ p.text.toList := fun hc => absurd (p.hostChars '=' hc) (by decide)
  have hdial : '=' ∉ "dial tcp ".toList := by decide
  have hconnect : '=' ∉ ": connect: connection refused".toList := by decide
  rw [toList_refusal]
  simp only [List.mem_append, List.mem_cons, hhost, hport, hdial, hconnect, or_false]
  decide

/-- Only the end of the host name reads as the beginning of an assignment. -/
theorem hostAssignment_refusal {before behind group : List Char}
    (heq : (refusal h p).toList = before ++ behind) (hgroup : hostAssignment behind = some group) :
    "host".toList <:+ h.text.toList ∧ group = p.text.toList := by
  obtain ⟨sign, rest, rfl, hsign, rfl⟩ := hostAssignment_eq_some hgroup
  rcases hsign with rfl | rfl
  · exact absurd (by rw [heq]; simp) (no_equals h p)
  · rw [← List.append_assoc] at heq
    obtain ⟨hends, rfl⟩ := host_places h p heq
    exact ⟨hends, assigned_port p⟩

/-- The end of such a name does. -/
theorem hostAssignment_port : hostAssignment ("host".toList ++
    ':' :: (p.text.toList ++ ": connect: connection refused".toList)) = some p.text.toList := by
  have hempty : p.text.toList.isEmpty = false := by
    rw [List.isEmpty_eq_false_iff]
    exact p.ne_nil
  show (if ':' = '=' ∨ ':' = ':' then _ else none) = some p.text.toList
  rw [if_pos (.inr rfl)]
  dsimp only
  rw [assigned_port, hempty]
  rfl

/-- So the first expression finds the port, or nothing. -/
theorem search_hostAssignment : search hostAssignment (refusal h p).toList =
    if "host".toList <:+ h.text.toList then some p.text.toList else none := by
  cases hsearch : search hostAssignment (refusal h p).toList with
  | some group =>
      obtain ⟨before, behind, heq, hgroup, -⟩ := search_eq_some_iff.mp hsearch
      obtain ⟨hends, rfl⟩ := hostAssignment_refusal h p heq hgroup
      rw [if_pos hends]
  | none =>
      rw [if_neg]
      rintro ⟨name, hname⟩
      have hport := search_eq_none_iff.mp hsearch ("dial tcp ".toList ++ name) ("host".toList ++
        ':' :: (p.text.toList ++ ": connect: connection refused".toList))
      rw [toList_refusal, ← hname, hostAssignment_port] at hport
      cases hport (by simp only [List.append_assoc])

/-! ## What is found

Where the first expression finds something it wins. -/

/-- A port ends with a digit. -/
theorem Port.last : p.text.toList.getLast?.any Py.isLowerAlnum = true := by
  rw [List.getLast?_eq_some_getLast p.ne_nil]
  exact Py.isLowerAlnum_of_isDigit (p.isDigit _ (List.getLast_mem p.ne_nil))

/-- What is found is the port, if the host name ends in `host`. -/
theorem parseDbHost_refusal : parseDbHost (refusal h p) =
    if "host".toList <:+ h.text.toList then p.text.toList else h.text.toList := by
  rw [parseDbHost, search_hostAssignment, search_hostWithPort]
  by_cases hends : "host".toList <:+ h.text.toList
  · rw [if_pos hends, if_pos hends]
    exact rstrip_of_last p.last
  · rw [if_neg hends, if_neg hends]
    exact rstrip_of_last h.last

/-- **Exactly when the host is found**: its name does not end in `host`. -/
theorem parseDbHost_iff (h : HostName) (p : Port) :
    String.ofList (parseDbHost (refusal h p)) = h.text ↔ ¬ "host".toList <:+ h.text.toList := by
  rw [parseDbHost_refusal]
  by_cases hends : "host".toList <:+ h.text.toList
  · apply iff_of_false _ (not_not.mpr hends)
    rw [if_pos hends, String.ofList_toList]
    intro heq
    have hletter : 'h' ∈ p.text.toList := by
      rw [heq]
      exact hends.subset (by decide)
    exact absurd (p.isDigit 'h' hletter) (by decide)
  · rw [if_neg hends, String.ofList_toList]
    exact iff_of_true rfl hends

/-! ## A database on the same machine

The most common host name there is ends in `host`. -/

/-- The name of one label. -/
theorem localhost_isLabel : IsLabel "localhost" := by
  refine ⟨fun c hc => ?_, by decide, by decide⟩
  have hall : ("localhost".toList.all Py.isLowerAlnum) = true := by decide
  exact .inl (List.all_eq_true.mp hall c hc)

/-- The local machine. -/
def localhost : HostName where
  labels := ["localhost"]
  ne_nil := List.cons_ne_nil "localhost" []
  isLabel := List.forall_mem_singleton.mpr localhost_isLabel

/-- The port is made of digits, four of them. -/
theorem postgres_isDigit : ∀ c ∈ "5432".toList, c.isDigit = true :=
  List.all_eq_true.mp rfl

theorem postgres_length : 2 ≤ "5432".toList.length ∧ "5432".toList.length ≤ 5 := by decide

def postgres : Port where
  text := "5432"
  isDigit := postgres_isDigit
  two_le := postgres_length.1
  le_five := postgres_length.2

/-- The port is taken for the database. -/
theorem localhost_not_found : localhost.text = "localhost" ∧
    String.ofList (parseDbHost (refusal localhost postgres)) ≠ localhost.text := by
  decide +kernel

end SreAgent.Rca
