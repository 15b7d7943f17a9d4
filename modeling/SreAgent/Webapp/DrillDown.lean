import SreAgent.Lib.PercentEncoding
import SreAgent.Webapp.Cookies

/-!
# From a click to an overview

`loadNamespace` of `static/app.js` writes the names of a cluster and of a namespace into the path of a
request, the browser takes dots out of the path, and the server finds the names in it by the route of
`api_namespace_overview`. What comes out is what went in exactly if both names are segments of a
path (`overview_iff`); the name of a cluster may well be none, as the ARN of an EKS cluster has a
stroke in it.

Three programs have a hand in it: the page encodes, the browser normalizes the path before it sends
it, and the server decodes the path as a whole before it looks for a route. A stroke that was
encoded is a stroke again by then, and a name that is a dot never arrives.
-/

namespace SreAgent.Webapp.DrillDown

/-! ## The page

`encodeURIComponent` leaves a few marks alone that `quote` encodes. Both encode strokes. -/

/-- The marks that `encodeURIComponent` leaves, beside those that `quote` leaves. -/
def isMark (b : UInt8) : Bool := ['!', '*', '\'', '(', ')'].contains (Char.ofNat b.toNat)

def componentByte (b : UInt8) : List Char :=
  if isMark b then [Char.ofNat b.toNat] else PercentEncoding.encodeByte false b

def encodeURIComponent (s : String) : List Char := (encode s).flatMap componentByte

/-- The segments of the path of `fetch`. -/
def fetched (cluster ns : String) : List (List Char) :=
  ["api".toList, "clusters".toList, encodeURIComponent cluster, "namespaces".toList,
    encodeURIComponent ns]

/-! ## The browser

Dot segments are recognized in all their spellings, encoded or not, and removed before anything is
sent. -/

def isSingleDot (segment : List Char) : Bool :=
  [".", "%2e", "%2E"].contains (String.ofList segment)

def isDoubleDot (segment : List Char) : Bool :=
  ["..", ".%2e", ".%2E", "%2e.", "%2E.", "%2e%2e", "%2e%2E", "%2E%2e", "%2E%2E"].contains
    (String.ofList segment)

/-- The path without its dots: two of them take back a segment, and at the end an empty one is left. -/
def withoutDots : (path segments : List (List Char)) → List (List Char)
  | path, []                  => path
  | path, segment :: segments =>
    let ending := if segments.isEmpty then [[]] else []
    if isDoubleDot segment then withoutDots (path.dropLast ++ ending) segments
    else if isSingleDot segment then withoutDots (path ++ ending) segments
    else withoutDots (path ++ [segment]) segments

/-- A path as it is sent. -/
def joined (segments : List (List Char)) : List Char := '/' :: ['/'].intercalate segments

/-! ## The server

The route is matched against the decoded path, and a parameter takes a segment up to the next
stroke. -/

/-- `scope["path"]`: the path, decoded as a whole. -/
def received (path : List Char) : Option String := decode (PercentEncoding.decode false path)

/-- The route `/api/clusters/{cluster}/namespaces/{ns}`. A parameter is a segment, and not empty. -/
def route (path : String) : Option (String × String) :=
  match Py.splitOn '/' path.toList with
  | [[], api, clusters, cluster, namespaces, ns] =>
    if api = "api".toList ∧ clusters = "clusters".toList ∧ namespaces = "namespaces".toList ∧
        cluster ≠ [] ∧ ns ≠ [] then some (String.ofList cluster, String.ofList ns)
    else none
  | _ => none

/-- The parameters of `api_namespace_overview` after a click. -/
def overviewOf (cluster ns : String) : Option (String × String) :=
  (received (joined (withoutDots [] (fetched cluster ns)))).bind route

/-! ## Names in a path

What the browser does to segments it does to names, since only the dots are encoded as dots. So the
segments can be forgotten, and the path is a list of names. -/

/-- A name that may stand in a path by itself. -/
structure IsSegment (name : String) : Prop where
  nonempty : name ≠ ""
  noStroke : '/' ∉ name.toList
  noDot    : name ≠ "."
  noDots   : name ≠ ".."

/-- A mark is a character of its own byte, and no percent sign. -/
theorem isMark_spec : ∀ n < 256, isMark (UInt8.ofNat n) = true →
    Char.ofNat n ≠ '%' ∧ String.utf8EncodeChar (Char.ofNat n) = [UInt8.ofNat n] := by
  decide +kernel

/-- An encoded name is decoded to its bytes. -/
theorem decode_component (s : String) (rest : List Char) :
    PercentEncoding.decode false (encodeURIComponent s ++ rest) =
      encode s ++ PercentEncoding.decode false rest := by
  -- a mark stands for itself, and any other byte is written as three characters
  have hbyte : ∀ (b : UInt8) (cs : List Char),
      PercentEncoding.decode false (componentByte b ++ cs) =
        b :: PercentEncoding.decode false cs := by
    intro b cs
    unfold componentByte
    split
    · next hmark =>
      obtain ⟨hpercent, hbytes⟩ := isMark_spec b.toNat b.toNat_lt (by rwa [UInt8.ofNat_toNat])
      rw [UInt8.ofNat_toNat] at hbytes
      rw [List.singleton_append, PercentEncoding.decode_plain hpercent, PercentEncoding.plainBytes,
        hbytes]
      rfl
    · exact PercentEncoding.decode_encodeByte false b cs
  unfold encodeURIComponent
  induction encode s with
  | nil => rfl
  | cons b bytes ih => rw [List.flatMap_cons, List.append_assoc, hbyte, ih, List.cons_append]

/-- What a name is encoded as tells the name. -/
theorem component_inj {s t : String} {segment : List Char} (h : encodeURIComponent s = segment)
    (hread : PercentEncoding.decode false segment = encode t) : s = t := by
  have hs := decode_component s []
  rw [List.append_nil, h, hread] at hs
  apply encode_injective
  rw [hs]
  exact (List.append_nil _).symm

/-- Only dots are encoded as dots. -/
theorem isSingleDot_component (s : String) : isSingleDot (encodeURIComponent s) = (s == ".") := by
  rw [Bool.eq_iff_iff, beq_iff_eq]
  constructor
  · intro h
    have hread : ∀ dot ∈ [".", "%2e", "%2E"],
        PercentEncoding.decode false dot.toList = encode "." := by decide +kernel
    apply component_inj rfl
    rw [← String.toList_ofList (l := encodeURIComponent s)]
    exact hread _ (List.contains_iff_mem.mp h)
  · rintro rfl
    decide +kernel

theorem isDoubleDot_component (s : String) : isDoubleDot (encodeURIComponent s) = (s == "..") := by
  rw [Bool.eq_iff_iff, beq_iff_eq]
  constructor
  · intro h
    have hread : ∀ dots ∈ ["..", ".%2e", ".%2E", "%2e.", "%2E.", "%2e%2e", "%2e%2E", "%2E%2e",
        "%2E%2E"], PercentEncoding.decode false dots.toList = encode ".." := by decide +kernel
    apply component_inj rfl
    rw [← String.toList_ofList (l := encodeURIComponent s)]
    exact hread _ (List.contains_iff_mem.mp h)
  · rintro rfl
    decide +kernel

/-- The names in a path, without the dots. -/
def names : (path : List String) → List String → List String
  | path, []           => path
  | path, name :: rest =>
    let ending := if rest.isEmpty then [""] else []
    if name = ".." then names (path.dropLast ++ ending) rest
    else if name = "." then names (path ++ ending) rest
    else names (path ++ [name]) rest

/-- Taking the dots out of segments is taking them out of names. -/
theorem withoutDots_map (path rest : List String) :
    withoutDots (path.map encodeURIComponent) (rest.map encodeURIComponent) =
      (names path rest).map encodeURIComponent := by
  have hempty : encodeURIComponent "" = [] := rfl
  induction rest generalizing path with
  | nil => rfl
  | cons name rest ih =>
      -- dots at the end leave an empty segment behind, so that the path ends in a stroke
      have hending : (if (rest.map encodeURIComponent).isEmpty then [[]] else []) =
          (if rest.isEmpty then [""] else []).map encodeURIComponent := by
        cases rest <;> rfl
      rw [List.map_cons, withoutDots, names, isDoubleDot_component, isSingleDot_component, hending]
      simp only [beq_iff_eq]
      split
      · rw [← ih, List.map_append, List.map_dropLast]
      split
      · rw [← ih, List.map_append]
      · rw [← ih, List.map_append]
        rfl

/-! ## What is received

Decoding the whole path joins the names with strokes. Splitting it again gives them back if no name
has a stroke of its own, and only then does the route see five of them. -/

/-- Bytes of a text, one part after the other. -/
theorem encode_append (s t : String) : encode (s ++ t) = encode s ++ encode t := by
  unfold encode
  rw [String.toUTF8_eq_toByteArray, String.toByteArray_append, ByteArray.data_append,
    Array.toList_append]
  rfl

/-- The path that a list of names makes. -/
def pathOf (names : List String) : String :=
  String.ofList ('/' :: ['/'].intercalate (names.map String.toList))

/-- The decoded path is the names, joined. -/
theorem decode_joined (names : List String) (hne : names ≠ []) :
    PercentEncoding.decode false (joined (names.map encodeURIComponent)) = encode (pathOf names) := by
  -- strokes stand for themselves, so the path is decoded segment by segment
  have hstroke : ∀ cs, PercentEncoding.decode false ('/' :: cs) =
      encode "/" ++ PercentEncoding.decode false cs := fun cs =>
    PercentEncoding.decode_plain (by decide) cs
  have hcons : ∀ cs, encode (String.ofList ('/' :: cs)) = encode "/" ++ encode (String.ofList cs) := by
    intro cs
    rw [← encode_append]
    apply congrArg
    apply String.toList_inj.mp
    simp
  unfold joined pathOf
  rw [hstroke, hcons (['/'].intercalate (names.map String.toList))]
  apply congrArg (encode "/" ++ ·)
  induction names with
  | nil => exact absurd rfl hne
  | cons name names ih =>
      cases names with
      | nil =>
          have hend : PercentEncoding.decode false [] = [] := rfl
          have hone := decode_component name []
          simpa [hend] using hone
      | cons next names =>
          have hrest := ih (List.cons_ne_nil next names)
          simp only [List.map_cons] at hrest ⊢
          rw [List.intercalate_cons_cons, List.append_assoc, List.singleton_append, decode_component,
            hstroke, hrest, List.intercalate_cons_cons, List.append_assoc, List.singleton_append,
            String.ofList_append, encode_append,
            hcons (['/'].intercalate (next.toList :: names.map String.toList)), String.ofList_toList]

/-- So it is a text, with the names between its strokes. -/
theorem received_joined {names : List String} (hne : names ≠ []) :
    received (joined (names.map encodeURIComponent)) = some (pathOf names) := by
  rw [received, decode_joined names hne, decode_encode]

theorem splitOn_pathOf {names : List String} (hne : names ≠ [])
    (hnames : ∀ name ∈ names, '/' ∉ name.toList) :
    Py.splitOn '/' (pathOf names).toList = [] :: names.map String.toList := by
  have hmap : names.map String.toList ≠ [] := by simpa using hne
  have hsplit := Py.splitOn_append_sep '/' [] (['/'].intercalate (names.map String.toList))
  rw [pathOf, String.toList_ofList]
  rw [List.nil_append] at hsplit
  rw [hsplit, Py.splitOn_intercalate_flatMap '/' hmap, List.flatMap_map]
  apply congrArg (([] : List Char) :: ·)
  rw [List.map_eq_flatMap]
  apply List.flatMap_congr
  exact fun name hname => Py.splitOn_of_notMem (hnames name hname)

/-- The parameters of a route are segments of the path. -/
theorem route_some {path cluster ns : String} (h : route path = some (cluster, ns)) :
    Py.splitOn '/' path.toList = [[], "api".toList, "clusters".toList, cluster.toList,
        "namespaces".toList, ns.toList] ∧ cluster ≠ "" ∧ ns ≠ "" := by
  unfold route at h
  split at h
  · next api clusters c namespaces n hsplit =>
    split at h
    · next hroute =>
      obtain ⟨rfl, rfl, rfl, hc, hn⟩ := hroute
      obtain ⟨rfl, rfl⟩ := Prod.mk.inj (Option.some.inj h)
      have hcluster : (String.ofList c).toList = c := String.toList_ofList
      have hns : (String.ofList n).toList = n := String.toList_ofList
      rw [hsplit, hcluster, hns]
      refine ⟨rfl, ?_, ?_⟩
      · -- a path parameter of the route matches one segment that is not empty
        exact fun hempty => hc (by rw [← String.toList_ofList (l := c), hempty]; rfl)
      · exact fun hempty => hn (by rw [← String.toList_ofList (l := n), hempty]; rfl)
    · cases h
  · cases h

/-- What becomes of a click, by names. -/
theorem overviewOf_eq (cluster ns : String) :
    overviewOf cluster ns =
      (received (joined ((names [] ["api", "clusters", cluster, "namespaces", ns]).map
        encodeURIComponent))).bind route := by
  have hfetched : fetched cluster ns =
      ["api", "clusters", cluster, "namespaces", ns].map encodeURIComponent := by
    have hapi : encodeURIComponent "api" = "api".toList := by decide +kernel
    have hclusters : encodeURIComponent "clusters" = "clusters".toList := by decide +kernel
    have hnamespaces : encodeURIComponent "namespaces" = "namespaces".toList := by decide +kernel
    simp only [fetched, List.map_cons, List.map_nil, hapi, hclusters, hnamespaces]
  rw [overviewOf, hfetched, ← withoutDots_map]
  rfl

/-- Something is left of a path, and nothing is in it that was not there before. -/
theorem names_ne_nil (path : List String) {rest : List String} (hne : rest ≠ []) :
    names path rest ≠ [] := by
  induction rest generalizing path with
  | nil => exact absurd rfl hne
  | cons name rest ih =>
      rw [names]
      cases rest with  -- the last segment leaves an entry in every case: itself, or an empty one
      | nil =>
          split
          · simp [names]
          split
          · simp [names]
          · simp [names]
      | cons next rest =>
          have hrest : next :: rest ≠ [] := List.cons_ne_nil next rest
          split
          · exact ih _ hrest
          split
          · exact ih _ hrest
          · exact ih _ hrest

theorem mem_names {x : String} {path rest : List String} (h : x ∈ names path rest) :
    x ∈ path ∨ x ∈ rest ∨ x = "" := by
  induction rest generalizing path with
  | nil => exact .inl h
  | cons name rest ih =>
      -- dot segments add nothing but the empty segment at the end
      have hending : ∀ {x : String}, x ∈ (if rest.isEmpty then [""] else []) → x = "" := by
        intro x hx
        split at hx
        · exact List.mem_singleton.mp hx
        · cases hx
      rw [names] at h
      split at h
      · rcases ih h with hx | hx | hx
        · rcases List.mem_append.mp hx with hx | hx
          · exact .inl (List.mem_of_mem_dropLast hx)
          · exact .inr (.inr (hending hx))
        · exact .inr (.inl (List.mem_cons_of_mem name hx))
        · exact .inr (.inr hx)
      split at h
      · rcases ih h with hx | hx | hx
        · rcases List.mem_append.mp hx with hx | hx
          · exact .inl hx
          · exact .inr (.inr (hending hx))
        · exact .inr (.inl (List.mem_cons_of_mem name hx))
        · exact .inr (.inr hx)
      · rcases ih h with hx | hx | hx
        · rcases List.mem_append.mp hx with hx | hx
          · exact .inl hx
          · exact .inr (.inl (List.mem_singleton.mp hx ▸ List.mem_cons_self))
        · exact .inr (.inl (List.mem_cons_of_mem name hx))
        · exact .inr (.inr hx)

def clicked (cluster ns : String) : List String := ["api", "clusters", cluster, "namespaces", ns]

/-- No dots are taken out exactly if neither name is made of them. -/
theorem names_clicked (cluster ns : String) :
    names [] (clicked cluster ns) = clicked cluster ns ↔
      (cluster ≠ "." ∧ cluster ≠ "..") ∧ ns ≠ "." ∧ ns ≠ ".." := by
  by_cases hdots : cluster = ".."
  · by_cases hns' : ns = ".." <;> by_cases hns'' : ns = "." <;>
      simp [names, clicked, hdots, hns', hns'']
  by_cases hdot : cluster = "."
  · by_cases hns' : ns = ".." <;> by_cases hns'' : ns = "." <;>
      simp [names, clicked, hdot, hns', hns'']
  · by_cases hns' : ns = ".." <;> by_cases hns'' : ns = "." <;>
      simp [names, clicked, hdots, hdot, hns', hns'']

/-- A path of the route, by its segments. -/
theorem route_pathOf {cluster ns : String} (hcluster : cluster ≠ "") (hns : ns ≠ "")
    (hstroke : ∀ name ∈ clicked cluster ns, '/' ∉ name.toList) :
    route (pathOf (clicked cluster ns)) = some (cluster, ns) := by
  have hempty : ∀ {s : String}, s ≠ "" → s.toList ≠ [] := fun hs h =>
    hs (String.toList_inj.mp h)
  have hne : clicked cluster ns ≠ [] := List.cons_ne_nil _ _
  rw [route, splitOn_pathOf hne hstroke]
  simp [clicked, hempty hcluster, hempty hns]

/-- **The overview is of what was clicked** exactly if both names are segments of a path. -/
theorem overview_iff (cluster ns : String) :
    overviewOf cluster ns = some (cluster, ns) ↔ IsSegment cluster ∧ IsSegment ns := by
  have hne : names [] (clicked cluster ns) ≠ [] := names_ne_nil [] (List.cons_ne_nil _ _)
  have heq : overviewOf cluster ns = route (pathOf (names [] (clicked cluster ns))) := by
    rw [overviewOf_eq, ← clicked, received_joined hne]
    rfl
  rw [heq]
  constructor
  · intro h
    obtain ⟨hsplit, hcluster, hns⟩ := route_some h
    have hpart : ∀ part ∈ (clicked cluster ns).map String.toList, '/' ∉ part := by
      intro part hpart
      have hmem : part ∈ Py.splitOn '/' (pathOf (names [] (clicked cluster ns))).toList := by
        rw [hsplit]
        exact List.mem_cons_of_mem [] hpart
      exact Py.notMem_of_mem_splitOn hmem
    have hstroke : ∀ name ∈ clicked cluster ns, '/' ∉ name.toList := fun name hname =>
      hpart name.toList (List.mem_map_of_mem hname)
    -- without strokes the segments of the path are the names that are left
    have hleft : ∀ name ∈ names [] (clicked cluster ns), '/' ∉ name.toList := by
      intro name hname
      rcases mem_names hname with hname | hname | rfl
      · cases hname
      · exact hstroke name hname
      · decide
    rw [splitOn_pathOf hne hleft] at hsplit
    have hnames : names [] (clicked cluster ns) = clicked cluster ns := by
      apply List.map_injective_iff.mpr (fun s t h => String.toList_inj.mp h)
      exact (List.cons.inj hsplit).2
    obtain ⟨⟨hdot, hdots⟩, hdot', hdots'⟩ := (names_clicked cluster ns).mp hnames
    exact ⟨⟨hcluster, hstroke cluster (by simp [clicked]), hdot, hdots⟩,
      ⟨hns, hstroke ns (by simp [clicked]), hdot', hdots'⟩⟩
  · rintro ⟨hcluster, hns⟩
    have hnames := (names_clicked cluster ns).mpr
      ⟨⟨hcluster.noDot, hcluster.noDots⟩, hns.noDot, hns.noDots⟩
    rw [hnames]
    apply route_pathOf hcluster.nonempty hns.nonempty
    simp [clicked, hcluster.noStroke, hns.noStroke]

/-- The ARN of a cluster has a stroke in it. -/
example : overviewOf "arn:aws:eks:eu-west-1:1:cluster/prod" "shop" = none := by decide +kernel

end SreAgent.Webapp.DrillDown
