import SreAgent.Lib.Html
import SreAgent.Webapp.Pages

/-!
# What the dashboard shows

Names, messages of events, errors and the texts of tools come from clusters and may be anything. A
browser reads out of a page the tags of its templates, with the data as the texts between and the
values inside of them (`page_read`), so no page has a tag or an attribute that comes from data
(`page_harmless`), and the Diagnose buttons stand for the deployments they are next to
(`detail_buttons`).

The proof goes through a middle layer: a page as a list of tags and texts. The templates are shown
to write it, and reading what was written gives it back (`SreAgent.Lib.Html`). Everything that is
said of a page is then said of its items, where no text is a tag.
-/

namespace SreAgent.Webapp.Pages

open Html (Item write)
open Markdown (Text unit lit escapeHtml)

/-! ## Escaping

The code's table of entities is the escape of the library. -/

theorem escapeHtml_eq (s : Text) : escapeHtml s = Html.escape s := by
  have htable : Markdown.entities = Html.references.map fun r => ([r.1], r.2) := rfl
  have hunit : Markdown.escapeUnit = Html.escapeUnit := by
    funext c
    have hkey : (fun entity : Text × Text => entity.1 == [c]) ∘ (fun r => ([r.1], r.2)) =
        fun r : UInt16 × Text => r.1 == c := by
      funext r
      simp
    unfold Markdown.escapeUnit Html.escapeUnit
    rw [htable, List.find?_map, hkey]
    cases Html.references.find? fun r => r.1 == c <;> rfl
  unfold escapeHtml Html.escape
  rw [hunit]

/-- Digits are not escaped. -/
theorem escape_number (n : ℕ) : Html.escape (number n) = number n := by
  -- no digit is one of the escaped characters
  have hdigit : ∀ k < 58, 48 ≤ k → Html.escapeUnit (.ofNat k) = [.ofNat k] := by decide
  have hall : ∀ ds : List Char, (∀ d ∈ ds, d.isDigit = true) →
      Html.escape (ds.map unit) = ds.map unit := by
    intro ds hds
    induction ds with
    | nil => rfl
    | cons d ds ih =>
        have hd := hds d List.mem_cons_self
        have hone : Html.escapeUnit (unit d) = [unit d] := by
          rw [Char.isDigit, Bool.and_eq_true, decide_eq_true_eq, decide_eq_true_eq] at hd
          exact hdigit d.toNat (Nat.lt_succ_of_le hd.2) hd.1
        show Html.escapeUnit (unit d) ++ Html.escape (ds.map unit) = _
        rw [hone, ih fun e he => hds e (List.mem_cons_of_mem d he)]
        rfl
  exact hall _ fun d hd => Nat.isDigit_of_mem_toDigits (by decide) (by decide) hd

/-! ## What the templates mean

The items of each template, in the shape of the template. Data stand as texts and as values of
attributes, and nowhere else. -/

def el (name : String) (attributes : List (String × Text)) (items : List Item) : List Item :=
  Html.element (lit name) (attributes.map fun a => (lit a.1, a.2)) items

def emptyItems (items : List Item) : List Item := el "div" [("class", lit "empty")] items

def cardItems (c : Cluster) : List Item :=
  let ns := orElse ((lit ", ").intercalate c.namespaces) (lit "—")
  el "div" [("class", lit "card"), ("data-name", c.name), ("title", lit "Click to drill in")]
    ([.text (lit "\n    ")] ++
    el "div" [("class", lit "card-top")]
      ([.text (lit "\n      ")] ++ el "span" [("class", lit "card-name")] [.text c.name] ++
      [.text (lit "\n      ")] ++
      el "span" [("class", lit "status")]
        (el "span" [("class", lit "dot " ++ if c.reachable then lit "ok" else lit "bad")] [] ++
        [.text (if c.reachable then lit "reachable" else orElse c.statusDetail (lit "unreachable"))]) ++
      [.text (lit "\n    ")]) ++
    [.text (lit "\n    ")] ++
    el "div" [("class", lit "chips")]
      ([.text (lit "\n      ")] ++
      ifGiven c.provider (el "span" [("class", lit "chip prov")] [.text c.provider]) ++
      [.text (lit "\n      ")] ++
      ifGiven c.tenant (el "span" [("class", lit "chip")] [.text (lit "tenant: "), .text c.tenant]) ++
      [.text (lit "\n      ")] ++
      ifGiven c.region (el "span" [("class", lit "chip")] [.text c.region]) ++
      [.text (lit "\n    ")]) ++
    [.text (lit "\n    ")] ++
    el "div" [("class", lit "ns")] [.text (lit "namespaces: "), .text ns] ++
    [.text (lit "\n  ")])

def clustersItems (clusters : List Cluster) (error : Text) : List Item :=
  if clusters.isEmpty then
    emptyItems ([.text (lit "No clusters configured.")] ++
      ifGiven error [.tag (.opening (lit "br") []), .text error])
  else clusters.flatMap cardItems

def toolItems (tool : Text × Text) : List Item :=
  el "li" [] (el "code" [] [.text tool.1] ++ [.text (lit " — "), .text tool.2])

def noteItems (title : String) (note : Text) : List Item :=
  el "div" [] (el "h3" [] [.text (lit title)] ++ el "div" [("class", lit "mono")] [.text note])

def errorItems (title : String) (error : Text) : List Item :=
  noteItems title (orElse error (lit "unavailable"))

def cell (items : List Item) : List Item := el "td" [] items

def monoCell (s : Text) : List Item := el "td" [("class", lit "mono")] [.text s]

def pill (kind s : Text) : List Item := el "span" [("class", lit "pill " ++ kind)] [.text s]

def tableItems (heading : List Item) (columns : List String) (rows : List Item) : List Item :=
  el "div" [] (el "h3" [] heading ++
    el "table" [("class", lit "grid")]
      (el "tr" [] (columns.flatMap fun column => el "th" [] [.text (lit column)]) ++ rows))

def podItems (p : Pod) : List Item :=
  let bad := badReasons.contains (orElse p.reason p.lastTerminated)
  el "tr" [] (cell [.text p.name] ++ cell [.text p.phase] ++ [.text (lit "\n      ")] ++
    cell (if p.reason = [] then [.text (lit "—")]
      else pill (if bad then lit "bad" else []) p.reason) ++
    [.text (lit "\n      ")] ++ cell [.text (number p.restarts)] ++
    cell (pill (readyCls p.ready) p.ready) ++ [.text (lit "\n      ")] ++
    monoCell (orElse p.node (lit "—")))

def podsItems : Section Pod → List Item
  | .other error => errorItems "Pods" error
  | .rows []     => noteItems "Pods" (lit "no pods")
  | .rows pods   =>
    tableItems [.text (lit "Pods ("), .text (number pods.length), .text (lit ")")]
      ["Name", "Phase", "Reason", "Restarts", "Ready", "Node"] (pods.flatMap podItems)

def deploymentItems (cluster ns : Text) (d : Deployment) : List Item :=
  el "tr" [] (cell [.text d.name] ++ cell (pill (readyCls d.ready) d.ready) ++
    [.text (lit "\n      ")] ++ monoCell (orElse d.image (lit "—")) ++ [.text (lit "\n      ")] ++
    cell (el "button" [("class", lit "diag-btn"), ("data-cluster", cluster), ("data-ns", ns),
      ("data-name", d.name)] [.text (lit "Diagnose")]))

def depsItems (cluster ns : Text) : Section Deployment → List Item
  | .other error => errorItems "Deployments" error
  | .rows []     => noteItems "Deployments" (lit "no deployments")
  | .rows deps   =>
    tableItems [.text (lit "Deployments ("), .text (number deps.length), .text (lit ")")]
      ["Name", "Ready", "Image", ""] (deps.flatMap (deploymentItems cluster ns))

def eventItems (e : Event) : List Item :=
  el "tr" [] ([.text (lit "\n    ")] ++
    cell (pill (if e.type = lit "Warning" then lit "warn" else []) e.type) ++
    [.text (lit "\n    ")] ++ cell [.text e.reason] ++ monoCell e.object ++ [.text (lit "\n    ")] ++
    cell [.text (e.message.take 100)] ++ monoCell e.age)

def eventsItems : Section Event → List Item
  | .other error => errorItems "Recent events" error
  | .rows []     => noteItems "Recent events" (lit "no recent events")
  | .rows events =>
    tableItems [.text (lit "Recent events")] ["Type", "Reason", "Object", "Message", "Age"]
      ((events.take 15).flatMap eventItems)

def Detail.items (d : Detail) : List Item :=
  podsItems d.pods ++ depsItems d.cluster d.ns d.deployments ++ eventsItems d.events

def traceItems (tools : List Text) : List Item :=
  if tools.isEmpty then []
  else el "div" [("class", lit "trace")] (tools.flatMap fun tool =>
    el "span" [("class", lit "chip")] [.text [0xD83D, 0xDD27], .text (lit " "), .text tool])

def bubbleItems (items : List Item) : List Item := el "div" [("class", lit "bubble")] items

/-- A page as its templates mean it. -/
def Page.items : Page → List Item
  | .clusters list error => clustersItems list error
  | .clustersFailed exc  => emptyItems [.text (lit "Failed to load clusters: "), .text exc]
  | .tools list          => list.flatMap toolItems
  | .namespaces list     => list.flatMap fun ns => el "option" [] [.text ns]
  | .loading ns          => emptyItems [.text (lit "loading "), .text ns, .text (lit "…")]
  | .detail d            => d.items
  | .detailFailed exc    => emptyItems [.text exc]
  | .userMessage text    => bubbleItems [.text text]
  | .investigating       =>
    bubbleItems (el "span" [("class", lit "typing")] [.text (lit "investigating…")])
  | .trace list          => traceItems list
  | .chatFailed exc      => [.text (lit "Error: "), .text exc]
  | .me name sub         =>
    [.text (orElse name sub), .text (lit " ")] ++
      el "a" [("href", lit "/auth/logout")] [.text (lit "log out")]

/-! ## The templates write it

For each template: what it writes is what its items are written as. The literals are evaluated, and
the data go through the escape. -/

/-- How a part that is only there if its text is, a list of parts, and a text are written. -/
theorem write_ifGiven (s : Text) (items : List Item) :
    write (ifGiven s items) = ifGiven s (write items) := by
  unfold ifGiven
  split <;> rfl

theorem write_flatMap {α : Type} (f : α → List Item) (list : List α) :
    write (list.flatMap f) = list.flatMap fun a => write (f a) := List.flatMap_assoc

theorem write_text (s : Text) : write [.text s] = Html.escape s := List.append_nil _

/-- How an element is written. -/
theorem write_el (name : String) (attributes : List (String × Text)) (items : List Item) :
    write (el name attributes items) =
      unit '<' :: (lit name ++
        ((attributes.map fun a => (lit a.1, a.2)).flatMap Html.writeAttribute ++
          (unit '>' :: (write items ++ unit '<' :: unit '/' :: (lit name ++ [unit '>']))))) := by
  simp only [el, Html.element, Html.write_append, Html.write_cons, Html.write_nil, Item.write,
    Html.Tag.write, List.cons_append, List.nil_append, List.append_nil, List.append_assoc]
  rfl

/-- How a cell, one in the other font, and a pill of a kind that needs no escape are written. -/
theorem write_cell (items : List Item) :
    write (cell items) = lit "<td>" ++ (write items ++ lit "</td>") := write_el _ _ _

theorem write_monoCell (s : Text) :
    write (monoCell s) = lit "<td class=\"mono\">" ++ (Html.escape s ++ lit "</td>") := by
  rw [monoCell, write_el, write_text]
  rfl

theorem write_pill {kind : Text} (hkind : Html.escape kind = kind) (s : Text) :
    write (pill kind s) =
      lit "<span class=\"pill " ++ (kind ++ (lit "\">" ++ (Html.escape s ++ lit "</span>"))) := by
  have hclass : Html.writeAttribute (lit "class", lit "pill " ++ kind) =
      lit " class=\"pill " ++ (kind ++ lit "\"") := by
    rw [Html.writeAttribute, Html.escape_append, hkind, List.append_assoc]
    rfl
  rw [pill, write_el, write_text]
  simp only [List.map_cons, List.map_nil, List.flatMap_cons, List.flatMap_nil, hclass,
    List.append_assoc]
  rfl

/-- How a section with a note and one with a table are written. -/
theorem write_note (title : String) (htitle : Html.escape (lit title) = lit title) (note : Text) :
    write (noteItems title note) = noteSection title (Html.escape note) := by
  simp only [noteItems, noteSection, write_el, Html.write_append, write_text, htitle,
    List.append_assoc, List.cons_append, List.nil_append]
  rfl

theorem write_table (heading : List Item) (columns : List String) (rows : List Item) :
    write (tableItems heading columns rows) =
      lit "<div><h3>" ++ (write heading ++ (lit "</h3><table class=\"grid\"><tr>" ++
        (write (columns.flatMap fun column => el "th" [] [.text (lit column)]) ++
          (lit "</tr>" ++ (write rows ++ lit "</table></div>"))))) := by
  simp only [tableItems, write_el, Html.write_append, List.append_assoc, List.cons_append,
    List.nil_append]
  rfl

/-- Words of the templates are written as they are. -/
theorem escape_ite {c : Prop} [Decidable c] {s t : Text} (hs : Html.escape s = s)
    (ht : Html.escape t = t) : Html.escape (if c then s else t) = if c then s else t := by
  split
  · exact hs
  · exact ht

/-- The class of a deployment is such a word. -/
theorem escape_readyCls (ready : Text) : Html.escape (readyCls ready) = readyCls ready :=
  escape_ite rfl rfl

/-- The templates write their items: the note that there is nothing, the card of a cluster, and the
rows of pods, deployments and events. -/
theorem emptyNote_eq (items : List Item) : emptyNote (write items) = write (emptyItems items) := by
  rw [emptyItems, write_el]
  rfl

set_option maxRecDepth 4000 in
theorem clusterCard_eq (c : Cluster) : clusterCard c = write (cardItems c) := by
  -- a class name is written unescaped in the source; escaping would not change it
  have hdot : Html.escape (if c.reachable then lit "ok" else lit "bad") =
      if c.reachable then lit "ok" else lit "bad" := escape_ite rfl rfl
  have hstatus : (if c.reachable then lit "reachable"
        else Html.escape (orElse c.statusDetail (lit "unreachable"))) =
      Html.escape (if c.reachable then lit "reachable"
        else orElse c.statusDetail (lit "unreachable")) := by
    cases c.reachable <;> rfl
  unfold clusterCard cardItems
  simp only [escapeHtml_eq, hstatus, write_el, Html.write_append, write_ifGiven, Html.write_cons,
    Html.write_nil, Item.write, Html.writeAttribute, Html.escape_append, hdot, List.map_cons,
    List.map_nil, List.flatMap_cons, List.flatMap_nil, List.cons_append, List.nil_append,
    List.append_nil, List.append_assoc]
  rfl

theorem podRow_eq (p : Pod) : podRow p = write (podItems p) := by
  have hkind : ∀ c : Bool, Html.escape (if c then lit "bad" else []) = if c then lit "bad" else [] :=
    fun c => escape_ite rfl rfl
  unfold podRow podItems
  simp only [escapeHtml_eq, write_el, Html.write_append, write_cell, write_monoCell, apply_ite write,
    write_pill (hkind _), write_pill (escape_readyCls _), write_text, escape_number, List.append_assoc]
  rfl

theorem deploymentRow_eq (cluster ns : Text) (d : Deployment) :
    deploymentRow cluster ns d = write (deploymentItems cluster ns d) := by
  unfold deploymentRow deploymentItems
  simp only [escapeHtml_eq, write_el, Html.write_append, write_cell, write_monoCell,
    write_pill (escape_readyCls _), Html.write_cons, Html.write_nil, Item.write,
    Html.writeAttribute, List.map_cons, List.map_nil, List.flatMap_cons, List.flatMap_nil,
    List.cons_append, List.nil_append, List.append_nil, List.append_assoc]
  rfl

theorem eventRow_eq (e : Event) : eventRow e = write (eventItems e) := by
  have hkind : Html.escape (if e.type = lit "Warning" then lit "warn" else []) =
      if e.type = lit "Warning" then lit "warn" else [] := escape_ite rfl rfl
  unfold eventRow eventItems
  simp only [escapeHtml_eq, write_el, Html.write_append, write_cell, write_monoCell,
    write_pill hkind, write_text, List.append_assoc]
  rfl

/-! ### Pages

The same of sections and pages, from their parts. -/

/-- So do the sections: one that could not be had, the pods, the deployments and the events. -/
theorem errorSection_eq (title : String) (htitle : Html.escape (lit title) = lit title)
    (error : Text) : errorSection title error = write (errorItems title error) := by
  rw [errorSection, errorItems, escapeHtml_eq, write_note title htitle]

theorem podsSection_eq (pods : Section Pod) : podsSection pods = write (podsItems pods) := by
  have hrow : podRow = fun p => write (podItems p) := funext podRow_eq
  match pods with
  | .other error => exact errorSection_eq "Pods" rfl error
  | .rows [] => exact (write_note "Pods" rfl (lit "no pods")).symm
  | .rows (p :: pods) =>
      unfold podsSection podsItems
      rw [hrow, write_table, write_flatMap podItems]
      simp only [Html.write_cons, Html.write_nil, Item.write, escape_number, List.append_nil,
        List.append_assoc]
      rfl

theorem depsSection_eq (cluster ns : Text) (deps : Section Deployment) :
    depsSection cluster ns deps = write (depsItems cluster ns deps) := by
  have hrow : deploymentRow cluster ns = fun d => write (deploymentItems cluster ns d) :=
    funext (deploymentRow_eq cluster ns)
  match deps with
  | .other error => exact errorSection_eq "Deployments" rfl error
  | .rows [] => exact (write_note "Deployments" rfl (lit "no deployments")).symm
  | .rows (d :: deps) =>
      unfold depsSection depsItems
      rw [hrow, write_table, write_flatMap (deploymentItems cluster ns)]
      simp only [Html.write_cons, Html.write_nil, Item.write, escape_number, List.append_nil,
        List.append_assoc]
      rfl

theorem eventsSection_eq (events : Section Event) :
    eventsSection events = write (eventsItems events) := by
  have hrow : eventRow = fun e => write (eventItems e) := funext eventRow_eq
  match events with
  | .other error => exact errorSection_eq "Recent events" rfl error
  | .rows [] => exact (write_note "Recent events" rfl (lit "no recent events")).symm
  | .rows (e :: events) =>
      unfold eventsSection eventsItems
      rw [hrow, write_table, write_flatMap eventItems, write_text]
      simp only [List.append_assoc]
      rfl

/-- So do the list of clusters, that of tools, and the calls behind a reply. -/
theorem clustersHtml_eq (clusters : List Cluster) (error : Text) :
    clustersHtml clusters error = write (clustersItems clusters error) := by
  have hcard : clusterCard = fun c => write (cardItems c) := funext clusterCard_eq
  unfold clustersHtml clustersItems
  rw [apply_ite write, ← emptyNote_eq, Html.write_append, write_ifGiven, write_flatMap, hcard,
    escapeHtml_eq]
  simp only [Html.write_cons, Html.write_nil, Item.write, List.append_nil]
  rfl

theorem toolsHtml_eq (tools : List (Text × Text)) :
    toolsHtml tools = write (tools.flatMap toolItems) := by
  rw [write_flatMap]
  apply congrArg (fun f => tools.flatMap f)
  funext tool
  simp only [toolItems, escapeHtml_eq, write_el, Html.write_append, Html.write_cons, Html.write_nil,
    Item.write, List.cons_append, List.nil_append, List.append_nil, List.append_assoc]
  rfl

theorem traceHtml_eq (tools : List Text) : traceHtml tools = write (traceItems tools) := by
  unfold traceHtml traceItems
  rw [apply_ite write, write_el, write_flatMap]
  simp only [escapeHtml_eq, write_el, Html.write_cons, Html.write_nil, Item.write,
    List.cons_append, List.nil_append, List.append_nil, List.append_assoc]
  rfl

/-- **A page** is written as its templates mean it: the text that is assigned is what the items of
the page are written as. -/
theorem html_eq (page : Page) : page.html = write page.items := by
  cases page with
  | clusters list error => exact clustersHtml_eq list error
  | clustersFailed exc =>
      rw [Page.items, ← emptyNote_eq, Html.write_cons, write_text, ← escapeHtml_eq]
      rfl
  | tools list => exact toolsHtml_eq list
  | namespaces list =>
      rw [Page.items, write_flatMap]
      simp only [write_el, write_text, ← escapeHtml_eq]
      rfl
  | loading ns =>
      rw [Page.items, ← emptyNote_eq, Html.write_cons, Html.write_cons, write_text]
      simp only [Page.html, escapeHtml_eq, List.append_assoc]
      rfl
  | detail d =>  -- the drill-down is its three tables, one behind the other
      show _ = write (podsItems d.pods ++ depsItems d.cluster d.ns d.deployments ++
        eventsItems d.events)
      rw [Html.write_append, Html.write_append, ← podsSection_eq, ← depsSection_eq,
        ← eventsSection_eq]
      rfl
  | detailFailed exc =>
      rw [Page.items, ← emptyNote_eq, write_text, ← escapeHtml_eq]
      rfl
  | userMessage text =>
      rw [Page.items, bubbleItems, write_el, write_text, ← escapeHtml_eq]
      rfl
  | investigating => decide
  | trace list => exact traceHtml_eq list
  | chatFailed exc =>
      rw [Page.items, Html.write_cons, write_text, ← escapeHtml_eq]
      rfl
  | me name sub =>  -- the name is a piece of text, the link is part of the template
      rw [Page.items, Html.write_append, Html.write_cons, write_text, write_el, Page.html,
        escapeHtml_eq, List.append_assoc]
      rfl

/-! ## No tag comes from data

A tag is of a template if its name and the names of its attributes are on a short list. The values
are left open, but for that of a link. All tags of all pages are on it. -/

/-- The tags of the templates, with the names of their attributes. -/
def shapes : List (Text × List Text) :=
  [("div", []), ("div", ["class"]), ("div", ["class", "data-name", "title"]), ("span", ["class"]),
   ("br", []), ("li", []), ("code", []), ("h3", []), ("table", ["class"]), ("tr", []), ("th", []),
   ("td", []), ("td", ["class"]), ("button", ["class", "data-cluster", "data-ns", "data-name"]),
   ("option", []), ("a", ["href"])].map fun shape => (lit shape.1, shape.2.map lit)

/-- A tag of the templates. The only link is the one to log out. -/
def ofTemplate : Html.Tag → Bool
  | .opening name attributes => shapes.contains (name, attributes.map Prod.fst) &&
    attributes.all fun a => a.1 != lit "href" || a.2 == lit "/auth/logout"
  | .closing name            => (shapes.map Prod.fst).contains name

def itemOfTemplate : Item → Bool
  | .text _ => true
  | .tag t  => ofTemplate t

/-- An element is of the templates if its tag is and what is in it is. -/
theorem all_el (name : String) (attributes : List (String × Text)) (items : List Item) :
    (el name attributes items).all itemOfTemplate =
      (ofTemplate (.opening (lit name) (attributes.map fun a => (lit a.1, a.2))) &&
        items.all itemOfTemplate) := by
  show (ofTemplate (.opening _ _) &&
    (items ++ [Item.tag (.closing (lit name))]).all itemOfTemplate) = _
  rw [List.all_append, List.all_cons, List.all_nil, Bool.and_true]
  -- the closing tag has the name of the opening one, so it needs no check of its own
  cases hopening : ofTemplate (.opening (lit name) (attributes.map fun a => (lit a.1, a.2))) with
  | false => rfl
  | true =>
      rw [ofTemplate, Bool.and_eq_true, List.contains_iff_mem] at hopening
      have hclosing : ofTemplate (.closing (lit name)) = true := by
        rw [ofTemplate, List.contains_iff_mem]
        exact List.mem_map_of_mem hopening.1
      show (items.all itemOfTemplate && ofTemplate (.closing (lit name))) = _
      rw [hclosing, Bool.and_true]
      rfl

/-- A part that is not there is harmless. -/
theorem all_ifGiven (s : Text) (items : List Item) :
    (ifGiven s items).all itemOfTemplate = (items.all itemOfTemplate || decide (s = [])) := by
  unfold ifGiven
  by_cases hs : s = [] <;> simp [hs]

/-- There are only tags of the templates in the card of a cluster, the rows of pods, deployments and
events, in notes, in lists of these and in tables of rows. -/
theorem cardItems_all (c : Cluster) : (cardItems c).all itemOfTemplate = true := by
  simp only [cardItems, all_el, List.all_append, all_ifGiven, List.map_cons, List.map_nil]
  rfl

theorem podItems_all (p : Pod) : (podItems p).all itemOfTemplate = true := by
  simp only [podItems, cell, monoCell, pill, all_el, List.all_append, List.map_cons, List.map_nil,
    apply_ite (fun items => List.all items itemOfTemplate)]
  split <;> rfl

theorem deploymentItems_all (cluster ns : Text) (d : Deployment) :
    (deploymentItems cluster ns d).all itemOfTemplate = true := by
  simp only [deploymentItems, cell, monoCell, pill, all_el, List.all_append, List.map_cons,
    List.map_nil]
  rfl

theorem eventItems_all (e : Event) : (eventItems e).all itemOfTemplate = true := by
  simp only [eventItems, cell, monoCell, pill, all_el, List.all_append, List.map_cons,
    List.map_nil]
  rfl

theorem noteItems_all (title : String) (note : Text) :
    (noteItems title note).all itemOfTemplate = true := by
  simp only [noteItems, all_el, List.all_append, List.map_cons, List.map_nil]
  rfl

theorem flatMap_all {α : Type} {f : α → List Item}
    (h : ∀ a, (f a).all itemOfTemplate = true) (list : List α) :
    (list.flatMap f).all itemOfTemplate = true := by
  rw [List.all_flatMap, List.all_eq_true]
  exact fun a _ => h a

theorem tableItems_all {heading rows : List Item} (columns : List String)
    (hheading : heading.all itemOfTemplate = true) (hrows : rows.all itemOfTemplate = true) :
    (tableItems heading columns rows).all itemOfTemplate = true := by
  have hcolumns : (columns.flatMap fun column => el "th" [] [.text (lit column)]).all
      itemOfTemplate = true := flatMap_all (fun column => by rw [all_el]; rfl) columns
  simp only [tableItems, all_el, List.all_append, List.map_cons, List.map_nil, hheading, hcolumns,
    hrows]
  rfl

/-- The tags of a page are tags of the templates. -/
theorem items_all (page : Page) : page.items.all itemOfTemplate = true := by
  cases page with
  | clusters list error =>
      show (clustersItems list error).all itemOfTemplate = true
      unfold clustersItems
      split
      · simp only [emptyItems, all_el, List.all_append, all_ifGiven, List.map_cons, List.map_nil]
        rfl
      · exact flatMap_all cardItems_all list
  | tools list =>
      apply flatMap_all
      intro tool
      simp only [toolItems, all_el, List.all_append, List.map_nil]
      rfl
  | namespaces list =>
      apply flatMap_all
      intro ns
      rw [all_el]
      rfl
  | clustersFailed | loading | detailFailed | userMessage | investigating =>
      simp only [Page.items, emptyItems, bubbleItems, all_el, List.map_cons, List.map_nil]
      rfl
  | detail d =>
      -- each section is an error, a note that it is empty, or a table
      have hpods : (podsItems d.pods).all itemOfTemplate = true := by
        unfold podsItems
        split
        · exact noteItems_all _ _
        · exact noteItems_all _ _
        · exact tableItems_all _ rfl (flatMap_all podItems_all _)
      have hdeps : (depsItems d.cluster d.ns d.deployments).all itemOfTemplate = true := by
        unfold depsItems
        split
        · exact noteItems_all _ _
        · exact noteItems_all _ _
        · exact tableItems_all _ rfl (flatMap_all (deploymentItems_all d.cluster d.ns) _)
      have hevents : (eventsItems d.events).all itemOfTemplate = true := by
        unfold eventsItems
        split
        · exact noteItems_all _ _
        · exact noteItems_all _ _
        · exact tableItems_all _ rfl (flatMap_all eventItems_all _)
      show (podsItems d.pods ++ depsItems d.cluster d.ns d.deployments ++
        eventsItems d.events).all itemOfTemplate = true
      rw [List.all_append, List.all_append, hpods, hdeps, hevents]
      rfl
  | trace list =>
      show (traceItems list).all itemOfTemplate = true
      unfold traceItems
      split
      · rfl
      · rw [all_el, Bool.and_eq_true]
        refine ⟨rfl, flatMap_all ?_ list⟩
        intro tool
        simp only [all_el, List.map_cons, List.map_nil]
        rfl
  | chatFailed exc => rfl
  | me name sub =>
      simp only [Page.items, all_el, List.all_append, List.map_cons, List.map_nil]
      rfl

/-- Tags of the templates are written in a way that can be read, and are read as tags of the
templates. -/
theorem regular_of_template {item : Item} (h : itemOfTemplate item = true) :
    item.regular = true := by
  cases item with
  | text s => rfl
  | tag t =>
      cases t with
      | closing name =>
          -- the names of the templates' tags are letters only
          have hnames : ∀ name ∈ shapes.map Prod.fst, Html.isName name = true := by decide
          exact hnames name (List.contains_iff_mem.mp h)
      | opening name attributes =>
          -- neither do they repeat an attribute, so a reader keeps them all
          have hshapes : ∀ shape ∈ shapes, Html.isName shape.1 = true ∧
              (∀ attr ∈ shape.2, Html.isName attr = true) ∧ shape.2.Nodup := by decide
          rw [itemOfTemplate, ofTemplate, Bool.and_eq_true, List.contains_iff_mem] at h
          obtain ⟨hname, hattributes, hnodup⟩ := hshapes _ h.1
          rw [Item.regular, Html.Tag.regular, hname, decide_eq_true hnodup, Bool.and_true,
            Bool.true_and, List.all_eq_true]
          exact fun a ha => hattributes a.1 (List.mem_map_of_mem ha)

theorem ofTemplate_seen {t : Html.Tag} (h : ofTemplate t = true) : ofTemplate t.seen = true := by
  cases t with
  | closing name => exact h
  | opening name attributes =>
      -- reading decodes the attributes' values; the one that is checked stays as it is
      have hlink : Html.seenValue (lit "/auth/logout") = lit "/auth/logout" := by decide
      rw [ofTemplate, Bool.and_eq_true, List.all_eq_true] at h
      rw [Html.Tag.seen, ofTemplate, Bool.and_eq_true, List.map_map, List.all_map,
        List.all_eq_true]
      refine ⟨h.1, ?_⟩
      intro a ha
      have hattr := h.2 a ha
      show (a.1 != lit "href" || Html.seenValue a.2 == lit "/auth/logout") = true
      rw [Bool.or_eq_true] at hattr ⊢
      apply hattr.imp_right
      intro hvalue
      rw [eq_of_beq hvalue, hlink]
      exact BEq.rfl

/-- So a page is read as its items. -/
theorem read_html (page : Page) : Html.read page.html = some (Html.markup page.items).seen := by
  have hall := List.all_eq_true.mp (items_all page)
  rw [html_eq]
  exact Html.read_write fun item hitem => regular_of_template (hall item hitem)

/-- **A page is read as its templates mean it**, and whatever the data, there are only tags of the
templates. -/
theorem page_read (page : Page) :
    Html.read page.html = some (Html.markup page.items).seen ∧
      ∀ t ∈ (Html.markup page.items).seen.tags, ofTemplate t.2 = true := by
  refine ⟨read_html page, ?_⟩
  intro t ht
  have hseen : t.2 ∈ (Html.markup page.items).seen.tags.map Prod.snd := List.mem_map_of_mem ht
  -- the tags a reader sees are the tags of the items, with their values decoded
  rw [Html.tags_seen] at hseen
  obtain ⟨tag, htag, heq⟩ := List.mem_map.mp hseen
  obtain ⟨item, hitem, hsome⟩ := List.mem_filterMap.mp htag
  rw [← heq]
  apply ofTemplate_seen
  cases item with
  | text s => cases hsome
  | tag t =>
      obtain rfl := Option.some.inj hsome
      exact List.all_eq_true.mp (items_all page) _ hitem

example : Html.read (Page.userMessage (lit "<b onclick=\"x\">")).html =
    some ⟨[([], .opening (lit "div") [(lit "class", lit "bubble")]),
      (lit "<b onclick=\"x\">", .closing (lit "div"))], []⟩ := by decide +kernel

/-! ## Diagnose

The click handler reads three attributes of the element it was called on. A browser may see a value
otherwise than it was given, so what a button asks is said of the values as they are seen. -/

/-- What a click on a Diagnose button sends. -/
def diagnosis (cluster ns name : Text) : Text :=
  lit "diagnose " ++ ns ++ lit "/" ++ name ++ lit " in " ++ cluster

/-- What a click on an element sends. -/
def question : Html.Tag → Option Text
  | .closing _            => none
  | .opening _ attributes =>
    if attributes.lookup (lit "class") = some (lit "diag-btn") then do
      let ns ← attributes.lookup (lit "data-ns")
      let name ← attributes.lookup (lit "data-name")
      let cluster ← attributes.lookup (lit "data-cluster")
      return diagnosis cluster ns name
    else none

def questions (items : List Item) : List Text :=
  (Html.tagsOf items).filterMap fun t => question t.seen

def Section.list {ρ : Type} : Section ρ → List ρ
  | .rows data => data
  | .other _   => []

/-- The questions of one part after the other, and of a list of parts. -/
theorem questions_append (items items' : List Item) :
    questions (items ++ items') = questions items ++ questions items' := by
  unfold questions Html.tagsOf
  rw [List.filterMap_append, List.filterMap_append]

theorem questions_flatMap {α : Type} (f : α → List Item) (list : List α) :
    questions (list.flatMap f) = list.flatMap fun a => questions (f a) := by
  induction list with
  | nil => rfl
  | cons a list ih => rw [List.flatMap_cons, questions_append, ih, List.flatMap_cons]

/-- The question of an element, and those of what is in it. -/
theorem questions_el (name : String) (attributes : List (String × Text)) (items : List Item) :
    questions (el name attributes items) =
      (question (Html.Tag.seen (.opening (lit name) (attributes.map fun a => (lit a.1, a.2))))).toList ++
        questions items := by
  -- a closing tag asks nothing, so the questions are the opening tag's and the content's
  have hclosing : questions [.tag (.closing (lit name))] = [] := rfl
  have hel : el name attributes items =
      [.tag (.opening (lit name) (attributes.map fun a => (lit a.1, a.2)))] ++
        (items ++ [.tag (.closing (lit name))]) := rfl
  rw [hel, questions_append, questions_append, hclosing, List.append_nil]
  apply congrArg (· ++ questions items)
  show [_].filterMap _ = _
  cases hq : question (Html.Tag.seen (.opening (lit name) (attributes.map fun a => (lit a.1, a.2)))) with
  | none => simp [hq]
  | some q => simp [hq]

/-- A text asks nothing, nor does a pod, or an event. -/
theorem questions_text (s : Text) : questions [.text s] = [] := rfl

theorem podItems_questions (p : Pod) : questions (podItems p) = [] := by
  simp only [podItems, cell, monoCell, pill, questions_el, questions_append, questions_text,
    List.map_cons, List.map_nil, apply_ite questions]
  split <;> rfl

theorem eventItems_questions (e : Event) : questions (eventItems e) = [] := by
  simp only [eventItems, cell, monoCell, pill, questions_el, questions_append, questions_text,
    List.map_cons, List.map_nil]
  rfl

/-- A deployment asks for its own diagnosis. -/
theorem deploymentItems_questions (cluster ns : Text) (d : Deployment) :
    questions (deploymentItems cluster ns d) =
      [diagnosis (Html.seenValue cluster) (Html.seenValue ns) (Html.seenValue d.name)] := by
  simp only [deploymentItems, cell, monoCell, pill, questions_el, questions_append,
    questions_text, List.map_cons, List.map_nil]
  rfl

/-- A note asks nothing. -/
theorem noteItems_questions (title : String) (note : Text) :
    questions (noteItems title note) = [] := by
  simp only [noteItems, questions_el, questions_append, questions_text, List.map_cons,
    List.map_nil]
  rfl

/-- A table has the questions of its rows. -/
theorem tableItems_questions {heading : List Item} (hheading : questions heading = [])
    (columns : List String) (rows : List Item) :
    questions (tableItems heading columns rows) = questions rows := by
  have hcolumns : questions (columns.flatMap fun column => el "th" [] [.text (lit column)]) = [] := by
    rw [questions_flatMap, List.flatMap_eq_nil_iff]
    intro column _
    rw [questions_el]
    rfl
  simp only [tableItems, questions_el, questions_append, hheading, hcolumns, List.map_cons,
    List.map_nil]
  rfl

/-- So a drill-down asks for the diagnoses of its deployments, in order. -/
theorem items_questions (d : Detail) : questions d.items = d.deployments.list.map fun dep =>
    diagnosis (Html.seenValue d.cluster) (Html.seenValue d.ns) (Html.seenValue dep.name) := by
  -- of the three tables only the deployments' has buttons
  have hpods : questions (podsItems d.pods) = [] := by
    unfold podsItems
    split
    · exact noteItems_questions _ _
    · exact noteItems_questions _ _
    · rw [tableItems_questions rfl, questions_flatMap, List.flatMap_eq_nil_iff]
      exact fun p _ => podItems_questions p
  have hevents : questions (eventsItems d.events) = [] := by
    unfold eventsItems
    split
    · exact noteItems_questions _ _
    · exact noteItems_questions _ _
    · rw [tableItems_questions rfl, questions_flatMap, List.flatMap_eq_nil_iff]
      exact fun e _ => eventItems_questions e
  rw [Detail.items, questions_append, questions_append, hpods, hevents, List.nil_append,
    List.append_nil]
  unfold depsItems
  split
  · next h =>
    rw [h]
    exact noteItems_questions _ _
  · next h =>
    rw [h]
    exact noteItems_questions _ _
  · next h =>
    rw [h, tableItems_questions rfl, questions_flatMap]
    simp only [deploymentItems_questions, Section.list]
    exact List.map_eq_flatMap.symm

/-- **A Diagnose button for each deployment**, in order, and no other element that asks for a diagnosis:
names and messages make no buttons. -/
theorem detail_buttons (d : Detail) : ∃ m, Html.read d.html = some m ∧
    m.tags.filterMap (fun t => question t.2) = d.deployments.list.map fun dep =>
      diagnosis (Html.seenValue d.cluster) (Html.seenValue d.ns) (Html.seenValue dep.name) := by
  refine ⟨_, read_html (.detail d), ?_⟩
  calc (Html.markup d.items).seen.tags.filterMap (fun t => question t.2)
      = ((Html.markup d.items).seen.tags.map Prod.snd).filterMap question :=
        (List.filterMap_map (f := Prod.snd) (g := question)).symm
    _ = ((Html.tagsOf d.items).map Html.Tag.seen).filterMap question := by rw [Html.tags_seen]
    _ = questions d.items := List.filterMap_map
    _ = _ := items_questions d

end SreAgent.Webapp.Pages
