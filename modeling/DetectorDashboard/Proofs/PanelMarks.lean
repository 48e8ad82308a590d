import DetectorDashboard.Proofs.AlertBoxes
import DetectorDashboard.Proofs.DocumentParts

/-! Which panel a document shows, as it is read off its text: every panel has a section and a link,
in the same order, and the marks of one panel differ from those of the others. Sections, links and
the title stand in the frame of the document only, so that no cell, form or alert adds to them. -/

namespace DetectorDashboard

namespace Html

/-! ### The opening tags of a name -/

/-- The name of the element that a tag opens; a tag that opens none begins with no name. -/
def openedName (tag : List Char) : List Char :=
  tag.tail.takeWhile isNameChar

/-- The tags in a text that open an element of some name, from the first to the last. -/
def openTags (name : String) (s : List Char) : List (List Char) :=
  (tags s).filter (openedName · = name.toList)

def Token.opens (name : String) : Token → Bool
  | .openTag name' _ => name' = name
  | _ => false

/-- The tokens of a document that open an element of some name. -/
def openings (name : String) (d : Document) : Document :=
  d.filter (·.opens name)

theorem openedName_chars {t : Token} (h : t.IsPlain) (htag : t.isTag = true) {name : String}
    (hname : IsTagName name) : openedName t.chars = name.toList ↔ t.opens name = true := by
  have hne : [] ≠ name.toList := fun h => hname.1 (String.toList_eq_nil_iff.mp h.symm)
  cases t with
  | text s => exact nomatch htag
  | entity name => exact nomatch htag
  | doctype => exact iff_of_false hne Bool.false_ne_true
  | closeTag name' => exact iff_of_false hne Bool.false_ne_true
  | openTag name' attributes =>
      obtain ⟨c, r, hcr, hc, -⟩ := chars_attributes attributes []
      have hopened : openedName (Token.openTag name' attributes).chars = name'.toList := by
        rw [openedName, Token.chars_openTag, List.tail_cons, List.append_assoc, hcr,
          List.takeWhile_append_of_pos h.1, List.takeWhile_cons_of_neg (by simp [hc]),
          List.append_nil]
      rw [hopened, Token.opens, decide_eq_true_iff]
      exact ⟨fun heq => String.toList_injective heq, congrArg _⟩

theorem tags_chars {d : Document} (h : IsPlain d) :
    tags (chars d) = (d.filter (·.isTag)).map Token.chars := by
  rw [tags, readText_chars h, List.map_map]
  induction d with
  | nil => rfl
  | cons t d ih =>
      have hrest := ih (List.forall_mem_cons.mp h).2
      cases htag : t.isTag <;> simpa [stretches, htag] using hrest

theorem openTags_chars {d : Document} (h : IsPlain d) {name : String} (hname : IsTagName name) :
    openTags name (chars d) = (openings name d).map Token.chars := by
  rw [openTags, tags_chars h, List.filter_map, List.filter_filter, openings]
  refine congrArg _ (List.filter_congr fun t ht => ?_)
  cases htag : t.isTag with
  | true =>
      have hopened : decide (openedName t.chars = name.toList) = t.opens name := by
        rw [Bool.eq_iff_iff, decide_eq_true_iff]
        exact openedName_chars (h t ht) htag hname
      simpa using hopened
  | false =>
      have hother : t.opens name = false := by
        cases t with
        | openTag name' attributes => exact nomatch htag
        | _ => rfl
      simp [hother]

theorem notMem_of_openings {d : Document} {name : String} (h : openings name d = [])
    (attributes : List Attribute) : Token.openTag name attributes ∉ d := by
  intro hmem
  exact List.filter_eq_nil_iff.mp h _ hmem (decide_eq_true rfl)

section

variable {name : String}

@[simp] theorem openings_nil : openings name [] = [] := rfl

@[simp] theorem openings_append (d e : Document) :
    openings name (d ++ e) = openings name d ++ openings name e :=
  List.filter_append ..

@[simp] theorem openings_flatMap {α : Type} (l : List α) (f : α → Document) :
    openings name (l.flatMap f) = l.flatMap fun x => openings name (f x) :=
  List.filter_flatMap

@[simp] theorem openings_openTag (name' : String) (attributes : List Attribute) (d : Document) :
    openings name (.openTag name' attributes :: d) =
      (if name' = name then [.openTag name' attributes] else []) ++ openings name d := by
  by_cases hname : name' = name <;> simp [openings, Token.opens, hname]

@[simp] theorem openings_closeTag (name' : String) (d : Document) :
    openings name (.closeTag name' :: d) = openings name d := rfl

@[simp] theorem openings_text (s : String) (d : Document) :
    openings name (.text s :: d) = openings name d := rfl

@[simp] theorem openings_entity (s : String) (d : Document) :
    openings name (.entity s :: d) = openings name d := rfl

@[simp] theorem openings_doctype (d : Document) :
    openings name (.doctype :: d) = openings name d := rfl

@[simp] theorem openings_newline (d : Document) :
    openings name (Token.newline :: d) = openings name d := rfl

@[simp] theorem openings_element (name' : String) (attributes : List Attribute)
    (content : Document) : openings name (Token.element name' attributes content) =
      (if name' = name then [.openTag name' attributes] else []) ++ openings name content := by
  rw [Token.element, openings_append, openings_openTag]
  exact List.append_nil _

end

end Html

open Html Html.Token

namespace Http.Document

section

variable {name : String}

@[simp] theorem openings_line (name' : String) (attributes : List Attribute)
    (content : Html.Document) : openings name (line name' attributes content) =
      (if name' = name then [openTag name' attributes] else []) ++ openings name content := by
  rw [line, openings_append, openings_element]
  exact List.append_nil _

theorem openings_cell (p : Page) (id : String) (h : name ∉ ["td", "img"]) :
    openings name (cell p id) = [] := by
  simp only [List.mem_cons, List.not_mem_nil, or_false, not_or] at h
  have hhtml : openings name (p.html id) = [] := by
    unfold Page.html
    cases p.get? id with
    | none => rfl
    | some cell => cases cell <;> simp [Cell.html, Indicator.html, Ne.symm h.2]
  simp [cell, hhtml, Ne.symm h.1]

/-- The names of the elements that panels are made of. -/
def panelElements : List String :=
  ["h2", "table", "tr", "th", "td", "img", "div", "form", "button", "label", "input"]

/-- Whatever panels are not made of they do not have. -/
theorem openings_panelContent (p : Page) (tableRows : Nat) (panel : Panel)
    (h : name ∉ panelElements) : openings name (panelContent p tableRows panel) = [] := by
  have hcell (id : String) : openings name (cell p id) = [] :=
    openings_cell p id fun hmem => h ((by decide : ["td", "img"] ⊆ panelElements) hmem)
  simp only [panelElements, List.mem_cons, List.not_mem_nil, or_false, not_or] at h
  obtain ⟨-, htable, htr, hth, htd, -, hdiv, hform, hbutton, hlabel, hinput⟩ := h
  cases panel
  all_goals
    simp [panelContent, homePanel, detectorPanel, unitTable, writerForms, valueRow, settingRow,
      headingRow, unitRow, actionForm, inputLabel, submitButton, form, label, hcell,
      Ne.symm htable, Ne.symm htr, Ne.symm hth, Ne.symm htd, Ne.symm hdiv, Ne.symm hform,
      Ne.symm hbutton, Ne.symm hlabel, Ne.symm hinput]

end

/-! ### Sections, links and the title -/

/-- The tag that opens the section of a panel, where one of them is visible. -/
def sectionTag (visible panel : Panel) : Token :=
  let hidden := if panel = visible then [] else [.bare "hidden"]
  .openTag "section" ([.of "id" panel.name, .of "class" panel.name] ++ hidden)

/-- The tag that opens the link to a panel, where one of them is visible. -/
def linkTag (visible panel : Panel) : Token :=
  let mark := if panel = visible then [.of "aria-current" "page"] else []
  .openTag "a" (.of "href" ("/view/" ++ panel.name) :: mark)

section

variable (s : Snapshot) (alerts : List String) (refreshSeconds tableRows : Nat)

theorem openings_panelSection {name : String} (h : name ∉ panelElements) (panel : Panel) :
    openings name (panelSection s tableRows panel) =
      if "section" = name then [sectionTag s.panel panel] else [] := by
  have hheading : "h2" ≠ name := fun heq => h (heq ▸ List.mem_cons_self)
  simp [panelSection, openings_panelContent _ _ _ h, hheading, sectionTag]

theorem openings_link (name : String) (panel : Panel) :
    openings name (link s.panel panel) = if "a" = name then [linkTag s.panel panel] else [] := by
  simp [link, linkTag]

/-- Panels have their sections and their links in the same order. -/
theorem openings_document :
    openings "section" (document s alerts refreshSeconds tableRows) =
        Panel.all.map (sectionTag s.panel) ∧
      openings "a" (document s alerts refreshSeconds tableRows) =
        Panel.all.map (linkTag s.panel) := by
  have hrefresh {name : String} (h : "meta" ≠ name) :
      openings name (refresh refreshSeconds) = [] := by
    unfold refresh
    split <;> simp [h]
  have hnone {α : Type} (l : List α) : l.flatMap (fun _ => ([] : Html.Document)) = [] :=
    List.flatMap_eq_nil_iff.mpr fun _ _ => rfl
  have hsection := openings_panelSection s tableRows (by decide : "section" ∉ panelElements)
  have hlink := openings_panelSection s tableRows (by decide : "a" ∉ panelElements)
  constructor
  · simp [document, head, body, footer, alertBox, openings_link, hrefresh, hsection, hnone,
      List.map_eq_flatMap]
  · simp [document, head, body, footer, alertBox, openings_link, hrefresh, hlink, hnone,
      List.map_eq_flatMap]

/-- What stands before the title. -/
def beforeTitle : Html.Document :=
  [.doctype, newline, openTag "html" [.of "lang" "en"], newline, openTag "head" [], newline,
    openTag "meta" [.of "charset" "utf-8"], newline] ++ refresh refreshSeconds

/-- What stands after the title. -/
def afterTitle : Html.Document :=
  [newline, closeTag "head", newline] ++ body s alerts tableRows ++ [closeTag "html", newline]

theorem document_eq_title :
    document s alerts refreshSeconds tableRows =
      beforeTitle refreshSeconds ++
        (element "title" [] [.text s.title] ++ afterTitle s alerts tableRows) := by
  simp [document, head, line, element, beforeTitle, afterTitle]

theorem contentsAfter_title :
    contentsAfter (.openTag "title" []) (document s alerts refreshSeconds tableRows) =
      [[.text s.title]] := by
  have hpanel := openings_panelSection s tableRows (by decide : "title" ∉ panelElements)
  have hbefore : openings "title" (beforeTitle refreshSeconds) = [] := by
    unfold beforeTitle refresh
    split <;> simp
  have hafter : openings "title" (afterTitle s alerts tableRows) = [] := by
    simp [afterTitle, body, footer, alertBox, openings_link, hpanel]
  rw [document_eq_title, contentsAfter_append (notMem_of_openings hbefore [])]
  simp only [element, List.cons_append, List.nil_append, contentsAfter, if_pos,
    stretches, Token.isTag, reduceCtorEq, if_false]
  rw [contentsAfter_eq_nil (notMem_of_openings hafter [])]

end

end Http.Document

/-! ### Reading the document -/

/-- A document that shows one panel under some title: the sections of the other panels are hidden,
and its link is marked as the current one. -/
structure ShowsPanel (html : List Char) (visible : Panel) (title : String) : Prop where
  sections : openTags "section" html = Panel.all.map fun panel =>
    ("<section id=\"" ++ panel.name ++ "\" class=\"" ++ panel.name ++
      (if panel = visible then "\">" else "\" hidden>")).toList
  unhidden : (openTags "section" html).filter (fun tag => ¬ " hidden".toList <:+: tag) =
    [("<section id=\"" ++ visible.name ++ "\" class=\"" ++ visible.name ++ "\">").toList]
  links : openTags "a" html = Panel.all.map fun panel =>
    ("<a href=\"/view/" ++ panel.name ++
      (if panel = visible then "\" aria-current=\"page\">" else "\">")).toList
  current : (openTags "a" html).filter (fun tag => " aria-current".toList <:+: tag) =
    [("<a href=\"/view/" ++ visible.name ++ "\" aria-current=\"page\">").toList]
  title : textsAfter "<title>".toList html = [escape title]

/-- The document shows the panel and the title that it was made with. -/
theorem showsPanel_document (s : Snapshot) (alerts : List String)
    (refreshSeconds tableRows : Nat) :
    ShowsPanel (render (Http.document s alerts refreshSeconds tableRows)).toList s.panel
      s.title := by
  have hplain := Http.isPlain_document s alerts refreshSeconds tableRows
  obtain ⟨hsections, hlinks⟩ := Http.Document.openings_document s alerts refreshSeconds tableRows
  have hsectionTags := openTags_chars hplain (by decide : IsTagName "section")
  have hlinkTags := openTags_chars hplain (by decide : IsTagName "a")
  rw [hsections, List.map_map] at hsectionTags
  rw [hlinks, List.map_map] at hlinkTags
  rw [render, String.toList_ofList]
  refine ⟨?_, ?_, ?_, ?_, ?_⟩
  · rw [hsectionTags]
    cases s.panel <;> decide +kernel
  · rw [hsectionTags]
    cases s.panel <;> decide +kernel
  · rw [hlinkTags]
    cases s.panel <;> decide +kernel
  · rw [hlinkTags]
    cases s.panel <;> decide +kernel
  · have htitle : (openTag "title" []).chars = "<title>".toList := by decide
    rw [textsAfter_chars hplain (by decide) (by decide) htitle,
      Http.Document.contentsAfter_title]
    simp [escape]

end DetectorDashboard
