import DetectorDashboard.Command.Basic
import DetectorDashboard.Dashboard

/-!
The HTML document of the dashboard: every panel with all but the visible one hidden, the pending
alerts, and the time of the last update. It needs no script; the browser is told to load it again
after some seconds.
-/

namespace DetectorDashboard.Http

open Html Html.Token

namespace Document

/-- An element on a line of its own. -/
def line (name : String) (attributes : List Attribute) (content : Html.Document) :
    Html.Document :=
  element name attributes content ++ [newline]

def label (name : String) (s : String) : Html.Document :=
  element name [] [.text s]

def cell (p : Page) (id : String) : Html.Document :=
  element "td" [.of "id" id] (p.html id)

def submitButton (s : String) : Html.Document :=
  element "button" [.of "type" "submit"] [.text s]

def form (action : String) (content : Html.Document) : Html.Document :=
  element "form" [.of "method" "post", .of "action" action] content

def valueRow (p : Page) (name id : String) : Html.Document :=
  line "tr" [] (label "th" name ++ cell p id)

/-- A value together with the form that sets it. -/
def settingRow (p : Page) (name id action : String) : Html.Document :=
  let input := openTag "input" [.of "name" "value", .bare "required"]
  line "tr" []
    (label "th" name ++ cell p id
      ++ element "td" [] (form action (input :: submitButton "Set")))

def homePanel (p : Page) : Html.Document :=
  line "table" []
    (newline :: valueRow p "API version" CellId.apiVersion
      ++ valueRow p "Adapters" CellId.adapters)

def actionForm (a : DetectorAction) : Html.Document :=
  form ("/detector/command/" ++ a.name) (submitButton a.name) ++ [newline]

def detectorPanel (p : Page) : Html.Document :=
  line "table" []
    (newline :: settingRow p "Exposure (s)" CellId.exposure "/detector/exposure"
      ++ settingRow p "Period (s)" CellId.period "/detector/period"
      ++ settingRow p "Images" CellId.images "/detector/nimages"
      ++ valueRow p "Acquisition complete" CellId.complete
      ++ valueRow p "State" CellId.state)
  ++ line "div" [.of "class" "commands"]
    (newline :: DetectorAction.all.flatMap actionForm)

/-- The heading of a column. -/
def columnLabel (name : String) : String :=
  String.ofList (name.toList.map fun c => if c = '-' then ' ' else c)

def headingRow (kind : UnitKind) : Html.Document :=
  line "tr" []
    (label "th" "#" ++ label "th" UnitKind.connectedColumn
      ++ kind.columnNames.flatMap fun name => label "th" (columnLabel name))

def unitRow (p : Page) (kind : UnitKind) (i : Nat) : Html.Document :=
  line "tr" [.of "id" (kind.rowId i)]
    (label "td" (Text.decimal (i + 1)) ++ cell p (kind.connectedId i)
      ++ kind.columnNames.flatMap fun name => cell p (kind.cellId i name))

def unitTable (p : Page) (kind : UnitKind) (tableRows : Nat) : Html.Document :=
  let rows := max tableRows (p.rowCount kind)
  line "table" [.of "id" (kind.stem ++ "-table")]
    (newline :: headingRow kind ++ (List.range rows).flatMap (unitRow p kind))

def inputLabel (name : String) (attributes : List Attribute) : Html.Document :=
  element "label" [] [.text (name ++ " "), openTag "input" attributes]

def writerForms : Html.Document :=
  form "/processor/params"
    (inputLabel "Frames" [.of "name" "frames", .bare "required"]
      ++ inputLabel "Path" [.of "name" "path"]
      ++ inputLabel "File name" [.of "name" "filename"]
      ++ submitButton "Apply")
  ++ newline :: form "/processor/start" (submitButton "Start writing")
  ++ newline :: form "/processor/stop" (submitButton "Stop writing")
  ++ [newline]

def panelContent (p : Page) (tableRows : Nat) : Panel → Html.Document
  | .home => homePanel p
  | .detector => detectorPanel p
  | .receivers => unitTable p .receiver tableRows
  | .processors => unitTable p .processor tableRows ++ writerForms

def panelSection (s : Snapshot) (tableRows : Nat) (panel : Panel) : Html.Document :=
  let hidden := if panel = s.panel then [] else [.bare "hidden"]
  line "section" ([.of "id" panel.name, .of "class" panel.name] ++ hidden)
    (newline :: line "h2" [] [.text panel.label] ++ panelContent s.page tableRows panel)

def link (current panel : Panel) : Html.Document :=
  let mark := if panel = current then [.of "aria-current" "page"] else []
  line "a" (.of "href" ("/view/" ++ panel.name) :: mark) [.text panel.label]

def alertBox (alert : String) : Html.Document :=
  line "div" [.of "class" "alert", .of "role" "alert"] [.text alert]

/-- Without a period the browser does not load the page again. -/
def refresh (seconds : Nat) : Html.Document :=
  if seconds = 0 then []
  else
    [ openTag "meta" [.of "http-equiv" "refresh", .of "content" (Text.decimal seconds)],
      newline ]

def head (s : Snapshot) (refreshSeconds : Nat) : Html.Document :=
  line "head" []
    (newline :: openTag "meta" [.of "charset" "utf-8"] :: newline :: refresh refreshSeconds
      ++ line "title" [] [.text s.title])

def footer (s : Snapshot) : Html.Document :=
  let updated := (s.page.updatedAt.map (·.clock)).getD "never"
  line "footer" []
    ([.text "API ", .text s.apiVersion, .text " ", .entity "middot", .text " last update "]
      ++ element "span" [.of "id" "last-update"] [.text updated])

def body (s : Snapshot) (alerts : List String) (tableRows : Nat) : Html.Document :=
  line "body" []
    (newline :: line "nav" [] (newline :: Panel.all.flatMap (link s.panel))
      ++ alerts.flatMap alertBox ++ Panel.all.flatMap (panelSection s tableRows) ++ footer s)

end Document

/-- The whole document. -/
def document (s : Snapshot) (alerts : List String) (refreshSeconds tableRows : Nat) :
    Html.Document :=
  [.doctype, newline]
    ++ Document.line "html" [.of "lang" "en"]
      (newline :: Document.head s refreshSeconds ++ Document.body s alerts tableRows)

end DetectorDashboard.Http
