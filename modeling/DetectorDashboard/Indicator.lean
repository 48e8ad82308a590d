import DetectorDashboard.Html.Token
import DetectorDashboard.Schema.Record

/-!
Indicator lamps: off, or lit in one of three colours.
-/

namespace DetectorDashboard

inductive Colour
  | green
  | red
  | yellow
deriving DecidableEq

structure Indicator where
  on : Bool
  colour : Colour
  /-- In pixels. -/
  width : UInt32
deriving DecidableEq

namespace Colour

def name : Colour → String
  | .green => "green"
  | .red => "red"
  | .yellow => "yellow"

def all : List Colour :=
  [.green, .red, .yellow]

def decoder : Schema.Decoder Colour :=
  Schema.choice (all.map fun c => (c.name, c))

end Colour

namespace Indicator

/-- A lamp of the status tables. -/
def healthy (on : Bool) : Indicator where
  on := on
  colour := .green
  width := 20

def icon (i : Indicator) : String :=
  if i.on then i.colour.name ++ "-led-on" else "led-off"

def html (i : Indicator) : Html.Document :=
  [ .openTag "img"
      [ .of "width" (Text.decimal i.width.toNat ++ "px"),
        .of "src" ("img/" ++ i.icon ++ ".png"),
        .of "alt" (if i.on then "on" else "off") ] ]

def json (i : Indicator) : Json :=
  .object
    [ ("on", .bool i.on),
      ("colour", .string i.colour.name),
      ("width", .number (.count i.width.toUInt64)) ]

def decoder : Schema.Decoder Indicator :=
  Schema.record "Indicator"
    (Indicator.mk <$> .required "on" Schema.bool <*> .required "colour" Colour.decoder
      <*> .required "width" Schema.uint32)

end Indicator

end DetectorDashboard
