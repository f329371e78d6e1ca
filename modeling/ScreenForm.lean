import ScreenForm.App.Command
import ScreenForm.App.Config
import ScreenForm.App.Files
import ScreenForm.App.Handlers
import ScreenForm.App.LogFilter
import ScreenForm.Console.Basic
import ScreenForm.Console.Context
import ScreenForm.Console.Frame
import ScreenForm.Console.Run
import ScreenForm.Description.Argument
import ScreenForm.Description.Leaf
import ScreenForm.Description.Line
import ScreenForm.Description.Literal
import ScreenForm.Description.Marker
import ScreenForm.Description.Token
import ScreenForm.Dialog.Basic
import ScreenForm.Dialog.Panel
import ScreenForm.Error
import ScreenForm.Event
import ScreenForm.Form.Assembly
import ScreenForm.Form.Basic
import ScreenForm.Form.Outline
import ScreenForm.Layout.Arrange
import ScreenForm.Layout.Measure
import ScreenForm.Layout.Paint
import ScreenForm.Main
import ScreenForm.Number.Double
import ScreenForm.Number.Shortest
import ScreenForm.Number.Word
import ScreenForm.Proofs.App.Handlers
import ScreenForm.Proofs.Console.Checked
import ScreenForm.Proofs.Console.Demand
import ScreenForm.Proofs.Console.EditEvent
import ScreenForm.Proofs.Console.Exclusive
import ScreenForm.Proofs.Console.Focus
import ScreenForm.Proofs.Console.Group
import ScreenForm.Proofs.Console.Lifecycle
import ScreenForm.Proofs.Console.Move
import ScreenForm.Proofs.Console.Obey
import ScreenForm.Proofs.Console.Outcome
import ScreenForm.Proofs.Console.Route
import ScreenForm.Proofs.Console.Shows
import ScreenForm.Proofs.Console.Step
import ScreenForm.Proofs.Console.Stop
import ScreenForm.Proofs.Console.Tally
import ScreenForm.Proofs.Console.Turn
import ScreenForm.Proofs.Console.Wind
import ScreenForm.Proofs.Description.Bracket
import ScreenForm.Proofs.Description.Fault
import ScreenForm.Proofs.Description.Marker
import ScreenForm.Proofs.Dialog.Panel
import ScreenForm.Proofs.Form.Answer
import ScreenForm.Proofs.Form.Arrow
import ScreenForm.Proofs.Form.Checked
import ScreenForm.Proofs.Form.Focus
import ScreenForm.Proofs.Form.Group
import ScreenForm.Proofs.Form.Growth
import ScreenForm.Proofs.Form.Made
import ScreenForm.Proofs.Form.Marked
import ScreenForm.Proofs.Form.Nesting
import ScreenForm.Proofs.Form.Structure
import ScreenForm.Proofs.Form.Styling
import ScreenForm.Proofs.Form.Unstyled
import ScreenForm.Proofs.Layout.Arrange
import ScreenForm.Proofs.Layout.Confined
import ScreenForm.Proofs.Layout.Natural
import ScreenForm.Proofs.Screen.Buffer
import ScreenForm.Proofs.Style.Layering
import ScreenForm.Proofs.Widget.Focus
import ScreenForm.Proofs.Widget.Forest
import ScreenForm.Proofs.Widget.Group
import ScreenForm.Proofs.Widget.Path
import ScreenForm.Proofs.Widget.SeeThrough
import ScreenForm.Proofs.Widget.Shape
import ScreenForm.Proofs.Widget.Unstyled
import ScreenForm.Proofs.Widget.Wrapper
import ScreenForm.Screen.Area
import ScreenForm.Screen.Buffer
import ScreenForm.Screen.Script
import ScreenForm.Strings
import ScreenForm.Style.Basic
import ScreenForm.Style.Code
import ScreenForm.Style.Palette
import ScreenForm.Style.Theme
import ScreenForm.Text.CharSet
import ScreenForm.Text.Class
import ScreenForm.Text.Cluster
import ScreenForm.Text.Columns
import ScreenForm.Text.Ligature
import ScreenForm.Text.Quoted
import ScreenForm.Text.Split
import ScreenForm.Text.Table.Alphanumeric
import ScreenForm.Text.Table.Combining
import ScreenForm.Text.Table.Emoji
import ScreenForm.Text.Table.Printable
import ScreenForm.Text.Table.Width
import ScreenForm.Text.Width
import ScreenForm.Text.Wrap
import ScreenForm.Toml.DateTime
import ScreenForm.Toml.Document
import ScreenForm.Toml.Number
import ScreenForm.Toml.Text
import ScreenForm.Toml.Value
import ScreenForm.Widget.Basic
import ScreenForm.Widget.Focus
import ScreenForm.Widget.Key
import ScreenForm.Widget.Tree
import ScreenForm.Proofs.App.Run
import ScreenForm.Proofs.Number.Machine
import ScreenForm.Proofs.Text.Wrap
import ScreenForm.Proofs.Layout.Machine
import ScreenForm.Proofs.Layout.Safe
import ScreenForm.Proofs.Layout.Tower
import ScreenForm.Proofs.Form.Cursor
import ScreenForm.Proofs.Form.Step
import ScreenForm.Proofs.Widget.Cursor
import ScreenForm.Proofs.Widget.Step
import ScreenForm.Proofs.Text.Bytes
import ScreenForm.Proofs.Layout.Focus
import ScreenForm.Proofs.Dialog.View
import ScreenForm.Proofs.Description.Lexeme
import ScreenForm.Proofs.Description.Grammar
import ScreenForm.Proofs.Description.Writing
import ScreenForm.Proofs.Description.MarkerText
import ScreenForm.Proofs.Console.Key
import ScreenForm.Proofs.Description.Template
import ScreenForm.Proofs.Description.TemplateLine
import ScreenForm.Proofs.Description.Rule
import ScreenForm.Proofs.Form.Rule
import ScreenForm.Proofs.Form.Numbering
import ScreenForm.Proofs.Layout.Columns
import ScreenForm.Proofs.Layout.Grid
import ScreenForm.Proofs.Layout.Widen
import ScreenForm.Proofs.Text.Width
import ScreenForm.Proofs.Layout.Label
import ScreenForm.Proofs.Form.Grid
import ScreenForm.Proofs.Text.Break
import ScreenForm.Proofs.Layout.Scroll
import ScreenForm.Proofs.Layout.Cursor
import ScreenForm.Proofs.Dialog.Overlay
import ScreenForm.Proofs.Text.Words
import ScreenForm.Proofs.Style.Format
import ScreenForm.Proofs.Console.Frame
import ScreenForm.Proofs.Console.Footer
import ScreenForm.Proofs.Form.Access
import ScreenForm.Proofs.Console.Refuse
import ScreenForm.Proofs.Console.Message
import ScreenForm.Proofs.Console.Press
import ScreenForm.Proofs.Description.Repeat
import ScreenForm.Proofs.Form.Reline
import ScreenForm.Proofs.Widget.Outline
import ScreenForm.Proofs.Form.Legible
import ScreenForm.Proofs.Form.Outline
