import ComicScript.Main
import ComicScript.Session
import ComicScript.Proofs.Markdown.Sections
import ComicScript.Proofs.Preview.PageIndex
import ComicScript.Proofs.Preview.PageSections
import ComicScript.Proofs.Lint.Shape
import ComicScript.Proofs.Session
import ComicScript.Proofs.Decimal.Numeral
import ComicScript.Proofs.Markup.Escaped
import ComicScript.Proofs.Markup.Drawing
import ComicScript.Proofs.Diagram.PageElements
import ComicScript.Proofs.Markup.Diagram
import ComicScript.Proofs.Markup.Lines
import ComicScript.Proofs.Markup.Document
import ComicScript.Proofs.Text.Upper
import ComicScript.Proofs.Markdown.Entries
import ComicScript.Proofs.Preview.PageHtml
import ComicScript.Proofs.Layout.Sound
import ComicScript.Proofs.Script.Pages
import ComicScript.Proofs.Diagram.Layouts
import ComicScript.Proofs.CommandLine.Run
import ComicScript.Proofs.Preview.Cuts
import ComicScript.Proofs.Session.Warnings
import ComicScript.Proofs.Layout.Partition
import ComicScript.Proofs.Lint.Kept
import ComicScript.Proofs.Preview.Emphasis
import ComicScript.Proofs.Preview.Nesting
import ComicScript.Proofs.Preview.Groups
import ComicScript.Proofs.Markdown.Printed
import ComicScript.Proofs.Preview.Boundaries
import ComicScript.Proofs.Preview.NestedEntries
import ComicScript.Proofs.Lint.Dialogue
import ComicScript.Proofs.Lint.PageLayouts
import ComicScript.Proofs.Lint.Collisions
import ComicScript.Proofs.Script.RecoveredKeys
import ComicScript.Proofs.Script.BlockText
import ComicScript.Proofs.Layout.Printed
import ComicScript.Proofs.Markdown.Spacing
import ComicScript.Proofs.Script.DialogueKeys
import ComicScript.Proofs.Markup.Elements
import ComicScript.Proofs.Diagram.Painting
import ComicScript.Proofs.Lint.Selection
import ComicScript.Proofs.Markup.Attributes
import ComicScript.Proofs.Decimal.Canonical
import ComicScript.Proofs.Output.Suite
