import Yuml.Token
import Yuml.Number.Binary64
import Yuml.Text.Utf8
import Yuml.Text.Quoted
import Yuml.Text.LetterCase
import Yuml.Text.WordChar
import Yuml.Text.Lines
import Yuml.Label.Paint
import Yuml.Label
import Yuml.Directive
import Yuml.Element.Reading
import Yuml.Relation
import Yuml.Attributes
import Yuml.Diagram
import Yuml.Session
import Yuml.World.Program
import Yuml.Settings.Store
import Yuml.Picture
import Yuml.Health
import Yuml.Journal
import Yuml.Main
import Yuml.Proofs.Cutting
import Yuml.Proofs.Scan
import Yuml.Proofs.Production
import Yuml.Proofs.Fresh
import Yuml.Proofs.Chart
import Yuml.Proofs.Body
import Yuml.Proofs.Header
import Yuml.Proofs.Outcome
import Yuml.Proofs.Conservation
import Yuml.Proofs.Ports
import Yuml.Proofs.Written
import Yuml.Proofs.Exposed
import Yuml.Proofs.Reading
import Yuml.Proofs.Bracketing
import Yuml.Proofs.Neighbours
import Yuml.Proofs.NoteLinks
import Yuml.Proofs.Appending
import Yuml.Proofs.Mentions
import Yuml.Proofs.Boxes
import Yuml.Proofs.Segments
import Yuml.Proofs.Lettering
import Yuml.Proofs.ActivitySpelling
import Yuml.Proofs.ClassSpelling
import Yuml.Proofs.Rotation
import Yuml.Proofs.Layout
import Yuml.Proofs.Seams
import Yuml.Proofs.Restyling
import Yuml.Proofs.History
import Yuml.Proofs.Ink
import Yuml.Proofs.Rereading
import Yuml.Proofs.Wrapping
import Yuml.Proofs.Escaping
import Yuml.Proofs.Formatting
import Yuml.Proofs.Numerals
import Yuml.Proofs.Repeating
import Yuml.Proofs.Telling
import Yuml.Proofs.Brightness
import Yuml.Proofs.ColorSuffix
import Yuml.Proofs.Keeping
import Yuml.Proofs.Hints
import Yuml.Proofs.Readable
import Yuml.Proofs.Reporting
import Yuml.Proofs.Trees
import Yuml.Proofs.Encoding
import Yuml.Proofs.Rendering
