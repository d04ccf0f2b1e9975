import Scribe.Text.Escape
import Scribe.Text.Identifier
import Scribe.Text.Words
import Scribe.Source.Constants
import Scribe.Source.Layout
import Scribe.Schema.Catalog
import Scribe.Document.MarkdownPage
import Scribe.Document.LookupFile
import Scribe.Text.Utf8
import Scribe.Failure
import Scribe.Tool.Shell
import Scribe.Formatter
import Scribe.Files.Tree
import Scribe.Session
import Scribe.Main
import Scribe.Proofs.Layout.Form
import Scribe.Proofs.Layout.Blame
import Scribe.Proofs.Constants.Returns
import Scribe.Proofs.Constants.Blocks
import Scribe.Proofs.Constants.ReadPrinted
import Scribe.Proofs.Document.Lookup
import Scribe.Proofs.Document.Struct
import Scribe.Proofs.Document.Tag
import Scribe.Proofs.Document.Grid
import Scribe.Proofs.Source.Segmentation
import Scribe.Proofs.Schema.Fetch
import Scribe.Proofs.Generate
import Scribe.Proofs.Files.PlainDisk
import Scribe.Proofs.Constants.Located
import Scribe.Proofs.Constants.Sharing
import Scribe.Proofs.Schema.Refusal
import Scribe.Proofs.Source.LineNumbers
import Scribe.Proofs.Source.SharedIdentifiers
import Scribe.Proofs.Schema.Addresses
import Scribe.Proofs.TableFiles
import Scribe.Proofs.Regeneration
import Scribe.Proofs.Constants.LinesAbove
import Scribe.Proofs.Constants.ByPlace
