import Sitemap.Decorator
import Sitemap.Main
import Sitemap.Site
import Sitemap.Proofs.Except
import Sitemap.Proofs.Scan.Decorators
import Sitemap.Proofs.Number.Numerals
import Sitemap.Proofs.Scan.Partition
import Sitemap.Proofs.Source.Lexing
import Sitemap.Proofs.Source.Parsing
import Sitemap.Proofs.Source.Quoted
import Sitemap.Proofs.GeneratedModule.Tokens
import Sitemap.Proofs.Source.Statements
import Sitemap.Proofs.GeneratedModule.Parsing
import Sitemap.Proofs.GeneratedModule.Lines
import Sitemap.Proofs.GeneratedModule.RoundTrip
import Sitemap.Proofs.GeneratedModule.Inspection
import Sitemap.Proofs.Store.Following
import Sitemap.Proofs.Store.Writing
import Sitemap.Proofs.Store.Directories
import Sitemap.Proofs.Store.Modules
import Sitemap.Proofs.Store.Trees
import Sitemap.Proofs.Scan.SourceFiles
import Sitemap.Proofs.Scan.Trees
import Sitemap.Proofs.Scan.Listing
import Sitemap.Proofs.Scan.PackagedModules
import Sitemap.Proofs.Scan.Files
import Sitemap.Proofs.Scan.Rescan
import Sitemap.Proofs.Command.Convergence
import Sitemap.Proofs.Declaration.Foreign
import Sitemap.Proofs.Declaration.RelativeImports
import Sitemap.Proofs.GeneratedModule.Loading
import Sitemap.Proofs.Site.Registration
import Sitemap.Proofs.Number.Reading
import Sitemap.Proofs.Number.Nearest
import Sitemap.Proofs.Priority.Text
import Sitemap.Proofs.Priority.Clamping
import Sitemap.Proofs.Text.Lines
import Sitemap.Proofs.Xml.Content
import Sitemap.Proofs.Document.Characters
import Sitemap.Proofs.Document.Reading
import Sitemap.Proofs.Document.Validity
import Sitemap.Proofs.Document.Problems
import Sitemap.Proofs.Declaration.Listing
import Sitemap.Proofs.Source.Evaluation
import Sitemap.Proofs.Source.Writing
import Sitemap.Proofs.Declaration.Faults
import Sitemap.Proofs.Source.Grammar
import Sitemap.Proofs.Declaration.Classes
import Sitemap.Proofs.Store.Frames
import Sitemap.Proofs.Text.Terminal
import Sitemap.Proofs.Site.Freezing
import Sitemap.Proofs.Command.Arguments
import Sitemap.Proofs.Command.Sessions
import Sitemap.Proofs.Command.Frame
import Sitemap.Proofs.Command.Faults
import Sitemap.Proofs.Command.Preview
import Sitemap.Proofs.Declaration.ImportScope
import Sitemap.Proofs.Declaration.Spelling
import Sitemap.Proofs.Scan.DecoratorOrder
import Sitemap.Proofs.Document.Injectivity
import Sitemap.Proofs.Priority.Range
import Sitemap.Proofs.Command.Environment
import Sitemap.Proofs.Log.Calls
