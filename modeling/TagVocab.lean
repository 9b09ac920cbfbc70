import TagVocab.AstTags
import TagVocab.AstTags.Routes
import TagVocab.CommandLine
import TagVocab.Decimal.Binary64
import TagVocab.Document.AstNames
import TagVocab.Document.Basic
import TagVocab.Document.SymbolTable
import TagVocab.Document.VisitorTrait
import TagVocab.Document.VisitorWalk
import TagVocab.Failure
import TagVocab.FileAccess
import TagVocab.FileStore.Basic
import TagVocab.FileStore.Operations
import TagVocab.FileStore.Path
import TagVocab.Generation
import TagVocab.GrammarSymbols
import TagVocab.Main
import TagVocab.Session
import TagVocab.Settings
import TagVocab.Settings.FromToml
import TagVocab.Statement.Stats
import TagVocab.Statement.Vocabulary
import TagVocab.SymbolList
import TagVocab.SymbolNames
import TagVocab.Tag
import TagVocab.Text.Blank
import TagVocab.Text.CaseTable
import TagVocab.Text.CharClass
import TagVocab.Text.LetterCase
import TagVocab.Text.Quoted
import TagVocab.Text.VisibleTable
import TagVocab.Text.Word
import TagVocab.Text.WordTable
import TagVocab.Toml.Reader
import TagVocab.Toml.Scalar
import TagVocab.Toml.Table
import TagVocab.Toml.Value
import TagVocab.Tree.Node
import TagVocab.Tree.Outline
import TagVocab.Tree.Recorder
import TagVocab.Tree.Traversal
import TagVocab.Writing
import TagVocab.Proofs.AstTags
import TagVocab.Proofs.AstTags.TagLine
import TagVocab.Proofs.Document.GrammarTable
import TagVocab.Proofs.Document.GrammarTableReading
import TagVocab.Proofs.Document.Reading
import TagVocab.Proofs.Document.Router
import TagVocab.Proofs.Document.SymbolTable
import TagVocab.Proofs.Document.VisitorParts
import TagVocab.Proofs.Document.VisitorTrait
import TagVocab.Proofs.Document.VisitorWalk
import TagVocab.Proofs.Generation
import TagVocab.Proofs.GrammarSymbols
import TagVocab.Proofs.Layout
import TagVocab.Proofs.Settings
import TagVocab.Proofs.Statement.Stats
import TagVocab.Proofs.Statement.Visiting
import TagVocab.Proofs.SymbolTable
import TagVocab.Proofs.Tag
import TagVocab.Proofs.Text.Blank
import TagVocab.Proofs.Text.Layout
import TagVocab.Proofs.Text.LetterCase
import TagVocab.Proofs.Text.Literal
import TagVocab.Proofs.Text.Words
import TagVocab.Proofs.Tree.Ancestors
import TagVocab.Proofs.Tree.Preorder
import TagVocab.Proofs.Visitor
import TagVocab.Proofs.GrammarSymbols.SymbolLine
import TagVocab.Proofs.Tree.Outline
import TagVocab.Proofs.Tree.OutlineReading
import TagVocab.Proofs.SymbolTable.Distinct
import TagVocab.Proofs.FileStore.Entries
import TagVocab.Proofs.FileStore.Lookup
import TagVocab.Proofs.FileStore.Path
import TagVocab.Proofs.FileStore.Directories
import TagVocab.Proofs.FileStore.Replacing
import TagVocab.Proofs.Writing
import TagVocab.Proofs.Session.Reading
import TagVocab.Proofs.Writing.Frame
import TagVocab.Proofs.Session.AllOrNothing
import TagVocab.Proofs.AstTags.Clashes
import TagVocab.Proofs.Session.ExitCode
import TagVocab.Proofs.Tree.Positions
import TagVocab.Proofs.Tree.Calls
import TagVocab.Proofs.Statement.Overrides
import TagVocab.Proofs.Tree.Mirror
import TagVocab.Proofs.Statement.Mirror
import TagVocab.Proofs.Appending
import TagVocab.Proofs.GrammarSymbols.WordList
import TagVocab.Proofs.Document.NameLiterals
import TagVocab.Proofs.AstTags.Refusals
import TagVocab.Proofs.Tree.Layout
import TagVocab.Proofs.Statement.Printers
import TagVocab.Proofs.Settings.Validity
import TagVocab.Proofs.SymbolList.Pushes
import TagVocab.Proofs.Failure
import TagVocab.Proofs.Document.NameCode
import TagVocab.Proofs.Document.VisitorRun
import TagVocab.Proofs.Statement.Sources
