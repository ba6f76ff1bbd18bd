import UsedSelectors.Builtin
import UsedSelectors.CommandLine.Arguments
import UsedSelectors.CommandLine.Run
import UsedSelectors.Component.Failure
import UsedSelectors.Component.Roots
import UsedSelectors.Encoding.Charset
import UsedSelectors.Encoding.Codec
import UsedSelectors.Extraction
import UsedSelectors.Files.FileReport
import UsedSelectors.Files.FileSystem
import UsedSelectors.Files.Path
import UsedSelectors.Files.SourceFiles
import UsedSelectors.Files.SourceText
import UsedSelectors.Json
import UsedSelectors.Log
import UsedSelectors.Main
import UsedSelectors.Markup.BodyRules
import UsedSelectors.Markup.Builder
import UsedSelectors.Markup.CharacterNames
import UsedSelectors.Markup.CharacterReference
import UsedSelectors.Markup.Document
import UsedSelectors.Markup.Dom
import UsedSelectors.Markup.Formatting
import UsedSelectors.Markup.HeadRules
import UsedSelectors.Markup.Reader
import UsedSelectors.Markup.Rules
import UsedSelectors.Markup.TableRules
import UsedSelectors.Markup.Token
import UsedSelectors.Markup.Tokenizer
import UsedSelectors.Markup.Vocabulary
import UsedSelectors.Mode
import UsedSelectors.Parsing.Automaton
import UsedSelectors.Parsing.CharSet
import UsedSelectors.Parsing.Closure
import UsedSelectors.Parsing.Item
import UsedSelectors.Parsing.Language
import UsedSelectors.Parsing.Lexer
import UsedSelectors.Parsing.Merge
import UsedSelectors.Parsing.Overlap
import UsedSelectors.Parsing.Parser
import UsedSelectors.Parsing.Production
import UsedSelectors.Parsing.Rule
import UsedSelectors.Parsing.Separate
import UsedSelectors.Parsing.Stack
import UsedSelectors.Parsing.Subtree
import UsedSelectors.Parsing.SyntaxTree
import UsedSelectors.Parsing.Table
import UsedSelectors.Proofs.Attempts
import UsedSelectors.Proofs.CommandLine.Agreement
import UsedSelectors.Proofs.CommandLine.Kinds
import UsedSelectors.Proofs.CommandLine.Output
import UsedSelectors.Proofs.Component.Comments
import UsedSelectors.Proofs.Component.Contributions
import UsedSelectors.Proofs.Component.Escaped
import UsedSelectors.Proofs.Component.Failures
import UsedSelectors.Proofs.Component.FirstMistake
import UsedSelectors.Proofs.Component.LiteralValue
import UsedSelectors.Proofs.Component.LoneSurrogates
import UsedSelectors.Proofs.Component.Place
import UsedSelectors.Proofs.Component.Position
import UsedSelectors.Proofs.Component.Reached
import UsedSelectors.Proofs.Component.Unexpected
import UsedSelectors.Proofs.Encoding.Encoded
import UsedSelectors.Proofs.Encoding.Lossy
import UsedSelectors.Proofs.Encoding.Utf8
import UsedSelectors.Proofs.Encoding.Writable
import UsedSelectors.Proofs.Extraction
import UsedSelectors.Proofs.Files.Collection
import UsedSelectors.Proofs.Files.Complaints
import UsedSelectors.Proofs.Files.Descent
import UsedSelectors.Proofs.Files.Expansion
import UsedSelectors.Proofs.Files.Extension
import UsedSelectors.Proofs.Files.FileReport
import UsedSelectors.Proofs.Files.Kinds
import UsedSelectors.Proofs.Files.LoneSurrogates
import UsedSelectors.Proofs.Files.ReadBack
import UsedSelectors.Proofs.Files.SourceFiles
import UsedSelectors.Proofs.Files.SourceText
import UsedSelectors.Proofs.Json.Reader
import UsedSelectors.Proofs.Json.Texts
import UsedSelectors.Proofs.Json.Written
import UsedSelectors.Proofs.Lists
import UsedSelectors.Proofs.Log.History
import UsedSelectors.Proofs.Log.Loggers
import UsedSelectors.Proofs.Log.Names
import UsedSelectors.Proofs.Log.Registry
import UsedSelectors.Proofs.Markup.Escaped
import UsedSelectors.Proofs.Markup.LongReference
import UsedSelectors.Proofs.Markup.Siblings
import UsedSelectors.Proofs.Markup.TopLevel
import UsedSelectors.Proofs.Markup.Values
import UsedSelectors.Proofs.Parsing.NodeText
import UsedSelectors.Proofs.Report.Lines
import UsedSelectors.Proofs.Report.Lossless
import UsedSelectors.Proofs.Report.Printed
import UsedSelectors.Proofs.Script.Decoding
import UsedSelectors.Proofs.Script.Units
import UsedSelectors.Proofs.Selector
import UsedSelectors.Proofs.Session
import UsedSelectors.Proofs.Settings
import UsedSelectors.Proofs.SyntaxTree.Address
import UsedSelectors.Proofs.SyntaxTree.Commented
import UsedSelectors.Proofs.Text.HexDigits
import UsedSelectors.Proofs.Text.LineBreaks
import UsedSelectors.Proofs.Text.Numeral
import UsedSelectors.Proofs.Text.Pieces
import UsedSelectors.Proofs.Text.Position
import UsedSelectors.Proofs.Text.Quoted
import UsedSelectors.Proofs.Text.Trimmed
import UsedSelectors.Proofs.Text.Words
import UsedSelectors.Proofs.Traversal
import UsedSelectors.Proofs.Tree.Conversion
import UsedSelectors.Proofs.Tree.Draft
import UsedSelectors.Proofs.Tree.Growth
import UsedSelectors.Report
import UsedSelectors.Script.Escape
import UsedSelectors.Script.Grammar
import UsedSelectors.Script.Lexical
import UsedSelectors.Script.Scanner
import UsedSelectors.Selector
import UsedSelectors.Session
import UsedSelectors.Settings
import UsedSelectors.Text.CodePoint
import UsedSelectors.Text.Digits
import UsedSelectors.Text.Lines
import UsedSelectors.Text.Numeral
import UsedSelectors.Text.Quoted
import UsedSelectors.Text.UpperCase
import UsedSelectors.Traversal
import UsedSelectors.Tree
