import DocumentSql.Condition.Document
import DocumentSql.Database.Session
import DocumentSql.Json.Parser
import DocumentSql.Number.Reader
import DocumentSql.Search.SchemaFile
import DocumentSql.Main
import DocumentSql.Proofs.Result
import DocumentSql.Proofs.Lexical.Lexer
import DocumentSql.Proofs.Lexical.Spelling
import DocumentSql.Proofs.Lexical.Layout
import DocumentSql.Proofs.Lexical.Literal
import DocumentSql.Proofs.Condition.Body
import DocumentSql.Proofs.Condition.Tokens
import DocumentSql.Proofs.Condition.Formula
import DocumentSql.Proofs.Condition.Reading
import DocumentSql.Proofs.Condition.Grammar
import DocumentSql.Proofs.Statement.Compile
import DocumentSql.Proofs.Statement.Tokens
import DocumentSql.Proofs.Statement.Message
import DocumentSql.Proofs.Statement.Noninterference
import DocumentSql.Proofs.Statement.Cutting
import DocumentSql.Proofs.Statement.Reading
import DocumentSql.Proofs.Lexical.Denotation
import DocumentSql.Proofs.Condition.Filter
import DocumentSql.Proofs.Statement.Change
import DocumentSql.Proofs.CommandLine.Items
import DocumentSql.Proofs.CommandLine.Printing
import DocumentSql.Proofs.Json.EmptyObject
import DocumentSql.Proofs.CommandLine.Change
import DocumentSql.Proofs.Database.Run
import DocumentSql.Proofs.Database.ReadOnly
import DocumentSql.Proofs.Database.Watched
import DocumentSql.Proofs.Condition.Like
import DocumentSql.Proofs.Search.Meaning
import DocumentSql.Proofs.Statement.Grouping
import DocumentSql.Proofs.Monitor.Interleaving
import DocumentSql.Proofs.Monitor.Snapshot
import DocumentSql.Proofs.Search.Validity
import DocumentSql.Proofs.Search.Spaces
import DocumentSql.Proofs.Condition.Canonical
import DocumentSql.Proofs.CommandLine.Filter
import DocumentSql.Proofs.Statement.Grammar
import DocumentSql.Proofs.Database.Trail
import DocumentSql.Proofs.Statement.Directives
import DocumentSql.Proofs.Condition.Conjunction
import DocumentSql.Proofs.CommandLine.Spelling
import DocumentSql.Proofs.CommandLine.Group
import DocumentSql.Proofs.CommandLine.Accepted
import DocumentSql.Proofs.CommandLine.Documented
import DocumentSql.Proofs.CommandLine.Order
import DocumentSql.Proofs.CommandLine.Target
import DocumentSql.Proofs.Monitor.Shortening
import DocumentSql.Proofs.Statement.Keyword
import DocumentSql.Proofs.Statement.Columns
import DocumentSql.Proofs.CommandLine.Depth
