import ApiTypes.Document.Session
import ApiTypes.Main
import ApiTypes.Problem.Report
import ApiTypes.Proofs.Type.Quotation
import ApiTypes.Proofs.Type.Tree
import ApiTypes.Proofs.Type.Reading
import ApiTypes.Proofs.Type.Literal
import ApiTypes.Proofs.Schema.Node
import ApiTypes.Proofs.Type.Legible
import ApiTypes.Proofs.Type.Unambiguous
import ApiTypes.Proofs.Document.Imports
import ApiTypes.Proofs.Document.Hoisting
import ApiTypes.Proofs.Document.Components
import ApiTypes.Proofs.Reference.Address
import ApiTypes.Proofs.Reference.Imports
import ApiTypes.Proofs.Compose.Additive
import ApiTypes.Proofs.Document.Independence
import ApiTypes.Proofs.Document.RawMode
import ApiTypes.Proofs.Type.Level
import ApiTypes.Proofs.Document.Names
import ApiTypes.Proofs.Document.Nesting
import ApiTypes.Proofs.Compose.Total
import ApiTypes.Proofs.Schema.Visited
import ApiTypes.Proofs.Document.Shape
import ApiTypes.Proofs.Document.Totality
import ApiTypes.Proofs.Json.Reader
import ApiTypes.Proofs.Document.Assembly
import ApiTypes.Proofs.Schema.Governing
import ApiTypes.Proofs.Document.MapperReach
import ApiTypes.Proofs.Document.Lookups
import ApiTypes.Proofs.Document.PathOrder
import ApiTypes.Proofs.Document.NameSites
import ApiTypes.Proofs.Schema.Faulty
import ApiTypes.Proofs.Reference.Pointer
import ApiTypes.Proofs.Reference.Agreement
import ApiTypes.Proofs.Document.Grouping
import ApiTypes.Proofs.Type.Enumeration
import ApiTypes.Proofs.Declaration.DocComment
import ApiTypes.Proofs.Schema.Blank
import ApiTypes.Proofs.Compose.Warnings
import ApiTypes.Proofs.Document.Warnings
import ApiTypes.Proofs.Document.ResponseKeys
import ApiTypes.Proofs.Files.Tree
import ApiTypes.Proofs.Conversion.Turns
import ApiTypes.Proofs.CommandLine.Generate
