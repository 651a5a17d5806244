import ProtobufTypeScript.Enumeration
import ProtobufTypeScript.Field.Classification
import ProtobufTypeScript.Generation
import ProtobufTypeScript.Helper.Declaration
import ProtobufTypeScript.Main
import ProtobufTypeScript.Message.Codec
import ProtobufTypeScript.Message.Interface
import ProtobufTypeScript.Proofs.Enumeration.Keys
import ProtobufTypeScript.Proofs.Enumeration.Meaning
import ProtobufTypeScript.Proofs.Enumeration.RoundTrip
import ProtobufTypeScript.Proofs.Generation.Acceptance
import ProtobufTypeScript.Proofs.Generation.Brackets
import ProtobufTypeScript.Proofs.Generation.BuiltIns
import ProtobufTypeScript.Proofs.Generation.CalledMethods
import ProtobufTypeScript.Proofs.Generation.CommentIndependence
import ProtobufTypeScript.Proofs.Generation.Documentation
import ProtobufTypeScript.Proofs.Generation.FieldNames
import ProtobufTypeScript.Proofs.Generation.Header
import ProtobufTypeScript.Proofs.Generation.HelperUse
import ProtobufTypeScript.Proofs.Generation.ImportClashes
import ProtobufTypeScript.Proofs.Generation.ImportTargets
import ProtobufTypeScript.Proofs.Generation.ImportUse
import ProtobufTypeScript.Proofs.Generation.Independence
import ProtobufTypeScript.Proofs.Generation.Levels
import ProtobufTypeScript.Proofs.Generation.Loaders
import ProtobufTypeScript.Proofs.Generation.OutputPaths
import ProtobufTypeScript.Proofs.Generation.Owners
import ProtobufTypeScript.Proofs.Generation.ServiceMembers
import ProtobufTypeScript.Proofs.Generation.TypeAgreement
import ProtobufTypeScript.Proofs.Helper.Timestamps
import ProtobufTypeScript.Proofs.Message.InitialAgreement
import ProtobufTypeScript.Proofs.Message.JsonAgreement
import ProtobufTypeScript.Proofs.Message.Longs
import ProtobufTypeScript.Proofs.Message.Strict
import ProtobufTypeScript.Proofs.Options
import ProtobufTypeScript.Proofs.Schema.CommentText
import ProtobufTypeScript.Proofs.Schema.Elements
import ProtobufTypeScript.Proofs.Schema.Identifiers
import ProtobufTypeScript.Proofs.Schema.RegistryContents
import ProtobufTypeScript.Proofs.Schema.Traversal
import ProtobufTypeScript.Proofs.Service.CompanionScope
import ProtobufTypeScript.Proofs.Service.CompanionTypes
import ProtobufTypeScript.Proofs.Service.Conformance
import ProtobufTypeScript.Proofs.Target.Nesting
import ProtobufTypeScript.Proofs.Target.TypeReading
import ProtobufTypeScript.Proofs.Target.Undocumented
import ProtobufTypeScript.Proofs.Text.Components
import ProtobufTypeScript.Schema.Walk
import ProtobufTypeScript.Target.Block
import ProtobufTypeScript.Target.Declaration
import ProtobufTypeScript.Target.Expr
import ProtobufTypeScript.Target.ModulePath
import ProtobufTypeScript.Target.SourceUnit
import ProtobufTypeScript.Target.TypeExpr
import ProtobufTypeScript.Text.Blank
import ProtobufTypeScript.Text.Casing
import ProtobufTypeScript.Text.Lines
import ProtobufTypeScript.Text.Order
import ProtobufTypeScript.Wire.Record
