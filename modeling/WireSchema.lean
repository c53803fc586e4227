import WireSchema.Text.Blank
import WireSchema.Text.Search
import WireSchema.Text.Hex
import WireSchema.FieldType
import WireSchema.Log
import WireSchema.Schema.Basic
import WireSchema.Schema.History
import WireSchema.Replay.SlotTable
import WireSchema.Replay.Basic
import WireSchema.Document.Value
import WireSchema.Schema.Document
import WireSchema.Settings
import WireSchema.Toml.Text
import WireSchema.Toml.Scalar
import WireSchema.Toml.Section
import WireSchema.Toml.Document
import WireSchema.Text.Ranges
import WireSchema.Text.Identifier.Table
import WireSchema.Text.Identifier
import WireSchema.Text.Case.Table
import WireSchema.Text.Case
import WireSchema.Text.Cluster.Table
import WireSchema.Text.Cluster
import WireSchema.Text.WordCase
import WireSchema.Text.Quoted.Table
import WireSchema.Text.Quoted
import WireSchema.BuildError
import WireSchema.TagMap
import WireSchema.Plan
import WireSchema.Dump
import WireSchema.Header.Code
import WireSchema.Header.Pointer
import WireSchema.Header.Member
import WireSchema.Header.Routine
import WireSchema.Header.Emit
import WireSchema.Module.Token
import WireSchema.Module.Lexeme
import WireSchema.Module.Identifier
import WireSchema.Module.TypeExpr
import WireSchema.Module.Grammar
import WireSchema.Module.Standard
import WireSchema.Module.Code
import WireSchema.Module.Field
import WireSchema.Module.Routine
import WireSchema.Module.Emit
import WireSchema.Backend
import WireSchema.Files.Path
import WireSchema.Files.Disk
import WireSchema.Files.Load
import WireSchema.Files.SettingsFile
import WireSchema.Command.Basic
import WireSchema.Command.Arguments
import WireSchema.Main
import WireSchema.Proofs.Replay.LiveSlots
import WireSchema.Proofs.Replay.Lifetime
import WireSchema.Proofs.Replay.ClosedForm
import WireSchema.Proofs.Replay.Policies
import WireSchema.Proofs.Replay.Extension
import WireSchema.Proofs.Emission.Placement
import WireSchema.Proofs.Emission.Collapse
import WireSchema.Proofs.Text.Search
import WireSchema.Proofs.Text.Words
import WireSchema.Proofs.FieldType.Spelling
import WireSchema.Proofs.FieldType.Matching
import WireSchema.Proofs.Header.Lines
import WireSchema.Proofs.Header.WireEvents
import WireSchema.Proofs.Contract.Basic
import WireSchema.Proofs.Contract.Unambiguous
import WireSchema.Proofs.Header.Phrases
import WireSchema.Proofs.Header.Unambiguous
import WireSchema.Proofs.Header.Classes
import WireSchema.Proofs.Module.Items
import WireSchema.Proofs.Module.Phrases
import WireSchema.Proofs.Module.Unambiguous
import WireSchema.Proofs.Module.Structs
import WireSchema.Proofs.Module.Text
import WireSchema.Proofs.Emission.Agreement
import WireSchema.Proofs.Files.Components
import WireSchema.Proofs.Files.IncludeGraph
import WireSchema.Proofs.Files.LevelOrder
import WireSchema.Proofs.Command.AllOrNothing
import WireSchema.Proofs.Header.MemberNames
import WireSchema.Proofs.Emission.Acceptance
import WireSchema.Proofs.Module.IdentifierNames
import WireSchema.Proofs.Module.MemberNames
import WireSchema.Proofs.FieldType.Characters
import WireSchema.Proofs.Text.Brackets
import WireSchema.Proofs.Header.Texts
import WireSchema.Proofs.Header.Nesting
import WireSchema.Proofs.Text.Quoted
import WireSchema.Proofs.Dump
import WireSchema.Proofs.FieldType.ScalarTexts
import WireSchema.Proofs.Schema.Rewording
import WireSchema.Proofs.Schema.RoundTrip
import WireSchema.Proofs.FieldType.Indirection
import WireSchema.Proofs.Header.Rollback
import WireSchema.Proofs.Emission.Rollback
import WireSchema.Proofs.Emission.TagReuse
import WireSchema.Proofs.Header.Indentation
import WireSchema.Proofs.Header.HeapMembers
import WireSchema.Proofs.Header.PointerChains
import WireSchema.Proofs.Emission.HeapOwnership
import WireSchema.Proofs.Module.BuiltinTypes
import WireSchema.Proofs.Replay.Renaming
import WireSchema.Proofs.Replay.Reordering
import WireSchema.Proofs.Dump.Lines
import WireSchema.Proofs.Files.IncludePaths
