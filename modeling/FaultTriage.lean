import FaultTriage.Address
import FaultTriage.Adjustment
import FaultTriage.Architecture
import FaultTriage.Classification
import FaultTriage.Command
import FaultTriage.Command.Argument
import FaultTriage.Command.Display
import FaultTriage.Command.Document
import FaultTriage.Command.Error
import FaultTriage.Command.Input
import FaultTriage.Command.Store
import FaultTriage.CommandLine
import FaultTriage.Condition
import FaultTriage.Config
import FaultTriage.Config.File
import FaultTriage.Config.Format
import FaultTriage.CrashStore
import FaultTriage.CrashStore.Bucket
import FaultTriage.CrashStore.File
import FaultTriage.CrashStore.Locator
import FaultTriage.CrashStore.Migration
import FaultTriage.Disassembly
import FaultTriage.Hash.Exclusion
import FaultTriage.Hash.Frame
import FaultTriage.Hash.Glob
import FaultTriage.Hash.Sha256
import FaultTriage.Hash.StackHash
import FaultTriage.Instruction
import FaultTriage.Instruction.Fields
import FaultTriage.Instruction.Kind
import FaultTriage.Instruction.Line
import FaultTriage.Instruction.Operands
import FaultTriage.Json
import FaultTriage.Json.Printer
import FaultTriage.Json.Reader
import FaultTriage.Main
import FaultTriage.Operand
import FaultTriage.OperandSet
import FaultTriage.Register.Catalogue
import FaultTriage.Register.Family
import FaultTriage.Scan.Arm
import FaultTriage.Scan.Basic
import FaultTriage.Scan.X86
import FaultTriage.Table
import FaultTriage.Table.Arm
import FaultTriage.Table.Row
import FaultTriage.Table.X64
import FaultTriage.Table.X86
import FaultTriage.Taint.Pass
import FaultTriage.Taint.Stack
import FaultTriage.Taint.State
import FaultTriage.Taint.Step
import FaultTriage.Text.Blank
import FaultTriage.Text.Bytes
import FaultTriage.Text.Decode
import FaultTriage.Text.Hex
import FaultTriage.Text.Lowercase
import FaultTriage.Text.Lowercase.Context
import FaultTriage.Text.Lowercase.Mapping
import FaultTriage.Timestamp
import FaultTriage.Triage.Block
import FaultTriage.Triage.Host
import FaultTriage.Triage.Listing
import FaultTriage.Triage.Report
import FaultTriage.Workspace
import FaultTriage.Workspace.Path
import FaultTriage.Yaml
import FaultTriage.Yaml.Layout
import FaultTriage.Yaml.Reader
import FaultTriage.Yaml.Scalar
import FaultTriage.Yaml.Token
import FaultTriage.Proofs.Hash.Wildcard
import FaultTriage.Proofs.Triage.Block
import FaultTriage.Proofs.Classification.ConditionCode
import FaultTriage.Proofs.Scan.Run
import FaultTriage.Proofs.Scan.Reader
import FaultTriage.Proofs.Scan.NamedRegisters
import FaultTriage.Proofs.Register.Alias
import FaultTriage.Proofs.Taint.State
import FaultTriage.Proofs.Taint.Causality
import FaultTriage.Proofs.Taint.Changes
import FaultTriage.Proofs.Taint.Consistency
import FaultTriage.Proofs.Taint.Flow
import FaultTriage.Proofs.Taint.DefUse
import FaultTriage.Proofs.Register.Cell
import FaultTriage.Proofs.Taint.BitTaint
import FaultTriage.Proofs.Taint.Action
import FaultTriage.Proofs.Taint.Monotone
import FaultTriage.Proofs.Taint.Exhaustion
import FaultTriage.Proofs.Taint.Commute
import FaultTriage.Proofs.Taint.MayExecute
import FaultTriage.Proofs.Triage.BlockLimit
import FaultTriage.Proofs.Text.Hex
import FaultTriage.Proofs.Json.StringList
import FaultTriage.Proofs.CrashStore.History
import FaultTriage.Proofs.CrashStore.ReadBack
import FaultTriage.Proofs.CrashStore.Partition
import FaultTriage.Proofs.CrashStore.SharedPair
import FaultTriage.Proofs.CrashStore.Migration
import FaultTriage.Proofs.CrashStore.Refusal
import FaultTriage.Proofs.Text.FirstWord
import FaultTriage.Proofs.Address
import FaultTriage.Proofs.Triage.ListingAddress
import FaultTriage.Proofs.Triage.Progress
import FaultTriage.Proofs.Taint.DeclaredInputs
import FaultTriage.Proofs.Taint.SecondPass
import FaultTriage.Proofs.Taint.Frame
import FaultTriage.Proofs.Taint.CleanWrite
import FaultTriage.Proofs.Taint.UnsupportedStack
import FaultTriage.Proofs.Hash.BucketLabel
import FaultTriage.Proofs.Classification.MnemonicField
import FaultTriage.Proofs.Classification.BareLine
import FaultTriage.Proofs.Scan.RegisterList
import FaultTriage.Proofs.Taint.SaveRestore
import FaultTriage.Proofs.Taint.Exchange
import FaultTriage.Proofs.Classification.InPlace
import FaultTriage.Proofs.Classification.LineLayout
import FaultTriage.Proofs.Scan.OperandSides
import FaultTriage.Proofs.Scan.NameOrigin
import FaultTriage.Proofs.Classification.RegisterTransfer
import FaultTriage.Proofs.Classification.FieldWords
import FaultTriage.Proofs.Classification.OperandOrigin
import FaultTriage.Proofs.Classification.RowOrder
import FaultTriage.Proofs.Hash.MajorHalf
import FaultTriage.Proofs.Hash.ExcludedFrames
import FaultTriage.Proofs.Hash.LetterCase
import FaultTriage.Proofs.Hash.ClosedForm
import FaultTriage.Proofs.Hash.FrameText
import FaultTriage.Proofs.OperandSet
import FaultTriage.Proofs.Triage.NearestSymbol
import FaultTriage.Proofs.AddressText
