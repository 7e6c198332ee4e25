import BraceTemplate.Number.Numeral
import BraceTemplate.Number.Written
import BraceTemplate.Text.Case
import BraceTemplate.Date.Written
import BraceTemplate.Date.Reading
import BraceTemplate.Value.Written
import BraceTemplate.Json.Reading
import BraceTemplate.Data.Normal
import BraceTemplate.Data.Json
import BraceTemplate.Template.Token
import BraceTemplate.Expression.Reading
import BraceTemplate.Template.Names
import BraceTemplate.Template.Diagnostic
import BraceTemplate.Builtin
import BraceTemplate.Template.Rendering
import BraceTemplate.Schema
import BraceTemplate.EngineConfig
import BraceTemplate.AppSettings
import BraceTemplate.StoredPrompt
import BraceTemplate.Thinking
import BraceTemplate.Engine
import BraceTemplate.Log.Writer
import BraceTemplate.Command.Arguments
import BraceTemplate.Program
import BraceTemplate.Main
import BraceTemplate.Proofs.Braces
import BraceTemplate.Proofs.Structure
import BraceTemplate.Proofs.Concatenation
import BraceTemplate.Proofs.Variables
import BraceTemplate.Proofs.Grammar
import BraceTemplate.Proofs.Recency
import BraceTemplate.Proofs.Transparency
import BraceTemplate.Proofs.Escapes
import BraceTemplate.Proofs.WellFormed
import BraceTemplate.Proofs.DocumentOrder
import BraceTemplate.Proofs.Trimming
import BraceTemplate.Proofs.Blocks
import BraceTemplate.Proofs.Ancestors
import BraceTemplate.Proofs.Unfolding
import BraceTemplate.Proofs.Callable
import BraceTemplate.Proofs.Placeholders
import BraceTemplate.Proofs.Evaluators
import BraceTemplate.Proofs.Evaluations
import BraceTemplate.Proofs.Conditional
import BraceTemplate.Proofs.SharedRegistry
import BraceTemplate.Proofs.Digits
import BraceTemplate.Proofs.LogLines
import BraceTemplate.Proofs.ExitCodes
import BraceTemplate.Proofs.Calendar
import BraceTemplate.Proofs.DateText
import BraceTemplate.Proofs.Schemas
import BraceTemplate.Proofs.StoredPrompts
import BraceTemplate.Proofs.KeyOrder
import BraceTemplate.Proofs.NormalValues
import BraceTemplate.Proofs.Equality
import BraceTemplate.Proofs.Comparisons
import BraceTemplate.Proofs.Selection
import BraceTemplate.Proofs.Bindings
import BraceTemplate.Proofs.Representations
import BraceTemplate.Proofs.Namespaces
import BraceTemplate.Proofs.FixedPoints
import BraceTemplate.Proofs.Merging
import BraceTemplate.Proofs.ContextForms
import BraceTemplate.Proofs.Positions
import BraceTemplate.Proofs.Rounding
import BraceTemplate.Proofs.Forms
import BraceTemplate.Proofs.Configurations
import BraceTemplate.Proofs.IntegerSettings
import BraceTemplate.Proofs.JsonTexts
import BraceTemplate.Proofs.CommandOutput
import BraceTemplate.Proofs.Mentions
import BraceTemplate.Proofs.LocalTime
import BraceTemplate.Proofs.CodePoints
import BraceTemplate.Proofs.CaseMappings
import BraceTemplate.Proofs.TitleCase
