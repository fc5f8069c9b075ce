import Emend.Binary64.Basic
import Emend.Binary64.Shortest
import Emend.Command
import Emend.Config
import Emend.Dict
import Emend.EditDistance
import Emend.Files
import Emend.Grammar
import Emend.Inference
import Emend.Interpreter
import Emend.Json.Basic
import Emend.Json.Numeral
import Emend.Json.Record
import Emend.Json.Token
import Emend.Line
import Emend.Main
import Emend.Modifiers.Basic
import Emend.Modifiers.NormalForm
import Emend.Program
import Emend.Proofs.Dict
import Emend.Proofs.EditDistance
import Emend.Proofs.EditDistance.TwoRows
import Emend.Proofs.Interpreter.Conservative
import Emend.Proofs.Interpreter.NaturalLanguage
import Emend.Proofs.Interpreter.Outcome
import Emend.Proofs.Interpreter.Stages
import Emend.Proofs.Interpreter.TypedBack
import Emend.Proofs.Json.Compact
import Emend.Proofs.Json.Numeral
import Emend.Proofs.Json.Record
import Emend.Proofs.Json.Token
import Emend.Proofs.Line.Appended
import Emend.Proofs.Line.Declared
import Emend.Proofs.Line.DisplayRoundTrip
import Emend.Proofs.Line.Pattern
import Emend.Proofs.Line.TokenGrammar
import Emend.Proofs.Modifiers
import Emend.Proofs.Modifiers.NormalForm
import Emend.Proofs.Modifiers.Words
import Emend.Proofs.NearestEntries
import Emend.Proofs.Repair.Candidates
import Emend.Proofs.Repair.Decision
import Emend.Proofs.Repair.DecisionTable
import Emend.Proofs.Repair.EntryOrder
import Emend.Proofs.Repair.LetterCase
import Emend.Proofs.Repair.Misspelling
import Emend.Proofs.Repair.ModifierForm
import Emend.Proofs.Repair.ModifierNames
import Emend.Proofs.Repair.Setting
import Emend.Proofs.Repair.Soundness
import Emend.Proofs.Repair.Strategies
import Emend.Proofs.Repair.TwoRuns
import Emend.Proofs.Repair.UniqueCorrection
import Emend.Proofs.Repair.WellSpelled
import Emend.Proofs.Session
import Emend.Proofs.Text.CaseRuns
import Emend.Proofs.Text.Digits
import Emend.Proofs.Text.LowerCase
import Emend.Proofs.Text.Trimming
import Emend.Proofs.Text.Words
import Emend.Proofs.Timestamp
import Emend.Proofs.Uuid
import Emend.Proofs.Vocabulary
import Emend.Proofs.Vocabulary.Normalization
import Emend.Proofs.Vocabulary.References
import Emend.Proofs.Wire.Repair
import Emend.Proofs.Wire.RoundTrip
import Emend.Repair.ArgumentOrder
import Emend.Repair.Basic
import Emend.Repair.Decision
import Emend.Repair.Misspelling
import Emend.Repair.ModifierForm
import Emend.Repair.Result
import Emend.Repair.Synonym
import Emend.Session
import Emend.Text.Blank
import Emend.Text.CaseContext
import Emend.Text.CaseFold
import Emend.Text.CaseTable
import Emend.Text.Digits
import Emend.Text.Lowercase
import Emend.Text.Span
import Emend.Text.WordChar
import Emend.Timestamp
import Emend.Toml.Datetime
import Emend.Toml.Document
import Emend.Toml.Number
import Emend.Toml.Table
import Emend.Toml.Text
import Emend.Uuid
import Emend.Vocabulary.Basic
import Emend.Vocabulary.File
import Emend.Wire.Command
import Emend.Wire.Inference
import Emend.Wire.Interpretation
import Emend.Wire.Repair
import Emend.Wire.Vocabulary
