import Spreadsheet.Json.Formula
import Spreadsheet.Json.Text
import Spreadsheet.Outline
import Spreadsheet.Proofs.Addresses
import Spreadsheet.Proofs.ArgumentErrors
import Spreadsheet.Proofs.ArrayConstants
import Spreadsheet.Proofs.AsciiText
import Spreadsheet.Proofs.Awaiting
import Spreadsheet.Proofs.Broadcasting
import Spreadsheet.Proofs.Building
import Spreadsheet.Proofs.CallOrder
import Spreadsheet.Proofs.CapitalForms
import Spreadsheet.Proofs.Comparison
import Spreadsheet.Proofs.Correspondence
import Spreadsheet.Proofs.Criteria
import Spreadsheet.Proofs.CriteriaPartition
import Spreadsheet.Proofs.DecimalForms
import Spreadsheet.Proofs.DecimalValues
import Spreadsheet.Proofs.EditDistance
import Spreadsheet.Proofs.Enumeration
import Spreadsheet.Proofs.Environment
import Spreadsheet.Proofs.Evaluation
import Spreadsheet.Proofs.ExactArithmetic
import Spreadsheet.Proofs.ExactPowers
import Spreadsheet.Proofs.FirstError
import Spreadsheet.Proofs.FractionalPowers
import Spreadsheet.Proofs.Infinities
import Spreadsheet.Proofs.Integers
import Spreadsheet.Proofs.Invocations
import Spreadsheet.Proofs.Leaves
import Spreadsheet.Proofs.Lexical
import Spreadsheet.Proofs.Literals
import Spreadsheet.Proofs.Locality
import Spreadsheet.Proofs.Logarithms
import Spreadsheet.Proofs.Means
import Spreadsheet.Proofs.NumberForms
import Spreadsheet.Proofs.Numerals
import Spreadsheet.Proofs.Operands
import Spreadsheet.Proofs.OperatorLaws
import Spreadsheet.Proofs.OppositeDoubles
import Spreadsheet.Proofs.Outcome
import Spreadsheet.Proofs.Overlay
import Spreadsheet.Proofs.ParameterPositions
import Spreadsheet.Proofs.Parameters
import Spreadsheet.Proofs.PlainPatterns
import Spreadsheet.Proofs.Pointwise
import Spreadsheet.Proofs.PostOrder
import Spreadsheet.Proofs.Powers
import Spreadsheet.Proofs.ReadBack
import Spreadsheet.Proofs.Reevaluation
import Spreadsheet.Proofs.ReferenceArrays
import Spreadsheet.Proofs.ReferenceTokens
import Spreadsheet.Proofs.Resolution
import Spreadsheet.Proofs.Results
import Spreadsheet.Proofs.Rounding
import Spreadsheet.Proofs.Runs
import Spreadsheet.Proofs.SheetHistories
import Spreadsheet.Proofs.Sheets
import Spreadsheet.Proofs.ShortestDecimal
import Spreadsheet.Proofs.SparseCells
import Spreadsheet.Proofs.SpillLimit
import Spreadsheet.Proofs.StandardFunctions
import Spreadsheet.Proofs.StoredForms
import Spreadsheet.Proofs.Suggestions
import Spreadsheet.Proofs.Totals
import Spreadsheet.Proofs.UndefinedResults
import Spreadsheet.Proofs.WellFormed
import Spreadsheet.Proofs.Wildcards
import Spreadsheet.Proofs.WrittenReferences
