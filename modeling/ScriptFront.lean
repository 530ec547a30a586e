import ScriptFront.Options
import ScriptFront.Json.Writer
import ScriptFront.Number.Decimal
import ScriptFront.Parse
import ScriptFront.SExpr.Actions
import ScriptFront.Tree.Actions
import ScriptFront.Tree.Records
import ScriptFront.Tree.Text
import ScriptFront.Tree.Writer
import ScriptFront.Proofs.Phrase
import ScriptFront.Proofs.Reads
import ScriptFront.Proofs.Soundness
import ScriptFront.Proofs.Simulation
import ScriptFront.Proofs.Agreement
import ScriptFront.Proofs.OutputForms
import ScriptFront.Proofs.Takes
import ScriptFront.Proofs.Chain
import ScriptFront.Proofs.ExpressionsTaken
import ScriptFront.Proofs.StatementsTaken
import ScriptFront.Proofs.AcceptedLanguage
import ScriptFront.Proofs.FiniteTrees
import ScriptFront.Proofs.TreeFormats
import ScriptFront.Proofs.JsonLayout
import ScriptFront.Proofs.ScannedNumbers
import ScriptFront.Proofs.ScannedText
import ScriptFront.Proofs.ReadText
import ScriptFront.Proofs.SameTrees
import ScriptFront.Proofs.ProgramText
import ScriptFront.Proofs.Lexemes
import ScriptFront.Proofs.LexemeMatch
import ScriptFront.Proofs.Separators
import ScriptFront.Proofs.Replay
import ScriptFront.Proofs.Respacing
import ScriptFront.Proofs.Blame
import ScriptFront.Proofs.ExpressionsBlamed
import ScriptFront.Proofs.StatementsBlamed
import ScriptFront.Proofs.FirstOffense
import ScriptFront.Proofs.WellFormedTrees
import ScriptFront.Proofs.Printed
import ScriptFront.Proofs.PrintedText
import ScriptFront.Proofs.PrintedExpressions
import ScriptFront.Proofs.PrintedStatements
import ScriptFront.Proofs.PrintedPrograms
import ScriptFront.Proofs.NestingGuard
import ScriptFront.Proofs.TokensFirst
import ScriptFront.Proofs.Seam
import ScriptFront.Proofs.ClosedStatements
import ScriptFront.Proofs.Concatenation
import ScriptFront.Proofs.TreeDepth
import ScriptFront.Proofs.NestingBound
import ScriptFront.Proofs.LeftChains
import ScriptFront.Proofs.Tiling
import ScriptFront.Proofs.TokenizerRuns
import ScriptFront.Proofs.ExactTrees
import ScriptFront.Proofs.SExprReading
import ScriptFront.Proofs.FormEquality
import ScriptFront.Proofs.JsonEquality
import ScriptFront.Proofs.TreeJson
import ScriptFront.Proofs.ResultJson
import ScriptFront.Proofs.LexicalErrors
import ScriptFront.Proofs.JsonSchema
import ScriptFront.Proofs.PartReading
import ScriptFront.Proofs.RecordReading
import ScriptFront.Proofs.ExactReading
import ScriptFront.Proofs.ShortestDecimals
import ScriptFront.Proofs.LispNumbers
import ScriptFront.Proofs.QuotedText
import ScriptFront.Proofs.LispText
import ScriptFront.Proofs.Grouping
import ScriptFront.Proofs.OperatorRows
import ScriptFront.Proofs.GroupedOperands
import ScriptFront.Proofs.LevelLoops
import ScriptFront.Proofs.OperatorChains
import ScriptFront.Proofs.TokenTexts
import ScriptFront.Proofs.LongestMatch
import ScriptFront.Proofs.OpenComments
import ScriptFront.Proofs.Fallbacks
import ScriptFront.Proofs.DeadBranches
import ScriptFront.Proofs.LoopTurns
import ScriptFront.Proofs.NestingCounter
import ScriptFront.Proofs.Productions
