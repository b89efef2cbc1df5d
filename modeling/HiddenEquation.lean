import HiddenEquation.Arithmetic.Evaluate
import HiddenEquation.Arithmetic.Token
import HiddenEquation.Arithmetic.Value
import HiddenEquation.Audit
import HiddenEquation.CommandLine.Arguments
import HiddenEquation.CommandLine.FileTree
import HiddenEquation.CommandLine.Run
import HiddenEquation.Corpus
import HiddenEquation.Corpus.Standard
import HiddenEquation.Decimal.Fixed
import HiddenEquation.Equation
import HiddenEquation.Feedback
import HiddenEquation.Feedback.RowText
import HiddenEquation.Game.Moves
import HiddenEquation.Game.Options
import HiddenEquation.Game.Session
import HiddenEquation.Guess
import HiddenEquation.Journal.Event
import HiddenEquation.Journal.Level
import HiddenEquation.Keyboard
import HiddenEquation.LineGame.Notice
import HiddenEquation.LineGame.Turns
import HiddenEquation.Main
import HiddenEquation.Print.Gauge
import HiddenEquation.Print.Paint
import HiddenEquation.Print.Report
import HiddenEquation.Proofs.Arithmetic.Evaluation
import HiddenEquation.Proofs.Arithmetic.Grammar
import HiddenEquation.Proofs.Arithmetic.Lexemes
import HiddenEquation.Proofs.Arithmetic.Operations
import HiddenEquation.Proofs.Arithmetic.Products
import HiddenEquation.Proofs.Arithmetic.Shape
import HiddenEquation.Proofs.Arithmetic.Steps
import HiddenEquation.Proofs.Arithmetic.ZeroDivision
import HiddenEquation.Proofs.Feedback.Laws
import HiddenEquation.Proofs.Feedback.Places
import HiddenEquation.Proofs.Game.Calls
import HiddenEquation.Proofs.Game.FreshStart
import HiddenEquation.Proofs.Game.Invariant
import HiddenEquation.Proofs.Game.Rejections
import HiddenEquation.Proofs.Game.Transitions
import HiddenEquation.Proofs.Game.Views
import HiddenEquation.Proofs.Game.Winnable
import HiddenEquation.Proofs.Guess.Rules
import HiddenEquation.Proofs.Guess.Verdict
import HiddenEquation.Proofs.Guess.ZeroDivision
import HiddenEquation.Proofs.Keyboard.Best
import HiddenEquation.Proofs.Keyboard.Truth
import HiddenEquation.Proofs.ScreenGame.Board
import HiddenEquation.Proofs.ScreenGame.KeyLoop
import HiddenEquation.Proofs.ScreenGame.Operations
import HiddenEquation.Screen.Cell
import HiddenEquation.Screen.Draw
import HiddenEquation.Screen.Frame
import HiddenEquation.Screen.Lettering
import HiddenEquation.ScreenGame.Keys
import HiddenEquation.ScreenGame.Layout
import HiddenEquation.ScreenGame.State
import HiddenEquation.Symbol
import HiddenEquation.Text.Blank
import HiddenEquation.Text.Cluster
import HiddenEquation.Text.Cluster.Conjunct
import HiddenEquation.Text.Cluster.Marks
import HiddenEquation.Text.Cluster.Pictograph
import HiddenEquation.Text.Emoji
import HiddenEquation.Text.Invisible
import HiddenEquation.Text.Lines
import HiddenEquation.Text.Ranges
import HiddenEquation.Text.Wide
import HiddenEquation.Text.Width
import HiddenEquation.Proofs.Equation.Spelling
import HiddenEquation.Proofs.Text.Bytes
import HiddenEquation.Proofs.Audit.Report
import HiddenEquation.Proofs.CommandLine.ExitCodes
import HiddenEquation.Proofs.CommandLine.Operands
import HiddenEquation.Proofs.Screen.Panels
import HiddenEquation.Proofs.Corpus.Entries
import HiddenEquation.Proofs.Corpus.Sheet
import HiddenEquation.Proofs.ScreenGame.Runs
import HiddenEquation.Proofs.ScreenGame.Statistics
import HiddenEquation.Proofs.ScreenGame.Secrecy
import HiddenEquation.Proofs.LineGame.PlainGame
import HiddenEquation.Proofs.LineGame.Refinement
import HiddenEquation.Proofs.Arithmetic.Misreadings
import HiddenEquation.Proofs.Arithmetic.ProductFaults
import HiddenEquation.Proofs.Arithmetic.SumFaults
import HiddenEquation.Proofs.Arithmetic.Diagnosis
import HiddenEquation.Proofs.Arithmetic.Bounds
import HiddenEquation.Proofs.Arithmetic.IntegerValue
import HiddenEquation.Proofs.Guess.Exactness
import HiddenEquation.Proofs.Game.TypedTarget
import HiddenEquation.Proofs.LineGame.Chronicle
import HiddenEquation.Proofs.CommandLine.FileTree
import HiddenEquation.Proofs.CommandLine.GameLog
import HiddenEquation.Proofs.Feedback.Counts
import HiddenEquation.Proofs.Keyboard.Changes
import HiddenEquation.Proofs.Guess.Exchange
import HiddenEquation.Proofs.Feedback.RowText
import HiddenEquation.Proofs.Equation.Frequencies
import HiddenEquation.Proofs.Equation.Bytes
import HiddenEquation.Proofs.Game.LastError
import HiddenEquation.Proofs.ScreenGame.Messages
import HiddenEquation.Proofs.Feedback.Conservation
import HiddenEquation.Proofs.Arithmetic.Collapse
import HiddenEquation.Proofs.Arithmetic.Overflow
import HiddenEquation.Proofs.Arithmetic.Written
import HiddenEquation.Proofs.Print.Display
import HiddenEquation.Proofs.LineGame.Printed
