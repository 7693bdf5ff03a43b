import KeypadCalculator.Token
import KeypadCalculator.Text.Quoted
import KeypadCalculator.Numeral.Value
import KeypadCalculator.Numeral.Normal
import KeypadCalculator.Expression.Reduction
import KeypadCalculator.Expression.Scan
import KeypadCalculator.Expression.Chain
import KeypadCalculator.Expression.Guarded
import KeypadCalculator.Engine.Basic
import KeypadCalculator.Engine.Session
import KeypadCalculator.Calculator.Panel
import KeypadCalculator.Proofs.Numeral.RoundTrip
import KeypadCalculator.Proofs.Numeral.Canonical
import KeypadCalculator.Proofs.Numeral.Rounding
import KeypadCalculator.Proofs.Numeral.Reading
import KeypadCalculator.Proofs.Expression.Scanning
import KeypadCalculator.Proofs.Expression.Precedence
import KeypadCalculator.Proofs.Expression.Value
import KeypadCalculator.Proofs.Expression.Success
import KeypadCalculator.Proofs.Expression.Accuracy
import KeypadCalculator.Proofs.Expression.Products
import KeypadCalculator.Proofs.Expression.Guards
import KeypadCalculator.Proofs.Token.Lexing
import KeypadCalculator.Proofs.Engine.Ending
import KeypadCalculator.Proofs.Engine.Shape
import KeypadCalculator.Proofs.Engine.Typing
import KeypadCalculator.Proofs.Engine.Equals
import KeypadCalculator.Proofs.Engine.Reading
import KeypadCalculator.Proofs.Engine.Report
import KeypadCalculator.Proofs.Engine.Repetition
import KeypadCalculator.Proofs.Engine.Observers
import KeypadCalculator.Proofs.Engine.Exponent
import KeypadCalculator.Proofs.Engine.Resumption
import KeypadCalculator.Proofs.Engine.Spelling
import KeypadCalculator.Proofs.Calculator.Coherence
import KeypadCalculator.Proofs.Calculator.Keyboard
import KeypadCalculator.Proofs.Calculator.Operands
