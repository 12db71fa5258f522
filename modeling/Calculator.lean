import Calculator.AngleMode
import Calculator.Answer
import Calculator.CommandLine
import Calculator.Constants
import Calculator.Error
import Calculator.Expression
import Calculator.History
import Calculator.Json
import Calculator.Json.Encoding
import Calculator.Json.Reader
import Calculator.Json.Writer
import Calculator.Lexeme
import Calculator.Listening
import Calculator.Main
import Calculator.MathFunction
import Calculator.MathFunction.Value
import Calculator.Memory
import Calculator.Number.Binary64
import Calculator.Number.Decimal
import Calculator.Number.Elementary
import Calculator.Number.Fixed
import Calculator.Number.Read
import Calculator.Number.Shortest
import Calculator.Number.Text
import Calculator.Postfix
import Calculator.Postfix.Value
import Calculator.Service
import Calculator.Service.Envelope
import Calculator.Service.Field
import Calculator.Service.Form
import Calculator.Service.Reply
import Calculator.Service.Request
import Calculator.Service.Resource
import Calculator.Service.Settings
import Calculator.Service.Status
import Calculator.Service.Target
import Calculator.SignKey
import Calculator.Text.Blank
import Calculator.Text.Digit
import Calculator.Text.Letter
import Calculator.Text.LetterCase
import Calculator.Text.Percent
import Calculator.Text.Printable
import Calculator.Text.Punycode
import Calculator.Text.Quoted
import Calculator.Text.Split
import Calculator.Text.Utf8
import Calculator.Token
import Calculator.Token.Read
import Calculator.Uri
import Calculator.Uri.Host
import Calculator.Proofs.Infix
import Calculator.Proofs.Lexing
import Calculator.Proofs.Number.Bits
import Calculator.Proofs.Number.Rounding
import Calculator.Proofs.Number.Shortest
import Calculator.Proofs.Number.Display
import Calculator.Proofs.Number.Reach
import Calculator.Proofs.Number.Denotation
import Calculator.Proofs.Reading
import Calculator.Proofs.Writing
import Calculator.Proofs.Continuation
import Calculator.Proofs.Sentence
import Calculator.Proofs.Acceptance
import Calculator.Proofs.Repair
import Calculator.Proofs.Leniency
import Calculator.Proofs.Json
import Calculator.Proofs.Substitution
import Calculator.Proofs.Service.Forms
import Calculator.Proofs.Service.Action
import Calculator.Proofs.Service.History
import Calculator.Proofs.Service.Replay
import Calculator.Proofs.Service.Recorded
import Calculator.Proofs.Service.Register
import Calculator.Proofs.Memory
import Calculator.Proofs.Json.Grammar
import Calculator.Proofs.Json.Standard
import Calculator.Proofs.Service.Interchange
import Calculator.Proofs.Number.Canonical
import Calculator.Proofs.Literal
import Calculator.Proofs.Errors
import Calculator.Proofs.Service.Posting
import Calculator.Proofs.CommandLine
import Calculator.Proofs.Service.Constants
import Calculator.Proofs.Service.Agreement
import Calculator.Proofs.Parentheses
import Calculator.Proofs.Forest
import Calculator.Proofs.WrittenOut
import Calculator.Proofs.Stray
import Calculator.Proofs.Stages
import Calculator.Proofs.Service.Refusal
import Calculator.Proofs.Conservation
import Calculator.Proofs.OpenCall
import Calculator.Proofs.Number.Negation
import Calculator.Proofs.Number.RoundTrip
import Calculator.Proofs.Lookahead
import Calculator.Proofs.Trailing
import Calculator.Proofs.SignKey
import Calculator.Proofs.Pressing
import Calculator.Proofs.Settled
import Calculator.Proofs.Insertion
import Calculator.Proofs.Junction
import Calculator.Proofs.Printing
import Calculator.Proofs.LongestNumeral
import Calculator.Proofs.Segmentation
import Calculator.Proofs.Decoding
import Calculator.Proofs.Report
import Calculator.Proofs.AngleDependence
import Calculator.Proofs.Number.Products
import Calculator.Proofs.Number.Natural
import Calculator.Proofs.Factorial
import Calculator.Proofs.Calls
