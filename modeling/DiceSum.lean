import DiceSum.CommandLine
import DiceSum.CommandLine.Arguments
import DiceSum.CommandLine.Options
import DiceSum.Event
import DiceSum.Failure
import DiceSum.Main
import DiceSum.Mean
import DiceSum.Mean.Shortest
import DiceSum.Proofs.CommandLine.Mean
import DiceSum.Proofs.CommandLine.Surfaces
import DiceSum.Proofs.CommandLine.Unseparated
import DiceSum.Proofs.CommandLine.Verbose
import DiceSum.Proofs.CommandLine.Words
import DiceSum.Proofs.Mean.Error
import DiceSum.Proofs.Mean.Exact
import DiceSum.Proofs.Mean.Negation
import DiceSum.Proofs.Mean.Order
import DiceSum.Proofs.Mean.Range
import DiceSum.Proofs.Mean.Rounding
import DiceSum.Proofs.Mean.Stagnation
import DiceSum.Proofs.Reading.Bounds
import DiceSum.Proofs.Reading.Conversion
import DiceSum.Proofs.Reading.Culprit
import DiceSum.Proofs.Reading.Extent
import DiceSum.Proofs.Reading.Faults
import DiceSum.Proofs.Reading.Language
import DiceSum.Proofs.Reading.Noting
import DiceSum.Proofs.Reading.Position
import DiceSum.Proofs.Reading.Rejected
import DiceSum.Proofs.Reading.Spaced
import DiceSum.Proofs.Reading.Spelling
import DiceSum.Proofs.Reading.Verdict
import DiceSum.Proofs.Rendering.RoundTrip
import DiceSum.Proofs.Rendering.Unambiguous
import DiceSum.Proofs.Report.Answer
import DiceSum.Proofs.Report.Entries
import DiceSum.Proofs.Report.Message
import DiceSum.Proofs.Report.Record
import DiceSum.Proofs.Report.Session
import DiceSum.Proofs.Rolling.Answers
import DiceSum.Proofs.Rolling.Expectation
import DiceSum.Proofs.Rolling.Negation
import DiceSum.Proofs.Rolling.Tape
import DiceSum.Proofs.Rolling.Totals
import DiceSum.Proofs.Rolling.Transcript
import DiceSum.Proofs.Text.Join
import DiceSum.Proofs.Text.Run
import DiceSum.Proofs.Text.Spelling
import DiceSum.Proofs.Text.Value
import DiceSum.Proofs.Token.Maximal
import DiceSum.Proofs.Token.Munch
import DiceSum.Proofs.Token.Partition
import DiceSum.Proofs.Token.Pattern
import DiceSum.Reading
import DiceSum.Refusal
import DiceSum.Rendering
import DiceSum.Report
import DiceSum.Rolling
import DiceSum.Settings
import DiceSum.Source
import DiceSum.Source.Seed
import DiceSum.Source.Twister
import DiceSum.Term
import DiceSum.Text
import DiceSum.Text.Decimal
import DiceSum.Text.Numeral
import DiceSum.Text.Printable
import DiceSum.Text.Quoted
import DiceSum.Text.UpperCase
import DiceSum.Text.WholeNumber
import DiceSum.Token
