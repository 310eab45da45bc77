import GreetCalc.Addition
import GreetCalc.Calendar
import GreetCalc.CommandLine.Invocation
import GreetCalc.CommandLine.Run
import GreetCalc.CommandLine.Switch
import GreetCalc.CommandLine.Token
import GreetCalc.CommandLine.Usage
import GreetCalc.Decimal.Binary
import GreetCalc.Decimal.Numeral
import GreetCalc.Decimal.Power
import GreetCalc.Decimal.Shortest
import GreetCalc.Failure
import GreetCalc.FileTree
import GreetCalc.Greeter
import GreetCalc.Greeter.Kept
import GreetCalc.Log
import GreetCalc.Main
import GreetCalc.Path
import GreetCalc.Proofs.Addition
import GreetCalc.Proofs.Addition.Accumulation
import GreetCalc.Proofs.Addition.Outcomes
import GreetCalc.Proofs.Addition.Running
import GreetCalc.Proofs.Calendar
import GreetCalc.Proofs.CommandLine.Arrangement
import GreetCalc.Proofs.CommandLine.Endings
import GreetCalc.Proofs.CommandLine.Failures
import GreetCalc.Proofs.CommandLine.Greetings
import GreetCalc.Proofs.CommandLine.Plans
import GreetCalc.Proofs.CommandLine.Precedence
import GreetCalc.Proofs.CommandLine.Reading
import GreetCalc.Proofs.CommandLine.Roots
import GreetCalc.Proofs.CommandLine.Sums
import GreetCalc.Proofs.CommandLine.Token
import GreetCalc.Proofs.Decimal.Numeral
import GreetCalc.Proofs.Decimal.Padded
import GreetCalc.Proofs.FileTree
import GreetCalc.Proofs.Greeter.Kept
import GreetCalc.Proofs.Log
import GreetCalc.Proofs.Log.LevelNames
import GreetCalc.Proofs.Log.Stamps
import GreetCalc.Proofs.Path
import GreetCalc.Proofs.Path.Normal
import GreetCalc.Proofs.Session.EntryPoints
import GreetCalc.Proofs.Session.Failures
import GreetCalc.Proofs.Session.Greeters
import GreetCalc.Proofs.Session.History
import GreetCalc.Proofs.Session.Logging
import GreetCalc.Proofs.Session.Steps
import GreetCalc.Proofs.Session.Sums
import GreetCalc.Proofs.Settings.Contents
import GreetCalc.Proofs.Settings.Faults
import GreetCalc.Proofs.Settings.Loading
import GreetCalc.Proofs.Settings.RoundTrip
import GreetCalc.Proofs.Settings.Schema
import GreetCalc.Proofs.Settings.Validation
import GreetCalc.Proofs.Text.LowerCase
import GreetCalc.Proofs.Text.Utf8
import GreetCalc.Proofs.Text.WellFormed
import GreetCalc.Proofs.Toml.Layout
import GreetCalc.Proofs.Toml.Numbers
import GreetCalc.Proofs.Toml.Strings
import GreetCalc.Proofs.Value
import GreetCalc.Proofs.Word
import GreetCalc.Session
import GreetCalc.Settings
import GreetCalc.Settings.File
import GreetCalc.Text.Blank
import GreetCalc.Text.Digit
import GreetCalc.Text.Excerpt
import GreetCalc.Text.LowerCase
import GreetCalc.Text.Printable
import GreetCalc.Text.Quoted
import GreetCalc.Text.Utf8
import GreetCalc.Toml.Document
import GreetCalc.Toml.Fault
import GreetCalc.Toml.Key
import GreetCalc.Toml.Moment
import GreetCalc.Toml.Namespace
import GreetCalc.Toml.Number
import GreetCalc.Toml.Scan
import GreetCalc.Toml.Strings
import GreetCalc.Toml.Values
import GreetCalc.Validation
import GreetCalc.Value
import GreetCalc.Value.Access
import GreetCalc.Value.Literal
import GreetCalc.Value.Same
import GreetCalc.Word
