import BrowserFlow.Browser.Host
import BrowserFlow.Browser.Live
import BrowserFlow.Browser.Simulated
import BrowserFlow.Browser.Tab
import BrowserFlow.CommandLine.Arguments
import BrowserFlow.CommandLine.Options
import BrowserFlow.CommandLine.Place
import BrowserFlow.CommandLine.Run
import BrowserFlow.Decimal.Binary
import BrowserFlow.Decimal.Layout
import BrowserFlow.Decimal.Numeral
import BrowserFlow.Decimal.Shortest
import BrowserFlow.Dictionary
import BrowserFlow.Fault
import BrowserFlow.Flow.Basic
import BrowserFlow.Flow.BlockKind
import BrowserFlow.Flow.Body
import BrowserFlow.Flow.Config
import BrowserFlow.FlowFile.File
import BrowserFlow.FlowFile.Schema
import BrowserFlow.Main
import BrowserFlow.Page.Action
import BrowserFlow.Page.Result
import BrowserFlow.Page.Table
import BrowserFlow.Page.Words
import BrowserFlow.Parameter
import BrowserFlow.Proofs.Account
import BrowserFlow.Proofs.Activity
import BrowserFlow.Proofs.Along
import BrowserFlow.Proofs.Announcements
import BrowserFlow.Proofs.Answers
import BrowserFlow.Proofs.Attention
import BrowserFlow.Proofs.Bodies
import BrowserFlow.Proofs.Closing
import BrowserFlow.Proofs.Composition
import BrowserFlow.Proofs.Counting
import BrowserFlow.Proofs.Course
import BrowserFlow.Proofs.CurrentTab
import BrowserFlow.Proofs.Cutting
import BrowserFlow.Proofs.Deadlines
import BrowserFlow.Proofs.Detached
import BrowserFlow.Proofs.Dispatching
import BrowserFlow.Proofs.DryRuns
import BrowserFlow.Proofs.Exclusion
import BrowserFlow.Proofs.Fallbacks
import BrowserFlow.Proofs.Frames
import BrowserFlow.Proofs.InitialVariables
import BrowserFlow.Proofs.Items
import BrowserFlow.Proofs.Iteration
import BrowserFlow.Proofs.JsonTexts
import BrowserFlow.Proofs.LeavingOut
import BrowserFlow.Proofs.Levels
import BrowserFlow.Proofs.LivePages
import BrowserFlow.Proofs.LiveTabs
import BrowserFlow.Proofs.Loading
import BrowserFlow.Proofs.Locations
import BrowserFlow.Proofs.Numerals
import BrowserFlow.Proofs.Occurrences
import BrowserFlow.Proofs.OpenTabs
import BrowserFlow.Proofs.PageCalls
import BrowserFlow.Proofs.Partition
import BrowserFlow.Proofs.PassedValues
import BrowserFlow.Proofs.Policies
import BrowserFlow.Proofs.Polling
import BrowserFlow.Proofs.Precedence
import BrowserFlow.Proofs.Preparing
import BrowserFlow.Proofs.Refinement
import BrowserFlow.Proofs.Rejection
import BrowserFlow.Proofs.Reports
import BrowserFlow.Proofs.Retrying
import BrowserFlow.Proofs.Reuse
import BrowserFlow.Proofs.RoundTrip
import BrowserFlow.Proofs.Schema
import BrowserFlow.Proofs.Selections
import BrowserFlow.Proofs.ServedTabs
import BrowserFlow.Proofs.Settings
import BrowserFlow.Proofs.SimulatedTabs
import BrowserFlow.Proofs.Simulation
import BrowserFlow.Proofs.StalePages
import BrowserFlow.Proofs.Stopping
import BrowserFlow.Proofs.Structured
import BrowserFlow.Proofs.Switches
import BrowserFlow.Proofs.Switching
import BrowserFlow.Proofs.TableTexts
import BrowserFlow.Proofs.Tables
import BrowserFlow.Proofs.Targets
import BrowserFlow.Proofs.Timely
import BrowserFlow.Proofs.Uniform
import BrowserFlow.Proofs.Verdicts
import BrowserFlow.Run.Engine
import BrowserFlow.Run.Progress
import BrowserFlow.Run.Rehearsal
import BrowserFlow.Run.Repeater
import BrowserFlow.Run.Status
import BrowserFlow.Step.Condition
import BrowserFlow.Step.Dispatch
import BrowserFlow.Step.ElementWait
import BrowserFlow.Step.Execute
import BrowserFlow.Step.Retry
import BrowserFlow.Text.Base64
import BrowserFlow.Text.Blank
import BrowserFlow.Text.CharTable
import BrowserFlow.Text.Digit
import BrowserFlow.Text.LowerCase
import BrowserFlow.Text.Printable
import BrowserFlow.Text.Quoted
import BrowserFlow.Text.Run
import BrowserFlow.Text.Utf8
import BrowserFlow.Text.WordChar
import BrowserFlow.Timed.Activity
import BrowserFlow.Timed.Clock
import BrowserFlow.Value
import BrowserFlow.Value.Display
import BrowserFlow.Value.Equality
import BrowserFlow.Value.Json
import BrowserFlow.Value.JsonReader
import BrowserFlow.Value.Sequence
import BrowserFlow.Variables.Names
import BrowserFlow.Variables.Store
import BrowserFlow.Variables.Template
import BrowserFlow.Yaml.Cursor
import BrowserFlow.Yaml.Document
import BrowserFlow.Yaml.Layout
import BrowserFlow.Yaml.Node
import BrowserFlow.Yaml.Number
import BrowserFlow.Yaml.Scalar
import BrowserFlow.Yaml.Tag
import BrowserFlow.Yaml.Timestamp
import BrowserFlow.Yaml.Token
