import Stacktrace.Log.State
import Stacktrace.Settings.Load
import Stacktrace.Proofs.Outcome
import Stacktrace.Proofs.Text.Lines
import Stacktrace.Proofs.Text.Search
import Stacktrace.Proofs.Text.Numeral
import Stacktrace.Proofs.Frame.Place
import Stacktrace.Proofs.Frame.Grammar
import Stacktrace.Proofs.Frame.Placed
import Stacktrace.Proofs.Frame.Chromium
import Stacktrace.Proofs.Frame.Firefox
import Stacktrace.Proofs.Frame.Reading
import Stacktrace.Proofs.Frame.Rereading
import Stacktrace.Proofs.Frame.Dialects
import Stacktrace.Proofs.Frame.Evaluated
import Stacktrace.Proofs.Frame.Agreement
import Stacktrace.Proofs.Frame.Legible
import Stacktrace.Proofs.Frame.ShortestFile
import Stacktrace.Proofs.Frame.ReportedCall
import Stacktrace.Proofs.Frame.QuotedName
import Stacktrace.Proofs.Frame.EvalChain
import Stacktrace.Proofs.Frame.SuffixGrammar
import Stacktrace.Proofs.Frame.WrapperSuffix
import Stacktrace.Proofs.Resolver
import Stacktrace.Proofs.Resolver.History
import Stacktrace.Proofs.Stack.Building
import Stacktrace.Proofs.Stack.Division
import Stacktrace.Proofs.Stack.Session
import Stacktrace.Proofs.Stack.Questions
import Stacktrace.Proofs.Stack.LineStructure
import Stacktrace.Proofs.Stack.FrameLines
import Stacktrace.Proofs.Stack.Agreement
import Stacktrace.Proofs.Stack.Mapping
import Stacktrace.Proofs.Stack.Rereading
import Stacktrace.Proofs.Stack.RoundTrip
import Stacktrace.Proofs.Stack.ReportedFile
import Stacktrace.Proofs.CodeFrame
import Stacktrace.Proofs.Mapper.Process
import Stacktrace.Proofs.Mapper.Header
import Stacktrace.Proofs.Mapper.CodeFrame
import Stacktrace.Proofs.Mapper.Questions
import Stacktrace.Proofs.Error.Normalized
import Stacktrace.Proofs.Error.Replacement
import Stacktrace.Proofs.Error.Fields
import Stacktrace.Proofs.Error.WriteBack
import Stacktrace.Proofs.Value.Written
import Stacktrace.Proofs.Error.Reading
import Stacktrace.Proofs.Mapper.Normalize
import Stacktrace.Proofs.Mapper.Returning
import Stacktrace.Proofs.Error.Shapes
import Stacktrace.Proofs.CodeFrame.LineEndings
import Stacktrace.Proofs.CodeFrame.Marker
import Stacktrace.Proofs.CodeFrame.Layout
import Stacktrace.Proofs.Settings.Valid
import Stacktrace.Proofs.Settings.Document
import Stacktrace.Proofs.Settings.Loaded
import Stacktrace.Proofs.Log.Written
import Stacktrace.Proofs.Log.History
import Stacktrace.Proofs.Error.Inspection
import Stacktrace.Proofs.Settings.Placeholder
import Stacktrace.Proofs.Stack.Independence
import Stacktrace.Proofs.Log.Entry
import Stacktrace.Proofs.Log.Context
import Stacktrace.Proofs.Log.Documented
import Stacktrace.Proofs.Log.Standard
