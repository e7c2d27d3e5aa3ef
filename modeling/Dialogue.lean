import Dialogue.Channel.Duplex
import Dialogue.Channel.Script
import Dialogue.Channel.Socket
import Dialogue.Main
import Dialogue.Proofs.Session.Path
import Dialogue.Rehearsal
import Dialogue.Reception
import Dialogue.Proofs.Session.Rules
import Dialogue.Proofs.Session.Course
import Dialogue.Proofs.Session.History
import Dialogue.Proofs.Session.Report
import Dialogue.Proofs.Session.Prescription
import Dialogue.Proofs.Text.Utf8
import Dialogue.Proofs.Wire.Frame
import Dialogue.Proofs.Channel.Lines
import Dialogue.Proofs.Session.Simulation
import Dialogue.Proofs.Channel.Client
import Dialogue.Proofs.Channel.Scripted
import Dialogue.Proofs.Channel.Agreement
import Dialogue.Proofs.Channel.Inbox
import Dialogue.Proofs.Channel.Requests
import Dialogue.Proofs.Snapshot.RoundTrip
import Dialogue.Proofs.Session.Trail
import Dialogue.Proofs.Session.Writes
import Dialogue.Proofs.Channel.Replies
import Dialogue.Proofs.Session.Standing
import Dialogue.Proofs.Channel.Cues
import Dialogue.Proofs.Session.Stretches
import Dialogue.Proofs.Session.Resumption
import Dialogue.Proofs.Channel.Chunks
import Dialogue.Proofs.Snapshot.Shortest
import Dialogue.Proofs.Editor.Import
import Dialogue.Proofs.Snapshot.Truncation
import Dialogue.Proofs.Session.Reach
import Dialogue.Proofs.Session.Overlooked
import Dialogue.Proofs.Projects.Directory
import Dialogue.Proofs.Channel.Leftovers
import Dialogue.Proofs.Channel.Limit
import Dialogue.Proofs.Channel.Reception
import Dialogue.Proofs.Flow.Declared
import Dialogue.Proofs.Flow.Contents
import Dialogue.Proofs.Session.Branching
import Dialogue.Proofs.Session.Texts
import Dialogue.Proofs.Condition.Equality
import Dialogue.Proofs.Template.Substitution
import Dialogue.Proofs.Session.Menus
import Dialogue.Proofs.Menu.Words
import Dialogue.Proofs.Value.Reading
import Dialogue.Proofs.Editor.Faulty
import Dialogue.Proofs.Editor.Conversion
import Dialogue.Proofs.Snapshot.Saving
import Dialogue.Proofs.Channel.TypedAhead
import Dialogue.Proofs.Json.Summary
import Dialogue.Proofs.Wire.Forms
import Dialogue.Proofs.Variables
import Dialogue.Proofs.Template.Capture
import Dialogue.Proofs.Value.Display
import Dialogue.Proofs.Prompts.Overriding
