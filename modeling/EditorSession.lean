import EditorSession.Main
import EditorSession.Session
import EditorSession.Proofs.Files.Reading
import EditorSession.Proofs.Files.SameFile
import EditorSession.Proofs.Files.Spelling
import EditorSession.Proofs.Hosts.Editors
import EditorSession.Proofs.Hosts.Reveal
import EditorSession.Proofs.Session.Effects
import EditorSession.Proofs.Diagnostics.History
import EditorSession.Proofs.Session.Mirror
import EditorSession.Proofs.Session.Reachable
import EditorSession.Proofs.Session.Traffic
import EditorSession.Proofs.Search.Groups
import EditorSession.Proofs.Json.Printing
import EditorSession.Proofs.Messages.Lines
import EditorSession.Proofs.Messages.Replies
import EditorSession.Proofs.Search.Navigation
import EditorSession.Proofs.Hosts.Deliveries
import EditorSession.Proofs.Session.Deliveries
import EditorSession.Proofs.Protocol.Leniency
import EditorSession.Proofs.Hosts.Visits
import EditorSession.Proofs.Session.Buffers
import EditorSession.Proofs.Session.Redelivery
import EditorSession.Proofs.Files.Places
import EditorSession.Proofs.Messages.BadLines
import EditorSession.Proofs.Json.Skipping
import EditorSession.Proofs.Messages.Envelopes
import EditorSession.Proofs.Session.Lifecycle
import EditorSession.Proofs.Json.Reading
import EditorSession.Proofs.Messages.Output
import EditorSession.Proofs.Files.Trees
import EditorSession.Proofs.Search.Shielding
import EditorSession.Proofs.Session.Connections
import EditorSession.Proofs.Protocol.Rereading
import EditorSession.Proofs.Text.Lines
import EditorSession.Proofs.Text.Parts
import EditorSession.Proofs.Text.Addresses
import EditorSession.Proofs.Text.Counter
import EditorSession.Proofs.Search.Matches
import EditorSession.Proofs.Session.Focus
import EditorSession.Proofs.Signature.Encodings
import EditorSession.Proofs.Session.Batches
import EditorSession.Proofs.Session.Popups
import EditorSession.Proofs.Diagnostics.Changes
import EditorSession.Proofs.Signature.Selection
import EditorSession.Proofs.Diagnostics.Counts
import EditorSession.Proofs.Text.Index
