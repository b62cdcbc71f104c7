import RegistryProbe.Agent
import RegistryProbe.DemoRegistry.Router
import RegistryProbe.Run
import RegistryProbe.Scan
import RegistryProbe.Selector.Canonical
import RegistryProbe.Selector.Evaluation
import RegistryProbe.Selector.Grammar
import RegistryProbe.Selector.Offsets
import RegistryProbe.Settings
import RegistryProbe.Json.RoundTrip
import RegistryProbe.Wire
import RegistryProbe.CommandLine.Reader
import RegistryProbe.LogFilter.Reader
import RegistryProbe.Main
import RegistryProbe.Proofs.Files.Walk
import RegistryProbe.Proofs.Files.Writing
import RegistryProbe.Proofs.Probe.Answer
import RegistryProbe.Proofs.Probe.Saving
import RegistryProbe.Proofs.Probe.Judging
import RegistryProbe.Proofs.Probe.Asking
import RegistryProbe.Proofs.Selector.Numerals
import RegistryProbe.Proofs.Selector.Passes
import RegistryProbe.Proofs.Selector.Decomposition
import RegistryProbe.Proofs.Selector.Nulls
import RegistryProbe.Proofs.Workspace.Setup
import RegistryProbe.Proofs.Workspace.Slots
import RegistryProbe.Proofs.Workspace.Apart
import RegistryProbe.Proofs.Scope.Course
import RegistryProbe.Proofs.Scan.Calls
import RegistryProbe.Proofs.Scan.Loop
import RegistryProbe.Proofs.Scan.Fold
import RegistryProbe.Proofs.Files.Removing
import RegistryProbe.Proofs.Scope.Machine
import RegistryProbe.Proofs.Scope.Guards
import RegistryProbe.Proofs.Scope.Cleanup
import RegistryProbe.Proofs.Scope.Alike
import RegistryProbe.Proofs.Scope.Telling
import RegistryProbe.Proofs.Scope.Intents
import RegistryProbe.Proofs.Files.Nesting
import RegistryProbe.Proofs.Files.Holding
import RegistryProbe.Proofs.Scan.Filing
import RegistryProbe.Proofs.Scan.Contents
import RegistryProbe.Proofs.Uri.Printing
import RegistryProbe.Proofs.Probe.Addresses
import RegistryProbe.Proofs.DemoRegistry.Routing
import RegistryProbe.Proofs.DemoRegistry.Answering
import RegistryProbe.Proofs.DemoRegistry.Agreement
import RegistryProbe.Proofs.Probe.Truncation
import RegistryProbe.Proofs.Envelope.Details
import RegistryProbe.Proofs.Envelope.Readings
import RegistryProbe.Proofs.Selector.CanonicalTexts
import RegistryProbe.Proofs.Selector.Composing
import RegistryProbe.Proofs.Diagnostics.Filling
import RegistryProbe.Proofs.Diagnostics.Lines
import RegistryProbe.Proofs.Files.Placing
import RegistryProbe.Proofs.Files.Laying
import RegistryProbe.Proofs.Probe.Outputs
import RegistryProbe.Proofs.Probe.Interference
import RegistryProbe.Proofs.Selector.Beginnings
import RegistryProbe.Proofs.ApiRoot.Joining
import RegistryProbe.Proofs.Text.Revealing
import RegistryProbe.Proofs.Selector.Offences
import RegistryProbe.Proofs.Selector.Refusals
import RegistryProbe.Proofs.Uri.Paths
import RegistryProbe.Proofs.DemoRegistry.Redirects
import RegistryProbe.Proofs.DemoRegistry.Padding
import RegistryProbe.Proofs.Envelope.Records
import RegistryProbe.Proofs.Selector.Shown
import RegistryProbe.Selector.Slices
import RegistryProbe.Proofs.Selector.Slicing
import RegistryProbe.Proofs.Selector.Rounds
