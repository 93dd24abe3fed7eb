import TreeShell.Main
import TreeShell.Proofs.Builtin.Answers
import TreeShell.Proofs.Completion.Cycling
import TreeShell.Proofs.Completion.Path
import TreeShell.Proofs.Durability
import TreeShell.Proofs.InPlace.Atomicity
import TreeShell.Proofs.PathMap.Copy
import TreeShell.Proofs.PathMap.CurrentFolder
import TreeShell.Proofs.PathMap.Move
import TreeShell.Proofs.Record.Acceptance
import TreeShell.Proofs.Script.Blind
import TreeShell.Proofs.Script.Laws
import TreeShell.Proofs.Script.Nesting
import TreeShell.Proofs.Script.Surfacing
import TreeShell.Proofs.Settings.Durability
import TreeShell.Proofs.Tree.Preservation
import TreeShell.Proofs.Walk.Loop
import TreeShell.Proofs.Words.CommandLine
import TreeShell.Proofs.Words.Partition
import TreeShell.Proofs.Words.Separation
import TreeShell.Proofs.Dispatch.Words
import TreeShell.Proofs.Dispatch.Aliases
import TreeShell.Proofs.Dispatch.OnPath
import TreeShell.Proofs.Dispatch.Invocation
import TreeShell.Proofs.Settings.History
import TreeShell.Proofs.Builtin.Listing
import TreeShell.Proofs.Builtin.Searching
import TreeShell.Proofs.Session.Loop
import TreeShell.Proofs.Builtin.Forcing
import TreeShell.Proofs.Builtin.Updating
import TreeShell.Proofs.Builtin.Sparing
import TreeShell.Proofs.Builtin.Requests
import TreeShell.Proofs.Pattern.Globs
import TreeShell.Proofs.Record.Keys
import TreeShell.Proofs.Builtin.Aliasing
import TreeShell.Proofs.Path.Routes
