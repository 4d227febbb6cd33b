import TypeAtlas.Command.Target
import TypeAtlas.Command.Run
import TypeAtlas.Data.Json
import TypeAtlas.Data.JsonReader
import TypeAtlas.Data.Merge
import TypeAtlas.Extract.Run
import TypeAtlas.Log.Journal
import TypeAtlas.Main
import TypeAtlas.Node.Reader
import TypeAtlas.RunId
import TypeAtlas.Script.Step
import TypeAtlas.Settings.Sources
import TypeAtlas.Diagnostic.Form
import TypeAtlas.Proofs.Extract.Covering
import TypeAtlas.Proofs.Extract.Orderly
import TypeAtlas.Proofs.Extract.Roots
import TypeAtlas.Proofs.Builder.Basic
import TypeAtlas.Proofs.Builder.Call
import TypeAtlas.Proofs.Extract.Accounted
import TypeAtlas.Proofs.Extract.Ending
import TypeAtlas.Proofs.Extract.Advance
import TypeAtlas.Proofs.Extract.Apart
import TypeAtlas.Proofs.Extract.Isolation
import TypeAtlas.Proofs.Extract.Default
import TypeAtlas.Proofs.Extract.Inherited
import TypeAtlas.Proofs.Extract.Flattened
import TypeAtlas.Proofs.Extract.Sources
import TypeAtlas.Proofs.Extract.Permuted
import TypeAtlas.Proofs.Node.Reading
import TypeAtlas.Proofs.Extract.Aliases
import TypeAtlas.Proofs.Builder.Finished
import TypeAtlas.Proofs.Builder.FinishedCall
import TypeAtlas.Proofs.Program.Complete
import TypeAtlas.Proofs.Extract.Shared
import TypeAtlas.Proofs.Extract.ScopedRoots
import TypeAtlas.Proofs.Extract.Bases
import TypeAtlas.Proofs.Binding.History
import TypeAtlas.Proofs.Extract.Throughout
import TypeAtlas.Proofs.Extract.Replay
import TypeAtlas.Proofs.Node.Expression
import TypeAtlas.Proofs.Builder.Expression
import TypeAtlas.Proofs.Extract.Expression
import TypeAtlas.Proofs.Extract.Completing
import TypeAtlas.Proofs.Builder.ParametricCall
import TypeAtlas.Proofs.Extract.Trimming
import TypeAtlas.Proofs.Settings.Precedence
import TypeAtlas.Proofs.Graph.PropIds
import TypeAtlas.Proofs.Extract.Literal
import TypeAtlas.Proofs.Extract.Search
import TypeAtlas.Proofs.Registry.History
import TypeAtlas.Proofs.Program.Stemming
import TypeAtlas.Proofs.Builder.Stemming
import TypeAtlas.Proofs.Builder.Identity
import TypeAtlas.Proofs.Extract.Heritage
import TypeAtlas.Proofs.Extract.Ownership
