import Phrasebook.Text.Quoted
import Phrasebook.Text.Blank
import Phrasebook.Template.Compile
import Phrasebook.Template.Match
import Phrasebook.Template.Render
import Phrasebook.Convert.Registry
import Phrasebook.Arguments
import Phrasebook.Json.Shape
import Phrasebook.Service.Register
import Phrasebook.Service.Run
import Phrasebook.Demo.CommandLine
import Phrasebook.Main
import Phrasebook.Script.Scene
import Phrasebook.Proofs.Template.Cut
import Phrasebook.Proofs.Template.Reading
import Phrasebook.Proofs.Template.Printing
import Phrasebook.Proofs.Template.Prefix
import Phrasebook.Proofs.Template.Lookup
import Phrasebook.Proofs.Template.Lossless
import Phrasebook.Proofs.Template.Canonical
import Phrasebook.Proofs.Template.Extension
import Phrasebook.Proofs.Input.Lines
import Phrasebook.Proofs.Service.Dispatch
import Phrasebook.Proofs.Service.Reachable
import Phrasebook.Proofs.Service.Answers
import Phrasebook.Proofs.Service.History
import Phrasebook.Proofs.Service.Exit
import Phrasebook.Proofs.Service.Loop
import Phrasebook.Proofs.Service.Declared
import Phrasebook.Proofs.Service.RouteTable
import Phrasebook.Proofs.Service.Factories
import Phrasebook.Proofs.Service.EventLog
import Phrasebook.Proofs.Service.Listing
import Phrasebook.Proofs.Service.Interleaving
import Phrasebook.Proofs.Template.Dead
import Phrasebook.Proofs.Template.Rendering
import Phrasebook.Proofs.Service.Binding
import Phrasebook.Proofs.Convert.Offers
import Phrasebook.Proofs.Convert.Grammar
import Phrasebook.Proofs.Value.TypeName
import Phrasebook.Proofs.Arguments
import Phrasebook.Proofs.Demo.Ages
import Phrasebook.Proofs.Demo.Secrets
import Phrasebook.Proofs.Demo.Modes
import Phrasebook.Proofs.Demo.AgeLists
import Phrasebook.Proofs.Template.Cursor
import Phrasebook.Proofs.Template.FirstRun
import Phrasebook.Proofs.Template.NameComparison
