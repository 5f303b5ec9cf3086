import Countoff.Main
import Countoff.Outlet.Buffer
import Countoff.Proofs.Delivery
import Countoff.Proofs.FileTree.History
import Countoff.Proofs.Program.Agreement
import Countoff.Proofs.Program.Ending
import Countoff.Proofs.Run.History
import Countoff.Proofs.Run.Protocol
import Countoff.Proofs.CommandLine.Repeats
import Countoff.Proofs.CommandLine.Misuse
import Countoff.Proofs.Toml.Table
import Countoff.Proofs.Toml.WellFormed
import Countoff.Proofs.Settings.Schema
import Countoff.Proofs.Settings.Surplus
import Countoff.Proofs.Toml.Words
import Countoff.Proofs.Toml.Gathering
import Countoff.Proofs.Toml.Layout
import Countoff.Proofs.Settings.Spelling
import Countoff.Proofs.Interval.Words
import Countoff.Proofs.CommandLine.Flags
import Countoff.Proofs.Run.Faults
import Countoff.Proofs.Program.Rehearsal
import Countoff.Proofs.Program.Verbosity
import Countoff.Proofs.Interval.Sources
import Countoff.Proofs.Interval.Notations
import Countoff.Proofs.Format.Plain
import Countoff.Proofs.Run.Parts
import Countoff.Proofs.Label.Meaning
import Countoff.Proofs.Listing.Census
import Countoff.Proofs.Program.Report
import Countoff.Proofs.Configuration.Judgement
