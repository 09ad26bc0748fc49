import Formulary.Main
import Formulary.Proofs.Effects
import Formulary.Proofs.Pipeline.Standing
import Formulary.Proofs.Pipeline.Gating
import Formulary.Proofs.Endings
import Formulary.Proofs.Resolution
import Formulary.Proofs.Kitchen.Stages
import Formulary.Proofs.Kitchen.Report
import Formulary.Proofs.Machine.Tree
import Formulary.Proofs.Machine.Supervising
import Formulary.Proofs.Smoke.Judging
import Formulary.Proofs.Machine.Ways
import Formulary.Proofs.Machine.Renamed
import Formulary.Proofs.Machine.Operations
import Formulary.Proofs.Machine.Actions
import Formulary.Proofs.Fetch.Digests
import Formulary.Proofs.Fetch.Unpacking
import Formulary.Proofs.Kitchen.Sources
import Formulary.Proofs.CommandLine.Works
import Formulary.Proofs.Loading
import Formulary.Proofs.Template
import Formulary.Proofs.Kitchen.Artifact
import Formulary.Proofs.Machine.Written
import Formulary.Proofs.Fetch.Downloads
import Formulary.Proofs.Fetch.Names
import Formulary.Proofs.Fetch.History
import Formulary.Proofs.Fetch.Leftovers
import Formulary.Proofs.Mentions
import Formulary.Proofs.Fetch.Stopping
import Formulary.Proofs.Install.Landing
import Formulary.Proofs.Settling
import Formulary.Proofs.Kitchen.Enclosure
import Formulary.Proofs.Formula.Writing
import Formulary.Proofs.Linking
import Formulary.Proofs.Kitchen.Calls
import Formulary.Proofs.Kitchen.Gates
import Formulary.Proofs.Kitchen.Order
import Formulary.Proofs.Machine.Leads
import Formulary.Proofs.Machine.Making
import Formulary.Proofs.Machine.Alike
import Formulary.Proofs.Fetch.Apart
import Formulary.Proofs.Fetch.Agreement
import Formulary.Proofs.Fetch.Swapped
import Formulary.Proofs.Text.Trimming
import Formulary.Proofs.Checksum
import Formulary.Proofs.Version
import Formulary.Proofs.Descriptor
import Formulary.Proofs.Text.Replacing
import Formulary.Proofs.Filling
import Formulary.Proofs.Address
import Formulary.Proofs.Smoke.Aborting
import Formulary.Proofs.Text.Decoding
import Formulary.Proofs.Machine.Shown
import Formulary.Proofs.Install.Asking
import Formulary.Proofs.Install.Order
import Formulary.Proofs.Install.Fidelity
import Formulary.Proofs.Shorthand
import Formulary.Proofs.Invocation.Reading
import Formulary.Proofs.Invocation.Collisions
import Formulary.Proofs.Fetch.Roots
import Formulary.Proofs.Kitchen.Courses
import Formulary.Proofs.Kitchen.Causes
import Formulary.Proofs.CommandLine.ExitCodes
import Formulary.Proofs.CommandLine.Warnings
import Formulary.Proofs.Machine.Temporary
import Formulary.Proofs.Kitchen.Fetching
import Formulary.Proofs.Kitchen.Keeping
import Formulary.Proofs.Unbound
import Formulary.Proofs.Smoke.Behaviour
import Formulary.Proofs.CommandLine.Agreement
import Formulary.Proofs.Machine.Untouched
import Formulary.Proofs.Smoke.Scratches
import Formulary.Proofs.Fetch.Sparing
import Formulary.Proofs.Kitchen.Tidying
import Formulary.Proofs.Maps
import Formulary.Proofs.Text.Order
import Formulary.Proofs.Variables
import Formulary.Proofs.Calendar.Days
import Formulary.Proofs.Calendar.Moments
import Formulary.Proofs.Text.Boundaries
import Formulary.Proofs.Smoke.Snippets
import Formulary.Proofs.Digest.Streams
