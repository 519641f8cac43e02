import PrintFarm.Http.Server
import PrintFarm.Main
import PrintFarm.Proofs.Surfaces
import PrintFarm.Proofs.Balances
import PrintFarm.Proofs.Frozen
import PrintFarm.Proofs.Interference
import PrintFarm.Proofs.Journal
import PrintFarm.Proofs.Rollup
import PrintFarm.Proofs.Lifecycles
import PrintFarm.Proofs.Drawing
import PrintFarm.Proofs.Settling
import PrintFarm.Proofs.Atomicity
import PrintFarm.Proofs.Fixing
import PrintFarm.Proofs.Weights
import PrintFarm.Proofs.Fallbacks
import PrintFarm.Proofs.Stamps
import PrintFarm.Proofs.Ending
import PrintFarm.Proofs.Moving
import PrintFarm.Proofs.Bodies
import PrintFarm.Proofs.Repeating
import PrintFarm.Proofs.Recording
import PrintFarm.Proofs.Creating
import PrintFarm.Proofs.Numbering
import PrintFarm.Proofs.Patching
import PrintFarm.Proofs.Resetting
import PrintFarm.Proofs.Counting
import PrintFarm.Proofs.Listing
import PrintFarm.Proofs.Costs
import PrintFarm.Proofs.Yields
import PrintFarm.Proofs.Pages
import PrintFarm.Proofs.Urls
import PrintFarm.Proofs.Sources
import PrintFarm.Proofs.Tallies
import PrintFarm.Proofs.Complaints
import PrintFarm.Proofs.Words
