import Aize.Lib.Transition
import Aize.Reconciled
import Aize.Windows
import Aize.Completed
import Aize.Exclusivity
import Aize.Inert
import Aize.Choosing
import Aize.Fairness
import Aize.Waits
import Aize.Rebuildable
import Aize.Fencing
import Aize.Resuming
import Aize.Crashes
import Aize.RangeReads
import Aize.Migrating
import Aize.Reloading
import Aize.Transcripts
import Aize.Envelope
import Aize.Threads
import Aize.GoalDag
import Aize.Authority
import Aize.Appointments
import Aize.Rooted
import Aize.Spawning
import Aize.References
import Aize.Outcomes
import Aize.History
import Aize.Restarts
import Aize.Lots
import Aize.Sharing
import Aize.Renaming
import Aize.Intervals
