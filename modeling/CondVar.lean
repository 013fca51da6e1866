import CondVar.Bench.Desk
import CondVar.Session
import CondVar.Stage.Performance
import CondVar.Tally.Turnstile
import CondVar.Proofs.Parking
import CondVar.Proofs.Matching
import CondVar.Proofs.Interrupts
import CondVar.Proofs.Signals
import CondVar.Proofs.Epochs
import CondVar.Proofs.Crowd
import CondVar.Proofs.Accounts
import CondVar.Proofs.Permits
import CondVar.Proofs.Prompts
import CondVar.Proofs.Conservation
import CondVar.Handoff
import CondVar.Proofs.Clients
import CondVar.Proofs.Handover
import CondVar.Proofs.Storm
import CondVar.Proofs.FirstLook
import CondVar.Observation
import CondVar.Proofs.Following
import CondVar.Proofs.Wakeful
import CondVar.Proofs.Stalls
import CondVar.Atomic
import CondVar.Proofs.Ahead
import CondVar.Proofs.Covering
import CondVar.Proofs.Atomicity
import CondVar.Proofs.Passages
import CondVar.Proofs.Refusals
import CondVar.Progress
import CondVar.Proofs.Pursuit
import CondVar.Proofs.Budget
import CondVar.Proofs.Evaluations
import CondVar.Proofs.Stranding
import CondVar.Proofs.Lifetimes
import CondVar.Proofs.WrongLock
import CondVar.Proofs.Stopwatch
import CondVar.Proofs.Warnings
import CondVar.Proofs.Patience
import CondVar.Proofs.Printing
import CondVar.Log.Reading
import CondVar.Proofs.Diaries
