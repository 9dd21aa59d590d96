import Launchpad.Proofs.Command.Takeover
import Launchpad.Proofs.Composition.Failing
import Launchpad.Proofs.Gazebo.Reading
import Launchpad.Proofs.Groups.Finding
import Launchpad.Proofs.Groups.Querying
import Launchpad.Proofs.Groups.Traversal
import Launchpad.Proofs.Launch.Including
import Launchpad.Proofs.Launch.Waiting
import Launchpad.Proofs.Lifecycle.Arrival
import Launchpad.Proofs.Output.ScreenLevel
import Launchpad.Proofs.Params.Flattening
import Launchpad.Proofs.Shutdown.Callbacks
import Launchpad.Proofs.Substitution.Requoting
import Launchpad.Proofs.Substitution.Termination
import Launchpad.Proofs.Supervision.Stopping
import Launchpad.Proofs.Supervision.Orphan
import Launchpad.Proofs.Supervision.Restarting
import Launchpad.Proofs.Supervision.StraySignal
import Launchpad.Proofs.Terminal.Keys
import Launchpad.Proofs.Terminal.Muting
import Launchpad.Proofs.Terminal.Scrolling
import Launchpad.Script.Run
import Launchpad.Service.Worker
import Launchpad.Session.LogRequest
import Launchpad.Starter.Complete
