import BundleBuild.Builder
import BundleBuild.Cli.Library
import BundleBuild.Cli.Program
import BundleBuild.Main
import BundleBuild.PlatformBundles
import BundleBuild.Proofs.Isolation
import BundleBuild.Proofs.Planning
import BundleBuild.Text.Hex
import BundleBuild.Proofs.Collecting
import BundleBuild.Proofs.Pool
import BundleBuild.Proofs.Accounting
import BundleBuild.Proofs.Alone
import BundleBuild.Proofs.Acceptance
import BundleBuild.Proofs.Lookup
import BundleBuild.Proofs.Writing
import BundleBuild.Proofs.Sharing
import BundleBuild.Proofs.Building
import BundleBuild.Proofs.Consistency
import BundleBuild.Proofs.Resolving
import BundleBuild.Proofs.Preparing
import BundleBuild.Proofs.Asking
import BundleBuild.Proofs.Containment
import BundleBuild.Proofs.Calling
import BundleBuild.Proofs.Remembering
import BundleBuild.Proofs.Failing
import BundleBuild.Proofs.Finishing
import BundleBuild.Proofs.Showing
import BundleBuild.Proofs.Exiting
import BundleBuild.Proofs.Reporting
import BundleBuild.Proofs.Belonging
import BundleBuild.Proofs.Scanning
import BundleBuild.Proofs.Decoding
import BundleBuild.Proofs.Arranging
import BundleBuild.Proofs.Customizing
import BundleBuild.Proofs.Replacing
import BundleBuild.Proofs.Stopping
import BundleBuild.Proofs.Capturing
import BundleBuild.Proofs.Transcoding
import BundleBuild.Proofs.Loading
import BundleBuild.Proofs.Separating
import BundleBuild.Proofs.Withholding
import BundleBuild.Proofs.Wrapping
import BundleBuild.Proofs.Keeping
import BundleBuild.Proofs.Rendering
import BundleBuild.Proofs.Displaying
import BundleBuild.Proofs.Recognizing
import BundleBuild.Proofs.Normalizing
import BundleBuild.Proofs.Anchoring
