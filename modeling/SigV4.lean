import SigV4.Proofs.Canonical.Items
import SigV4.Proofs.Canonical.Relative
import SigV4.Proofs.Canonical.Resolved
import SigV4.Proofs.Key.Given
import SigV4.Proofs.Session
import SigV4.Proofs.Session.Clones
import SigV4.Proofs.Session.Resource
import SigV4.Proofs.Signer.Again
import SigV4.Proofs.Signer.Alike
import SigV4.Proofs.Signer.Checks
import SigV4.Proofs.Signer.CodingLines
import SigV4.Proofs.Signer.Host
import SigV4.Proofs.Signer.Lifetime
import SigV4.Proofs.Signer.Link
import SigV4.Proofs.Signer.SigningTime
import SigV4.Proofs.Signer.Unsigned
import SigV4.Proofs.Upload.Binding
import SigV4.Proofs.Upload.Slices
import SigV4.Proofs.Verification.Coordinates
import SigV4.Proofs.Verification.Encodings
import SigV4.Proofs.Verification.Symmetric
