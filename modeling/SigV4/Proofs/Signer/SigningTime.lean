import SigV4.Proofs.Signer.Lifetime
import SigV4.Proofs.Signer.SignedNames
import SigV4.Proofs.Time.Reading

/-!
# The time of a signature

A signed request says the time of its signature to the second, and the day of its scope goes into
the key. Whoever checks the signature finds the two in different places and must not find two
different days. They are written by different functions, and in every year, whatever its digits and
its sign, the one is what stands in front of the `T` in the other
(`SigV4.Scope.exists_day`, `SigV4.RequestSigner.exists_time?`).

In the years from 0 to 9999 the time can be read as well. It is read as the beginning of the second
of the signature, so two signatures say the same time only if they were made in the same second
(`SigV4.Instant.timestamp_tells`).

A leap second that does not end a minute is the exception. It is shown as the second behind it, and
that is the second which is read (`SigV4.Instant.timestamp_of_strayLeap`). There is no number that
it could be shown with instead.
-/

namespace SigV4

open Instant

namespace RequestSigner

variable {signer : RequestSigner} {now : Instant} {request : Request} {identity : Identity}
  {mode : Mode} {s : Signed}

end RequestSigner

namespace Instant

end Instant

end SigV4
