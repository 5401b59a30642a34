import SecretRotation.Cluster.Metadata
import SecretRotation.Text.Base64

/-!
# Secrets

A secret as the API server stores it, and the reference by which it is fetched. A secret without a
namespace is looked for in the namespace `default`.

## Main definitions

* `Secret`.
* `SecretRef`, `Secret.ref`.
-/

namespace SecretRotation

/-- A secret. -/
structure Secret where
  metadata : ObjectMeta := {}
  data : Option (OrderedMap String Text.Base64) := none
  stringData : Option StringMap := none
  secretType : Option String := none
  immutable : Option Bool := none

/-- The namespace and name by which a secret is fetched. -/
structure SecretRef where
  ns : String
  name : String
  deriving DecidableEq

namespace SecretRef

/-- How a secret is named in logs and failures. -/
def text (r : SecretRef) : String := r.ns ++ "/" ++ r.name

end SecretRef

namespace Secret

/-- The name a secret is known by. -/
def knownAs (s : Secret) : String := s.metadata.knownAs

/-- The reference by which a secret is fetched again. -/
def ref (s : Secret) : SecretRef := ⟨s.metadata.ns.getD "default", s.knownAs⟩

end Secret

end SecretRotation
