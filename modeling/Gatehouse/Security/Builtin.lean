import Gatehouse.Extension.Registry
import Gatehouse.Security.Auth
import Gatehouse.Security.Csrf
import Gatehouse.Security.RateLimit
import Gatehouse.Security.ResponseHeaders

/-!
# Extensions that are always at hand

The registry that knows the protective extensions, each built from the
section of its own name.
-/

namespace Gatehouse.Security

open Gatehouse.Extension (Registration Registry)

/-- The extensions by their ids. -/
def builtins : List (String × Registration) :=
  [(ResponseHeaders.key, ⟨ResponseHeaders.key, ResponseHeaders.construct⟩),
    (RateLimit.key, ⟨RateLimit.key, RateLimit.construct⟩),
    (Csrf.key, ⟨Csrf.key, Csrf.construct⟩),
    (Auth.key, ⟨Auth.key, Auth.construct⟩)]

/-- The registry that knows them. -/
def registry : Registry :=
  builtins.foldl
    (fun registry (id, registration) => registry.insert id registration)
    .empty

end Gatehouse.Security
