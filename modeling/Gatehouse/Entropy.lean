import Gatehouse.Auth.ApiKeys
import Gatehouse.Session.Provisioning

/-!
# Random draws

Random bytes come in numbered blocks of 32. Each value that a call draws takes blocks of its own.
-/

namespace Gatehouse

/-- A supply of random blocks. -/
structure Entropy where
  block : Nat → Bytes

namespace Entropy

/-- The supply from a block on. -/
def after (e : Entropy) (n : Nat) : Entropy :=
  ⟨fun i => e.block (n + i)⟩

/-- A random identifier. -/
def uuid (e : Entropy) (i : Nat) : Uuid :=
  .ofRandom ((e.block i).take 16)

/-- What a new signing key draws: two blocks. -/
def signingKey (e : Entropy) : KeyDraw :=
  ⟨e.uuid 0, e.block 1⟩

/-- What a new API key draws: two blocks. -/
def apiKey (e : Entropy) : ApiKeyDraw :=
  ⟨e.uuid 0, e.uuid 1⟩

/-- What a tenant project draws: four blocks. -/
def project (e : Entropy) : Provisioning.ProjectDraw :=
  ⟨e.uuid 0, e.uuid 1, (e.after 2).signingKey⟩

/-- What the bootstrap of the console draws: six blocks. -/
def console (e : Entropy) : Provisioning.ConsoleDraw :=
  ⟨e.uuid 0, e.uuid 1, e.uuid 2, (e.block 3).take 16, (e.after 4).signingKey⟩

end Entropy
end Gatehouse
