import Mathlib.Control.Monad.Basic
import Gatehouse.Gateway
import Gatehouse.Proofs.Surface

namespace Gatehouse

namespace Config

theorem validate_eq_ok_iff {c d : Config} : c.validate = .ok d ↔ c.faults = [] ∧ d = c := by
  unfold validate
  split
  next h => simp [List.isEmpty_iff.mp h, eq_comm]
  next h =>
    have hne : c.faults ≠ [] := fun he => h (by simp [he])
    simp [hne]

end Config

namespace Gateway

variable {c : Config} {ds : Destinations} {g : Gateway}

/-- The gateway that works by these settings, with its collaborators at these destinations. -/
def setUp (c : Config) (ds : Destinations) : Gateway where
  routes := surface
  auth := ⟨ds.auth, authPatience⟩
  forwarder := ⟨ds, c.timeouts.forwardSecs * 1000⟩
  monitoring := ⟨ds.monitoring, c.timeouts.forwardSecs * 1000⟩
  policy := ⟨c.cors.allowedOrigins⟩
  bodyLimit := c.limits.maxBodyBytes
  patience := c.timeouts.requestSecs * 1000

theorem ofConfig_of_ok (hf : c.faults = []) (hd : Destinations.ofBases c.bases = .ok ds) :
    ofConfig c = .ok (setUp c ds) := by
  unfold ofConfig
  rw [Config.validate_eq_ok_iff.mpr ⟨hf, rfl⟩]
  simp only [bind, Except.bind, hd]
  rfl

theorem ofConfig_of_error (hf : c.faults = []) {fault : BaseFault}
    (hd : Destinations.ofBases c.bases = .error fault) :
    ofConfig c = .error (.validation [⟨"upstreams", .unusable fault.message⟩]) := by
  unfold ofConfig
  rw [Config.validate_eq_ok_iff.mpr ⟨hf, rfl⟩]
  simp only [bind, Except.bind, hd]

theorem ofConfig_ok_inv (h : ofConfig c = .ok g) :
    c.faults = [] ∧ ∃ ds, Destinations.ofBases c.bases = .ok ds ∧ g = setUp c ds := by
  cases hv : c.validate with
  | error fault =>
    unfold ofConfig at h
    rw [hv] at h
    cases h
  | ok d =>
    obtain ⟨hf, -⟩ := Config.validate_eq_ok_iff.mp hv
    refine ⟨hf, ?_⟩
    cases hd : Destinations.ofBases c.bases with
    | error fault =>
      rw [ofConfig_of_error hf hd] at h
      cases h
    | ok ds =>
      rw [ofConfig_of_ok hf hd] at h
      exact ⟨ds, rfl, (Except.ok.inj h).symm⟩

/-- Whatever the settings are, a gateway follows the routes of the public surface. -/
theorem routes_of_ofConfig (h : ofConfig c = .ok g) : g.routes = surface := by
  obtain ⟨-, ds, -, rfl⟩ := ofConfig_ok_inv h
  rfl

/-- Where the collaborators are if nothing is set. -/
def usualDestinations : Destinations where
  auth := ⟨"http", "localhost:8000"⟩
  backend := ⟨"http", "localhost:5500"⟩
  node := ⟨"http", "localhost:7000"⟩
  monitoring := ⟨"http", "localhost:8001"⟩

theorem ofConfig_empty : ofConfig {} = .ok (setUp {} usualDestinations) :=
  ofConfig_of_ok (by decide +kernel) (by decide +kernel)

/-- The set up gateway with its routes in order, which cases are evaluated with. -/
theorem setUp_eq (c : Config) (ds : Destinations) :
    setUp c ds = { setUp c ds with routes := ⟨Surface.ordered⟩ } := by
  rw [← Surface.eq_ordered]
  rfl

end Gateway

end Gatehouse
