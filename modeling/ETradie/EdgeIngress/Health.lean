import ETradie.Kernel.Runs

namespace ETradie.EdgeIngress

open Kernel

inductive Region where
  | usEast1 | usWest2 | euWest1 | apSoutheast1
  | custom (n : UInt8)
deriving DecidableEq

inductive UpstreamStatus where
  | healthy | unhealthy | unknown
deriving DecidableEq

structure UpstreamEndpoint where
  region : Region
  address : String
  status : UpstreamStatus := .unknown
  (consecutiveFailures consecutiveSuccesses : UInt32 := 0)
deriving DecidableEq

variable (e : UpstreamEndpoint)

namespace UpstreamEndpoint

def markHealthy : UpstreamEndpoint :=
  { e with
    consecutiveSuccesses := e.consecutiveSuccesses + 1, consecutiveFailures := 0
    status := .healthy }

def markUnhealthy : UpstreamEndpoint :=
  { e with
    consecutiveFailures := e.consecutiveFailures + 1, consecutiveSuccesses := 0
    status := .unhealthy }

end UpstreamEndpoint

abbrev UpstreamPool := Region → List UpstreamEndpoint

namespace UpstreamPool

def find (pool : UpstreamPool) (region : Region) (address : String) : Option UpstreamEndpoint :=
  (pool region).find? (·.address = address)

def getHealthyEndpoint (pool : UpstreamPool) (region : Region) : Option UpstreamEndpoint :=
  (pool region).find? (·.status = .healthy)

def updateFirst (address : String) (f : UpstreamEndpoint → UpstreamEndpoint) :
    List UpstreamEndpoint → List UpstreamEndpoint
  | [] => []
  | e :: es => if e.address = address then f e :: es else e :: updateFirst address f es

def updateEndpointHealth (pool : UpstreamPool) (region : Region) (address : String)
    (isHealthy : Bool) : UpstreamPool :=
  Function.update pool region (updateFirst address
    (if isHealthy then UpstreamEndpoint.markHealthy else UpstreamEndpoint.markUnhealthy)
    (pool region))

end UpstreamPool

structure HealthReport where
  region : Region
  address : String
  isHealthy : Bool
deriving DecidableEq

structure Upstream where
  pool : UpstreamPool
  reports : List HealthReport := []

structure HealthChecker where
  unhealthyThreshold : UInt32 := 3
  healthyThreshold : UInt32 := 2

namespace Upstream

def report (s : Upstream) (r : HealthReport) : Option Upstream :=
  some
    { pool := s.pool.updateEndpointHealth r.region r.address r.isHealthy
      reports := r :: s.reports }

def inARow (s : Upstream) (r : HealthReport) : Nat :=
  ((s.reports.filter (fun q => q.region = r.region ∧ q.address = r.address)).takeWhile
    (·.isHealthy = r.isHealthy)).length

def AtThreshold (checker : HealthChecker) (s : Upstream) (r : HealthReport) : Prop :=
  ∀ t ∈ s.report r, ∀ e ∈ s.pool.find r.region r.address, ∀ e' ∈ t.pool.find r.region r.address,
    (e.status = .healthy → e'.status = .unhealthy → checker.unhealthyThreshold.toNat ≤ t.inARow r) ∧
    (e.status = .unhealthy → e'.status = .healthy → checker.healthyThreshold.toNat ≤ t.inARow r)

end Upstream

def singlePool : UpstreamPool := Function.update (fun _ => []) e.region [e.markHealthy]

def sampleEndpoint : UpstreamEndpoint where
  region := .usEast1
  address := "192.0.2.1:443"

def sampleReport (isHealthy : Bool) : HealthReport where
  region := .usEast1
  address := "192.0.2.1:443"
  isHealthy := isHealthy

theorem inARow_pos {s t : Upstream} {r : HealthReport} (h : s.report r = some t) :
    1 ≤ t.inARow r := by
  cases h
  simp [Upstream.inARow]

theorem flips_at_threshold_iff (checker : HealthChecker) :
    (∀ (pool : UpstreamPool) (reports : List HealthReport),
        Along Upstream.report (Upstream.AtThreshold checker) { pool := pool } reports) ↔
      checker.unhealthyThreshold ≤ 1 ∧ checker.healthyThreshold ≤ 1 := by
  constructor
  · -- an endpoint goes down and comes back with one report each
    intro h
    have hrun := h (singlePool sampleEndpoint) [sampleReport false, sampleReport true]
    obtain ⟨hfst, hrs⟩ := hrun _ rfl
    obtain ⟨hsnd, -⟩ := hrs _ rfl
    have hdn := (hfst _ rfl sampleEndpoint.markHealthy (by decide +kernel)
      sampleEndpoint.markHealthy.markUnhealthy (by decide +kernel)).1 rfl rfl
    have hup := (hsnd _ rfl sampleEndpoint.markHealthy.markUnhealthy (by decide +kernel)
      sampleEndpoint.markHealthy.markUnhealthy.markHealthy (by decide +kernel)).2 rfl rfl
    exact ⟨UInt32.le_iff_toNat_le.mpr hdn, UInt32.le_iff_toNat_le.mpr hup⟩
  · rintro ⟨hdn, hup⟩ pool reports
    generalize ({ pool := pool } : Upstream) = s
    induction reports generalizing s with
    | nil => exact trivial
    | cons r reports ih =>
      intro t ht
      refine ⟨?_, ih t⟩
      intro t' ht' e _ e' _
      have hl := inARow_pos ht'
      exact ⟨fun _ _ => hdn.trans hl, fun _ _ => hup.trans hl⟩

theorem one_failure_skips_endpoint :
    (HealthChecker.unhealthyThreshold {}) = 3 ∧
      (run Upstream.report { pool := singlePool sampleEndpoint } []).map
        (fun s => s.pool.getHealthyEndpoint .usEast1) = some (some sampleEndpoint.markHealthy) ∧
      (run Upstream.report { pool := singlePool sampleEndpoint } [sampleReport false]).map
        (fun s => s.pool.getHealthyEndpoint .usEast1) = some none := by
  decide +kernel

end ETradie.EdgeIngress
