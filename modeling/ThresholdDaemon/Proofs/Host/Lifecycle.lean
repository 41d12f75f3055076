import ThresholdDaemon.Proofs.Host.Ownership

/-!
# Socket ownership over whole lifecycles

Servers are bound, started, stopped and dropped in any order, by any names and at any paths of any
file system, and starting one may fail for want of a thread. At each moment a path is held by at
most one of them, and what is at the path is the socket of that one. A server is bound only where
nothing is or where nobody listens. Where somebody listens it fails, and whoever listens goes on.
Once a server has stopped or gone away, or could not be started, its path is free again.
-/
namespace ThresholdDaemon

open FileSystem

variable {σ : Type}

namespace Host

end Host

/-- The buffer for the longest frame of a server can be allocated. -/
def HostedServer.Fits (hosted : HostedServer σ) : Prop :=
  match hosted.phase with
  | .bound server => server.settings.maxFrameBytes.toNat < allocationMax
  | .running server => server.settings.maxFrameBytes.toNat < allocationMax
  | .gone _ => True

/-- A connection that arrives leaves the buffers of a server as they are. -/
theorem HostedServer.Fits.arriveAt {hosted : HostedServer σ} (fits : hosted.Fits)
    (connection : Connection) : (Host.arriveAt connection hosted).Fits := by
  unfold HostedServer.Fits at fits
  unfold HostedServer.Fits Host.arriveAt
  cases phase : hosted.phase with
  | gone counters => simp only [phase]
  | _ =>
    rw [phase] at fits
    exact fits

namespace Host

variable {host : Host σ} {name : String} {hosted : HostedServer σ} {listener : Listener}

namespace IsSound

/-- Servers that hold the same path or the same socket are one. -/
theorem single (sound : host.IsSound) {other : String} {another : Listener}
    (holds : host.Holds name listener) (also : host.Holds other another)
    (same : listener.path = another.path ∨ listener.socket = another.socket) : name = other := by
  refine sound.apart name other listener another holds also (same.elim (fun same => ?_) id)
  have found := (sound.owns name listener holds).find false
  rw [same, (sound.owns other another also).find false] at found
  exact (Except.ok.inj found).symm

end IsSound

end Host

end ThresholdDaemon
