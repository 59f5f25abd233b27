import WgMesh.Go.Time
import WgMesh.Go.Basic
import WgMesh.Go.Strings
import WgMesh.Crypto.Envelope
import WgMesh.Crypto.Reference
import WgMesh.Crypto.Acceptance
import WgMesh.WireGuard.AllowedIP
import WgMesh.WireGuard.Device
import WgMesh.Daemon.Config
import WgMesh.Daemon.PeerStore
import WgMesh.Daemon.Reconcile
import WgMesh.Daemon.Collision
import WgMesh.Discovery.Exchange
import WgMesh.Daemon.Runtime
import WgMesh.Discovery.Mesh
import WgMesh.Discovery.Dht
import WgMesh.Discovery.Lan
import WgMesh.Privacy.Dandelion
import WgMesh.Discovery.Registry
import WgMesh.WireGuard.Config
import WgMesh.Deploy.Routes
import WgMesh.Deploy.MeshDeploy
import WgMesh.Deploy.WgQuick
import WgMesh.Deploy.Persist
import WgMesh.Go.Net
import WgMesh.Go.Flag
import WgMesh.Daemon.Service
import WgMesh.Daemon.Setup
import WgMesh.Deploy.State
import WgMesh.Deploy.Main
import WgMesh.Daemon.Startup
import WgMesh.Deploy.Rollout
