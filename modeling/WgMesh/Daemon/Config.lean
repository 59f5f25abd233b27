import WgMesh.Crypto.Envelope
import WgMesh.Go.Basic

/-! # The daemon's configuration

`Config` and the `DerivedKeys` it carries, as `NewConfig` and `crypto.DeriveKeys`
leave them, and the `LocalNode` record. Most of the model takes a configuration as
given; `deriveKeys` says what the keys are for a secret, with SHA-256 and HKDF as
parameters. The log level and the multicast discriminator are read by no modelled
function and are left out.
-/

namespace WgMesh.Daemon

open WgMesh.Crypto

def defaultWGPort : Nat := 51820

def defaultInterface : String := "wg0"

/-- `crypto.DerivedKeys`: what the shared secret determines. -/
structure DerivedKeys where
  /-- `SHA-256(secret)[0:20]`, the static DHT infohash. -/
  networkID : List UInt8
  gossipKey : Key
  /-- `[2]byte`. -/
  meshSubnet : UInt8 × UInt8
  /-- The WireGuard pre-shared key, `[32]byte`. -/
  psk : List UInt8
  gossipPort : Nat

def minSecretLength : Nat := 16

/-- HKDF-SHA256 of the secret under a salt, read into an `n`-byte buffer: it fills
the buffer. -/
structure Hkdf where
  expand : String → String → Nat → List UInt8
  length_expand : ∀ secret salt n, (expand secret salt n).length = n

/-- `crypto.DeriveKeys`, with SHA-256 as `sum256`; `len(secret)` counts bytes. -/
def deriveKeys (sum256 : List UInt8 → List UInt8) (hkdf : Hkdf) (secret : String) :
    Except String DerivedKeys :=
  if secret.utf8ByteSize < minSecretLength then
    .error ("secret must be at least " ++ toString minSecretLength ++ " characters")
  else
    let subnet := hkdf.expand secret "wgmesh-subnet-v1" 2
    let portBytes := hkdf.expand secret "wgmesh-gossip-port-v1" 2
    .ok ⟨(sum256 (Go.bytesOf secret)).take 20,
      ⟨hkdf.expand secret "wgmesh-gossip-v1" 32, hkdf.length_expand _ _ _⟩,
      (subnet.getD 0 0, subnet.getD 1 0), hkdf.expand secret "wgmesh-wg-psk-v1" 32,
      51821 + ((portBytes.getD 0 0).toNat * 256 + (portBytes.getD 1 0).toNat) % 1000⟩

theorem deriveKeys_networkID {sum256 : List UInt8 → List UInt8} {hkdf : Hkdf} {secret : String}
    {keys : DerivedKeys} (h : deriveKeys sum256 hkdf secret = .ok keys) :
    keys.networkID = (sum256 (Go.bytesOf secret)).take 20 := by
  unfold deriveKeys at h
  split_ifs at h
  cases h
  rfl

/-- `LocalNode`: this node's WireGuard identity and addresses. (The discovery layer
keeps a copy with the same fields.) -/
structure LocalNode where
  wgPubKey : String
  wgPrivateKey : String
  meshIP : String
  wgEndpoint : String
  routableNetworks : List String
deriving DecidableEq, Repr

/-- `Config`: the secret, its keys, and the local settings. -/
structure Config where
  secret : String
  keys : DerivedKeys
  interfaceName : String
  wgListenPort : Nat
  advertiseRoutes : List String

/-- A configuration to run the model on. -/
def sampleConfig : Config :=
  ⟨"example-mesh-secret", ⟨[], ⟨List.replicate 32 0, by simp⟩, (42, 0), [], 51821⟩,
    defaultInterface, defaultWGPort, []⟩

/-! ## The secret as given on the command line -/

def uriPrefix : String := "wgmesh://"

def uriVersion : String := "v1"

/-- `FormatSecretURI`: `wgmesh://v1/<secret>`. -/
def formatSecretURI (secret : String) : String := uriPrefix ++ uriVersion ++ "/" ++ secret

/-- `parseSecret`: trim the input; a `wgmesh://` URI gives what follows the first `/`
after the prefix, cut at the first `?`, or all of it when there is no `/`; any other
input is the secret itself. `secret[:idx]` cuts at the byte of an ASCII `?`, which is
its character position. -/
def parseSecret (input : String) : String :=
  let input := Go.trimSpace input
  if Go.hasPrefix input uriPrefix then
    let input := Go.trimPrefix input uriPrefix
    match Go.splitN input '/' 2 with
    | [_, secret] =>
      match Go.index '?' secret.data with
      | some idx => ⟨secret.data.take idx⟩
      | none => secret
    | parts => parts.headD ""
  else input

/-- `DaemonOpts`, without the log level. -/
structure DaemonOpts where
  secret : String
  interfaceName : String
  wgListenPort : Nat
  advertiseRoutes : List String

/-- `NewConfig`: parse the secret, derive its keys, and fill in the default interface
and port. -/
def newConfig (sum256 : List UInt8 → List UInt8) (hkdf : Hkdf) (opts : DaemonOpts) :
    Except String Config :=
  let secret := parseSecret opts.secret
  match deriveKeys sum256 hkdf secret with
  | .error e => .error ("failed to derive keys: " ++ e)
  | .ok keys =>
    .ok ⟨secret, keys, if opts.interfaceName = "" then defaultInterface else opts.interfaceName,
      if opts.wgListenPort = 0 then defaultWGPort else opts.wgListenPort, opts.advertiseRoutes⟩

theorem formatSecretURI_data (s : String) :
    (formatSecretURI s).data = 'w' :: "gmesh://v1".data ++ '/' :: s.data := rfl

theorem parseSecret_of_trimSpace {input : String} {r : List Char}
    (h : (Go.trimSpace input).data = (formatSecretURI ⟨r⟩).data) :
    parseSecret input = match Go.index '?' r with | some idx => ⟨r.take idx⟩ | none => ⟨r⟩ := by
  have hpre : Go.hasPrefix (formatSecretURI ⟨r⟩) uriPrefix = true :=
    List.isPrefixOf_iff_prefix.mpr ⟨"v1/".data ++ r, rfl⟩
  have htrim : Go.trimPrefix (formatSecretURI ⟨r⟩) uriPrefix = ⟨'v' :: '1' :: '/' :: r⟩ := by
    rw [Go.trimPrefix, if_pos hpre]
    rfl
  have hsplit : Go.splitN ⟨'v' :: '1' :: '/' :: r⟩ '/' 2 = ["v1", ⟨r⟩] := by
    simp [Go.splitN, Go.index]
  unfold parseSecret
  rw [show Go.trimSpace input = formatSecretURI ⟨r⟩ from congrArg String.mk h]
  simp only [hpre, if_true, htrim, hsplit]

/-- A secret with no `?`, no space at either end, and not itself a `wgmesh://` URI parses
to itself raw, as a URI, and as a URI with any query; so every node given one of the three
forms gets the same configuration. -/
theorem parseSecret_formatSecretURI {s : String} (hq : '?' ∉ s.data)
    (hsp : Go.trimSpace s = s) (hpre : Go.hasPrefix s uriPrefix = false) (q : String) :
    (parseSecret s = s ∧ parseSecret (formatSecretURI s) = s ∧
      parseSecret (formatSecretURI s ++ "?" ++ q) = s) ∧
    ∀ sum256 hkdf (opts : DaemonOpts),
      newConfig sum256 hkdf { opts with secret := formatSecretURI s } =
          newConfig sum256 hkdf { opts with secret := s } ∧
        newConfig sum256 hkdf { opts with secret := formatSecretURI s ++ "?" ++ q } =
          newConfig sum256 hkdf { opts with secret := s } := by
  have hraw : parseSecret s = s := by
    unfold parseSecret
    rw [hsp, if_neg (by simp [hpre])]
  have huri : parseSecret (formatSecretURI s) = s := by
    have ht := Go.trimSpace_data_of_eq (formatSecretURI_data s) (by decide) (by decide)
    rw [(Go.trimSpace_eq_self hsp).2, ← formatSecretURI_data] at ht
    rw [parseSecret_of_trimSpace ht, Go.index_eq_none hq]
  have hquery : parseSecret (formatSecretURI s ++ "?" ++ q) = s := by
    have hd : (formatSecretURI s ++ "?" ++ q).data =
        'w' :: ("gmesh://v1".data ++ '/' :: s.data) ++ '?' :: q.data := by
      simp only [String.data_append, formatSecretURI_data, List.cons_append, List.append_assoc]
      rfl
    have ht : (Go.trimSpace (formatSecretURI s ++ "?" ++ q)).data =
        (formatSecretURI ⟨s.data ++ '?' :: q.data.rdropWhile Go.isSpace⟩).data := by
      rw [Go.trimSpace_data_of_eq hd (by decide) (by decide), formatSecretURI_data]
      simp only [List.cons_append, List.append_assoc]
    rw [parseSecret_of_trimSpace ht, Go.index_append_cons hq]
    simp only [List.take_left]
  refine ⟨⟨hraw, huri, hquery⟩, fun sum256 hkdf opts => ⟨?_, ?_⟩⟩ <;>
    simp only [newConfig, hraw, huri, hquery]

end WgMesh.Daemon
