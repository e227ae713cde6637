import TeeAnchor.OpenSsl

/-!
# PCK certificate chains

A PCK chain may carry any number of certificates in any order.  The first
name-self-signed one is taken as root and has to carry Intel's key; the first
certificate that is not self-signed and issues no other is taken as leaf.
Certificates in the chain are told apart by their position, as the source does
by their addresses.
-/

namespace TeeAnchor.Sgx

variable (ssl : OpenSsl)

def kIntelSgxRootPubkey : Bytes :=
  [ 0x04, 0x0b, 0xa9, 0xc4, 0xc0, 0xc0, 0xc8, 0x61, 0x93, 0xa3, 0xfe, 0x23,
    0xd6, 0xb0, 0x2c, 0xda, 0x10, 0xa8, 0xbb, 0xd4, 0xe8, 0x8e, 0x48, 0xb4,
    0x45, 0x85, 0x61, 0xa3, 0x6e, 0x70, 0x55, 0x25, 0xf5, 0x67, 0x91, 0x8e,
    0x2e, 0xdc, 0x88, 0xe4, 0x0d, 0x86, 0x0b, 0xd0, 0xcc, 0x4e, 0xe2, 0x6a,
    0xac, 0xc9, 0x88, 0xe5, 0x05, 0xa9, 0x53, 0x55, 0x8c, 0x45, 0x3f, 0x6b,
    0x09, 0x04, 0xae, 0x73, 0x94 ]

/-- A certificate at its place in a chain. -/
abbrev X509Ptr := X509 × Nat

/-- The public key as an uncompressed point. -/
def getEcPubkeyUncompressed (cert : X509) : Result Bytes := do
  let pkey ← ssl.nonNull "X509_get0_pubkey" cert.pubkey
  let pub ← ssl.nonNull "EVP_PKEY_get_octet_string_param (size)"
    (ssl.ecPublicPoint pkey)
  ssl.call "EVP_PKEY_get_octet_string_param"
  return pub

def isSelfSigned (cert : X509) : Bool :=
  ssl.nameCmp cert.subject cert.issuer == 0

def findLeaf (chain : List X509Ptr) : Option X509Ptr :=
  chain.find? fun c =>
    !isSelfSigned ssl c.1 &&
      !chain.any fun other =>
        other.2 != c.2 && ssl.nameCmp c.1.subject other.1.issuer == 0

/-- Step 2: the root carries the hardcoded key. -/
def checkRootKey (root : X509) : Result Unit := do
  let rootPub ← getEcPubkeyUncompressed ssl root
  if rootPub ≠ kIntelSgxRootPubkey then
    teeAnchorError ("PCK chain root public key does not match the hardcoded " ++
      "Intel SGX Root CA public key")

/-- Step 4: verify the leaf against the root as trust anchor. -/
def verifyLeaf (root leaf : X509) (untrusted : List X509) : Result Unit := do
  ssl.call "X509_STORE_new"
  ssl.call "X509_STORE_add_cert (root)"
  ssl.call "sk_X509_new_null"
  if !untrusted.isEmpty then ssl.call "sk_X509_push"
  ssl.call "X509_STORE_CTX_new"
  ssl.call "X509_STORE_CTX_init"
  match ssl.x509VerifyCert
      ⟨[root], [], false, false, leaf, untrusted⟩ with
  | none => return ()
  | some err =>
      teeAnchorError ("PCK chain verification failed: " ++
        ssl.verifyCertErrorString err)

def verifyPckChain (certs : List X509) : Result X509 := do
  if certs.isEmpty then teeAnchorError "empty PCK chain"
  let chain := certs.zipIdx
  match chain.find? fun c => isSelfSigned ssl c.1 with
  | none => teeAnchorError "no self-signed root certificate in PCK chain"
  | some root =>
      checkRootKey ssl root.1
      match findLeaf ssl chain with
      | none =>
          teeAnchorError "could not identify leaf certificate in PCK chain"
      | some leaf =>
          let untrusted := (chain.filter fun c =>
            c.2 != root.2 && c.2 != leaf.2).map Prod.fst
          verifyLeaf ssl root.1 leaf.1 untrusted
          return leaf.1

end TeeAnchor.Sgx
