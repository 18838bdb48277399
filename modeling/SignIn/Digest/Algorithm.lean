import SignIn.Digest.Md5
import SignIn.Digest.Sha1
import SignIn.Digest.Sha256
import SignIn.Digest.Sha512

/-!
# Digest algorithms

The algorithms by which directories store passwords, each with the size of its digests.
-/

namespace SignIn

/-- An algorithm that turns a message into a digest of fixed size. -/
inductive DigestAlgorithm where
  | md5
  | sha1
  | sha256
  | sha512
deriving DecidableEq

namespace DigestAlgorithm

def name : DigestAlgorithm → String
  | .md5 => "md5"
  | .sha1 => "sha1"
  | .sha256 => "sha256"
  | .sha512 => "sha512"

def ofName? (t : Text) : Option DigestAlgorithm :=
  [md5, sha1, sha256, sha512].find? fun a => Text.ofString a.name == t

def size : DigestAlgorithm → Nat
  | .md5 => 16
  | .sha1 => 20
  | .sha256 => 32
  | .sha512 => 64

def digest : DigestAlgorithm → Octets → Octets
  | .md5 => Md5.digest
  | .sha1 => Sha1.digest
  | .sha256 => Sha256.digest
  | .sha512 => Sha512.digest

@[simp] theorem length_digest (a : DigestAlgorithm) (message : Octets) :
    (a.digest message).length = a.size := by
  cases a
  · exact Md5.length_digest message
  · exact Sha1.length_digest message
  · exact Sha256.length_digest message
  · exact Sha512.length_digest message

end DigestAlgorithm

end SignIn
